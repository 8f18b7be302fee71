import FirewallVpn.Addresses.RowHistory

/-! The screen with the addresses of one app. Each visit adds a collector of that
app's rows; none of them ends, and all of them write the one list that is shown. -/

set_option autoImplicit false

namespace FirewallVpn

/-- A coroutine of `loadAddressesForApp`. A result of its query is an emission once
`collect` gets it. -/
structure AddressCollector where
  packageName : String
  running : Bool
  /-- A query is due: the first one, or one for a change since the last. -/
  invalidated : Bool
  results : List (List AppAddressEntity)
  deriving DecidableEq

structure AddressScreen where
  addresses : Addresses
  collectors : List AddressCollector
  currentAppAddresses : List AppAddressEntity

/-- The statement inserts or updates a row, which invalidates every flow of the table. -/
def Addresses.changesTable (addresses : Addresses) : Addresses.Label → Bool
  | .tracker index =>
      (addresses.trackers[index]?).any fun tracker =>
        match tracker.stage with
        | .lookup => false
        | .updateLastSeen =>
            (addresses.table.getAddress (destinationKey tracker.packageName tracker.traffic)).isSome
        | .insertAddress => true
  | .toggleAddressBlock addressId _ => addresses.table.rows.any fun row => row.id = addressId
  | .blockAllAddressesForApp packageName | .allowAllAddressesForApp packageName =>
      addresses.table.rows.any fun row => row.packageName = packageName
  | .trackAppAddress _ _ _ | .trackerThrows _ => false

namespace AddressScreen

def initial : AddressScreen where
  addresses := .initial
  collectors := []
  currentAppAddresses := []

inductive Label where
  | loadAddressesForApp (packageName : String)
  | change (label : Addresses.Label)
  | query (index : Nat)
  /-- The exception ends the collector and is logged. -/
  | queryThrows (index : Nat)
  | collect (index : Nat)
  deriving DecidableEq

variable (screen : AddressScreen)

def queryDue (collector : AddressCollector) : Bool := collector.running && collector.invalidated

def setCollector (index : Nat) (collector : AddressCollector) : AddressScreen :=
  { screen with collectors := screen.collectors.set index collector }

def step : Label → Option AddressScreen
  | .loadAddressesForApp packageName =>
      some { screen with
        collectors := screen.collectors ++
          [{ packageName, running := true, invalidated := true, results := [] }] }
  | .change label =>
      (screen.addresses.step label).map fun addresses => { screen with
        addresses
        collectors :=
          if screen.addresses.changesTable label then
            screen.collectors.map fun collector => { collector with invalidated := true }
          else screen.collectors }
  | .query index =>
      match screen.collectors[index]? with
      | none => none
      | some collector =>
          if queryDue collector then
            some (screen.setCollector index { collector with
              invalidated := false
              results := collector.results ++
                [screen.addresses.table.getAddressesForApp collector.packageName] })
          else none
  | .queryThrows index =>
      match screen.collectors[index]? with
      | none => none
      | some collector =>
          if queryDue collector then
            some (screen.setCollector index { collector with running := false })
          else none
  | .collect index =>
      match screen.collectors[index]? with
      | none => none
      | some collector =>
          match collector.results with
          | [] => none
          | emission :: results =>
              some { screen.setCollector index { collector with results } with
                currentAppAddresses := emission }

/-- The package of the last call of `loadAddressesForApp`. -/
def openPackage : Option String := (screen.collectors.map AddressCollector.packageName).getLast?

/-- The list holds rows of this package alone, and a tap on one of them leaves the
rows of every other package as they are. -/
structure ShowsOnly (packageName : String) : Prop where
  rows : ∀ row ∈ screen.currentAppAddresses, row.packageName = packageName
  taps : ∀ row ∈ screen.currentAppAddresses, ∀ isBlocked, ∀ other ∈ screen.addresses.table.rows,
    other.packageName ≠ packageName →
      other ∈ (screen.addresses.table.updateBlockStatus row.id isBlocked).rows

/-- A delivered emission comes from a collector of the package opened last, or has no
rows. -/
def OwnEmission : Label → Prop
  | .collect index => ∀ collector ∈ screen.collectors[index]?,
      some collector.packageName = screen.openPackage ∨ collector.results.head? = some []
  | .loadAddressesForApp _ | .change _ | .query _ | .queryThrows _ => True

instance : ∀ label, Decidable (screen.OwnEmission label)
  | .collect index => inferInstanceAs (Decidable (∀ collector ∈ screen.collectors[index]?, _))
  | .loadAddressesForApp _ | .change _ | .query _ | .queryThrows _ => .isTrue True.intro

/-- An emission has been delivered since the last call of `loadAddressesForApp`. -/
def delivered (labels : List Label) : Bool :=
  labels.foldl (fun delivered label =>
    match label with
    | .loadAddressesForApp _ => false
    | .collect _ => true
    | .change _ | .query _ | .queryThrows _ => delivered) false

/-- At any moment of the run, the emissions since the last call have left rows of its
package alone. -/
def KeepsToPackage (labels : List Label) : Prop :=
  ∀ before screen packageName, before <+: labels →
    Transition.run step initial before = some screen → delivered before →
    screen.openPackage = some packageName → screen.ShowsOnly packageName

/-! What a step can do. -/

/-- The collector at `index` goes on as `after`. -/
structure Moves (screen : AddressScreen) (index : Nat) (collector after : AddressCollector) : Prop where
  located : screen.collectors[index]? = some collector
  sameName : after.packageName = collector.packageName

inductive ScreenStep (screen : AddressScreen) : Label → AddressScreen → Prop where
  | loaded {packageName : String} (collector : AddressCollector)
      (named : collector.packageName = packageName) (none : collector.results = []) :
      ScreenStep screen (.loadAddressesForApp packageName)
        { screen with collectors := screen.collectors ++ [collector] }
  | changed {label : Addresses.Label} {addresses : Addresses} (mark : AddressCollector → AddressCollector)
      (taken : screen.addresses.step label = some addresses)
      (sameName : ∀ collector, (mark collector).packageName = collector.packageName)
      (sameResults : ∀ collector, (mark collector).results = collector.results) :
      ScreenStep screen (.change label)
        { screen with addresses, collectors := screen.collectors.map mark }
  | queried {index : Nat} {collector after : AddressCollector} (moves : Moves screen index collector after)
      (more : after.results = collector.results ++
        [screen.addresses.table.getAddressesForApp collector.packageName]) :
      ScreenStep screen (.query index) (screen.setCollector index after)
  | queryThrew {index : Nat} {collector after : AddressCollector}
      (moves : Moves screen index collector after) (same : after.results = collector.results) :
      ScreenStep screen (.queryThrows index) (screen.setCollector index after)
  | collected {index : Nat} {collector after : AddressCollector} {emission : List AppAddressEntity}
      (moves : Moves screen index collector after)
      (next : collector.results = emission :: after.results) :
      ScreenStep screen (.collect index)
        { screen.setCollector index after with currentAppAddresses := emission }

variable {screen} {next : AddressScreen} {label : Label}

theorem step_screen (taken : step screen label = some next) : ScreenStep screen label next := by
  cases label with
  | loadAddressesForApp packageName =>
      cases taken
      exact .loaded _ rfl rfl
  | change label =>
      obtain ⟨addresses, updated, rfl⟩ := Option.map_eq_some_iff.mp taken
      by_cases changes : screen.addresses.changesTable label = true
      · rw [if_pos changes]
        exact .changed _ updated (fun _ => rfl) fun _ => rfl
      · have same : screen.collectors.map id = screen.collectors := List.map_id _
        rw [if_neg changes, ← same]
        exact .changed id updated (fun _ => rfl) fun _ => rfl
  | query index =>
      simp only [step] at taken
      split at taken
      · cases taken
      · next collector located =>
          split at taken <;> cases taken
          exact .queried ⟨located, rfl⟩ rfl
  | queryThrows index =>
      simp only [step] at taken
      split at taken
      · cases taken
      · next collector located =>
          split at taken <;> cases taken
          exact .queryThrew ⟨located, rfl⟩ rfl
  | collect index =>
      simp only [step] at taken
      split at taken
      · cases taken
      · next collector located =>
          split at taken <;> cases taken
          next results => exact .collected ⟨located, rfl⟩ results

private theorem Moves.names {index : Nat} {collector after : AddressCollector}
    (moves : Moves screen index collector after) :
    (screen.setCollector index after).collectors.map AddressCollector.packageName =
      screen.collectors.map AddressCollector.packageName := by
  have named : (screen.collectors.map AddressCollector.packageName)[index]? =
      some collector.packageName := by
    rw [List.getElem?_map, moves.located, Option.map_some]
  obtain ⟨within, same⟩ := List.getElem?_eq_some_iff.mp named
  have moved : (screen.setCollector index after).collectors = screen.collectors.set index after := rfl
  rw [moved, List.map_set, moves.sameName, ← same, List.set_getElem_self]

/-- Only a call changes which package was opened last. -/
theorem openPackage_step (taken : step screen label = some next)
    (stays : ∀ packageName, label ≠ .loadAddressesForApp packageName) :
    next.openPackage = screen.openPackage := by
  cases step_screen taken with
  | loaded => exact absurd rfl (stays _)
  | changed mark _ sameName =>
      simp only [openPackage, List.map_map, Function.comp_def, sameName]
  | queried moves | queryThrew moves | collected moves =>
      exact congrArg List.getLast? moves.names

/-- Only an emission changes what is shown. -/
theorem shown_step (taken : step screen label = some next) (stays : ∀ index, label ≠ .collect index) :
    next.currentAppAddresses = screen.currentAppAddresses := by
  cases step_screen taken with
  | loaded | changed | queried | queryThrew => rfl
  | collected => exact absurd rfl (stays _)

theorem openPackage_of_collector {index : Nat} {collector : AddressCollector}
    (located : screen.collectors[index]? = some collector) :
    ∃ packageName, screen.openPackage = some packageName := by
  cases opened : screen.openPackage with
  | some packageName => exact ⟨packageName, rfl⟩
  | none =>
      rw [openPackage, List.getLast?_eq_none_iff, List.map_eq_nil_iff] at opened
      rw [opened] at located
      cases located

/-! Every row that a flow has emitted is still in the table, as a row of its package. -/

def Stored (table : AddressTable) (row : AppAddressEntity) : Prop :=
  ∃ stored ∈ table.rows, stored.id = row.id ∧ stored.packageName = row.packageName

structure Sound (screen : AddressScreen) : Prop where
  results : ∀ collector ∈ screen.collectors, ∀ emission ∈ collector.results, ∀ row ∈ emission,
    row.packageName = collector.packageName ∧ Stored screen.addresses.table row
  shown : ∀ row ∈ screen.currentAppAddresses, Stored screen.addresses.table row

/-- What a collector delivers are rows of its package. -/
theorem Sound.emitted {index : Nat} {collector after : AddressCollector}
    {emission : List AppAddressEntity} (sound : Sound screen)
    (moves : Moves screen index collector after) (head : collector.results = emission :: after.results) :
    ∀ row ∈ emission, row.packageName = collector.packageName ∧ Stored screen.addresses.table row := by
  refine sound.results collector (List.mem_of_getElem? moves.located) emission ?_
  rw [head]
  exact List.mem_cons_self

theorem Stored.step {addresses after : Addresses} {label : Addresses.Label} {row : AppAddressEntity}
    (kept : Stored addresses.table row) (taken : addresses.step label = some after) :
    Stored after.table row := by
  obtain ⟨stored, member, sameId, sameName⟩ := kept
  obtain ⟨lastSeen, stays⟩ := Addresses.keeps_step member taken
  exact ⟨_, stays, sameId, sameName⟩

private theorem Sound.move {index : Nat} {collector after : AddressCollector} (sound : Sound screen)
    (moves : Moves screen index collector after)
    (results : ∀ emission ∈ after.results, emission ∈ collector.results ∨
      emission = screen.addresses.table.getAddressesForApp collector.packageName) :
    Sound (screen.setCollector index after) := by
  refine ⟨fun member inList emission emitted row shown => ?_, sound.shown⟩
  rcases List.mem_or_eq_of_mem_set inList with old | rfl
  · exact sound.results member old emission emitted row shown
  · rw [moves.sameName]
    rcases results emission emitted with before | rfl
    · exact sound.results collector (List.mem_of_getElem? moves.located) emission before row shown
    · obtain ⟨inTable, named⟩ := AddressTable.mem_getAddressesForApp.mp shown
      exact ⟨named, row, inTable, rfl, rfl⟩

theorem Sound.step (sound : Sound screen) (taken : AddressScreen.step screen label = some next) :
    Sound next := by
  cases step_screen taken with
  | loaded collector named none =>
      refine ⟨fun member inList => ?_, sound.shown⟩
      rcases List.mem_append.mp inList with old | new
      · exact sound.results member old
      · rw [List.mem_singleton.mp new, none]
        exact List.forall_mem_nil _
  | changed mark changes sameName sameResults =>
      refine ⟨fun member inList emission emitted row shown => ?_, fun row shown => ?_⟩
      · obtain ⟨collector, old, rfl⟩ := List.mem_map.mp inList
        rw [sameResults] at emitted
        rw [sameName]
        obtain ⟨named, kept⟩ := sound.results collector old emission emitted row shown
        exact ⟨named, kept.step changes⟩
      · exact (sound.shown row shown).step changes
  | queried moves more =>
      refine sound.move moves fun emission emitted => ?_
      rw [more] at emitted
      exact (List.mem_append.mp emitted).imp_right List.mem_singleton.mp
  | queryThrew moves same => exact sound.move moves fun emission emitted => .inl (same ▸ emitted)
  | @collected index collector after emission moves head =>
      have moved : Sound (screen.setCollector index after) := by
        refine sound.move moves fun other emitted => .inl ?_
        rw [head]
        exact List.mem_cons_of_mem _ emitted
      exact ⟨moved.results, fun row shown => (sound.emitted moves head row shown).2⟩

theorem sound_of_run {labels : List Label} {final : AddressScreen}
    (ran : Transition.run AddressScreen.step initial labels = some final) : Sound final :=
  Transition.run_preserves Sound (fun _ _ _ sound taken => sound.step taken)
    ⟨List.forall_mem_nil _, List.forall_mem_nil _⟩ ran

/-! A tap goes by the id of a row, which no row of another package has. -/

theorem Stored.tap {table : AddressTable} {row other : AppAddressEntity} (kept : Stored table row)
    (member : other ∈ table.rows) (foreign : other.packageName ≠ row.packageName) (isBlocked : Bool) :
    other ∈ (table.updateBlockStatus row.id isBlocked).rows := by
  obtain ⟨stored, inTable, sameId, sameName⟩ := kept
  have distinct : other.id ≠ row.id := by
    intro same
    have one := AddressTable.eq_of_id_eq member inTable (same.trans sameId.symm)
    exact foreign (by rw [one, sameName])
  refine List.mem_map.mpr ⟨other, member, ?_⟩
  simp [RowUpdate.setIsBlocked, distinct]

theorem Sound.showsOnly {packageName : String} (sound : Sound screen)
    (rows : ∀ row ∈ screen.currentAppAddresses, row.packageName = packageName) :
    screen.ShowsOnly packageName := by
  refine ⟨rows, fun row shown isBlocked other member foreign => ?_⟩
  exact (sound.shown row shown).tap member (by rwa [rows row shown]) isBlocked

theorem delivered_append_singleton (labels : List Label) (label : Label) :
    delivered (labels ++ [label]) =
      match label with
      | .loadAddressesForApp _ => false
      | .collect _ => true
      | .change _ | .query _ | .queryThrows _ => delivered labels := by
  simp only [delivered, List.foldl_append, List.foldl_cons, List.foldl_nil]

/-- What is shown belongs to the package opened last, once an emission has come. -/
private theorem ownRows_step {labels : List Label} (sound : Sound screen)
    (own : screen.OwnEmission label) (taken : step screen label = some next)
    (before : delivered labels → ∀ packageName, screen.openPackage = some packageName →
      ∀ row ∈ screen.currentAppAddresses, row.packageName = packageName)
    (after : delivered (labels ++ [label])) (packageName : String)
    (opened : next.openPackage = some packageName) :
    ∀ row ∈ next.currentAppAddresses, row.packageName = packageName := by
  rw [delivered_append_singleton] at after
  cases label with
  | loadAddressesForApp => cases after
  | change | query | queryThrows =>
      rw [openPackage_step taken fun _ => nofun] at opened
      rw [shown_step taken fun _ => nofun]
      exact before after packageName opened
  | collect index =>
      rw [openPackage_step taken fun _ => nofun] at opened
      cases step_screen taken with
      | @collected _ collector _ emission moves head =>
          intro row shown
          rcases own collector moves.located with same | empty
          · rw [opened, Option.some.injEq] at same
            rw [← same]
            exact (sound.emitted moves head row shown).1
          · rw [head, List.head?_cons, Option.some.injEq] at empty
            rw [empty] at shown
            cases shown

/-- The emissions keep to the package opened last exactly if each of them that is
delivered comes from a collector of that package or has no rows. -/
theorem keepsToPackage_iff {labels : List Label} {final : AddressScreen}
    (ran : Transition.run step initial labels = some final) :
    KeepsToPackage labels ↔ Transition.Guarded step OwnEmission initial labels := by
  rw [Transition.guarded_iff_forall_step]
  constructor
  · intro keeps before label screen within reached
    cases label with
    | loadAddressesForApp | change | query | queryThrows => exact True.intro
    | collect index =>
        intro collector located
        obtain ⟨next, taken⟩ := Transition.step_of_prefix ran within reached
        obtain ⟨packageName, opened⟩ := openPackage_of_collector located
        have sound := sound_of_run reached
        have opens := (openPackage_step taken fun _ => nofun).trans opened
        have nowDelivered : delivered (before ++ [.collect index]) := delivered_append_singleton before _
        have shows := keeps _ next packageName within
          (Transition.run_append_singleton reached taken) nowDelivered opens
        cases step_screen taken with
        | @collected _ same after emission moves head =>
            obtain rfl := Option.some.inj (located.symm.trans moves.located)
            rw [opened, head, List.head?_cons]
            cases emission with
            | nil => exact .inr rfl
            | cons row emission =>
                have named := (sound.emitted moves head row List.mem_cons_self).1
                rw [← named, shows.rows row List.mem_cons_self]
                exact .inl rfl
  · intro own before screen packageName within reached after opened
    refine (sound_of_run reached).showsOnly ?_
    refine Transition.run_induction (fun first screen => first <+: labels → delivered first →
      ∀ packageName, screen.openPackage = some packageName →
        ∀ row ∈ screen.currentAppAddresses, row.packageName = packageName)
      ?_ (fun _ delivered => (by cases delivered)) reached within after packageName opened
    intro first screen label next reached known taken within
    have earlier := known ((List.prefix_append first [label]).trans within)
    exact ownRows_step (sound_of_run reached) (own first label screen within reached) taken earlier

/-- A packet of the mail app to its server. -/
def mailPacket : List Label :=
  [.change (.trackAppAddress "com.example.mail" "Mail" (Addresses.trafficTo "93.184.216.34")),
    .change (.tracker 0), .change (.tracker 0)]

/-- The screen of the mail app is opened, and then that of an app without addresses. -/
def twoVisits : List Label :=
  mailPacket ++ [.loadAddressesForApp "com.example.mail", .query 0, .collect 0,
    .loadAddressesForApp "com.example.web", .query 1, .collect 1]

theorem twoVisits_keep :
    ∃ final, Transition.run step initial twoVisits = some final ∧ KeepsToPackage twoVisits := by
  have observed : (Transition.run step initial twoVisits).isSome := by decide +kernel
  obtain ⟨final, ran⟩ := Option.isSome_iff_exists.mp observed
  exact ⟨final, ran, (keepsToPackage_iff ran).mpr (by decide +kernel)⟩

/-- One more packet, and the first collector puts the mail app's row on the screen of
the other app. -/
theorem mail_on_other_screen :
    ¬ ∀ (labels : List Label) (final : AddressScreen),
      Transition.run step initial labels = some final → KeepsToPackage labels := by
  intro all
  have observed :
      (Transition.run step initial (twoVisits ++ mailPacket ++ [.query 0, .collect 0])).map
        (fun final => (final.openPackage, final.currentAppAddresses.map AppAddressEntity.packageName)) =
      some (some "com.example.web", ["com.example.mail"]) := by
    decide +kernel
  obtain ⟨final, ran, seen⟩ := Option.map_eq_some_iff.mp observed
  obtain ⟨opened, names⟩ := Prod.mk.inj seen
  have shows := all _ final ran _ final _ (List.prefix_refl _) ran (by decide +kernel) opened
  obtain ⟨row, shown, named⟩ := List.mem_map.mp (names ▸ List.mem_singleton_self "com.example.mail")
  rw [shows.rows row shown] at named
  exact absurd named (by decide)

end AddressScreen

end FirewallVpn
