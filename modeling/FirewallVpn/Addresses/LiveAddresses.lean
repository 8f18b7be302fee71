import FirewallVpn.Addresses.AddressScreen
import FirewallVpn.Library.LiveQuery

/-! What the address screen shows when its collectors have caught up: the screen is a
view of live queries, one for each visit. -/

set_option autoImplicit false

namespace FirewallVpn

open LiveQuery

namespace Addresses

private theorem rows_update_of_none {table : AddressTable} (selected : AppAddressEntity → Bool)
    {update : RowUpdate} (spares : ∀ row, selected row = false → update.set row = row)
    (none : table.rows.any selected = false) : (table.update update).rows = table.rows := by
  have kept : ∀ row ∈ table.rows, update.set row = id row := by
    intro row member
    exact spares row (by simpa using List.any_eq_false.mp none row member)
  exact (List.map_congr_left kept).trans (List.map_id _)

private theorem setIsBlocked_spares {selected : AppAddressEntity → Bool} {isBlocked : Bool}
    (row : AppAddressEntity) (other : selected row = false) :
    (RowUpdate.setIsBlocked selected isBlocked).set row = row := by
  simp [RowUpdate.setIsBlocked, other]

private theorem rows_of_tracker {addresses : Addresses} {index : Nat} {tracker : Tracker}
    (located : addresses.trackers[index]? = some tracker)
    (unchanged : addresses.changesTable (.tracker index) = false) :
    (addresses.trackerStep index tracker).table.rows = addresses.table.rows := by
  simp only [changesTable, located, Option.any_some] at unchanged
  cases stage : tracker.stage with
  | lookup => simp only [trackerStep, stage]
  | updateLastSeen =>
      simp only [trackerStep, stage]
      rw [stage] at unchanged
      refine rows_update_of_none
        (fun row => row.key = destinationKey tracker.packageName tracker.traffic) ?_ ?_
      · intro row other
        simp only [RowUpdate.setLastSeen, other, Bool.false_eq_true, if_false]
      · rw [AddressTable.getAddress, List.isSome_find?] at unchanged
        exact unchanged
  | insertAddress =>
      rw [stage] at unchanged
      cases unchanged

theorem rows_of_unchanged {addresses next : Addresses} {label : Label}
    (taken : addresses.step label = some next) (unchanged : addresses.changesTable label = false) :
    next.table.rows = addresses.table.rows := by
  cases label with
  | trackAppAddress =>
      cases taken
      rfl
  | tracker index =>
      obtain ⟨tracker, located, rfl⟩ := Option.map_eq_some_iff.mp taken
      exact rows_of_tracker located unchanged
  | trackerThrows index =>
      obtain ⟨tracker, -, rfl⟩ := Option.map_eq_some_iff.mp taken
      rfl
  | toggleAddressBlock | blockAllAddressesForApp | allowAllAddressesForApp =>
      cases taken
      exact rows_update_of_none _ setIsBlocked_spares unchanged

/-- `getAddressesForApp` as flows of the table, one for each package asked for. -/
def getAddressesForApp : Queried Addresses Label String (List AppAddressEntity) where
  advance := step
  invalidates := changesTable
  answer packageName addresses := addresses.table.getAddressesForApp packageName
  silent taken unchanged packageName := by
    rw [AddressTable.getAddressesForApp, rows_of_unchanged taken unchanged]
    rfl

end Addresses

def AddressCollector.flow (collector : AddressCollector) : Flow String (List AppAddressEntity) where
  query := collector.packageName
  running := collector.running
  invalidated := collector.invalidated
  results := collector.results

namespace AddressScreen

def view (screen : AddressScreen) (shownBy : Option Nat) :
    View Addresses String (List AppAddressEntity) where
  source := screen.addresses
  flows := screen.collectors.map AddressCollector.flow
  shown := screen.currentAppAddresses
  shownBy := shownBy

def viewLabel : Label → LiveQuery.Label Addresses.Label String
  | .loadAddressesForApp packageName => .load packageName
  | .change label => .change label
  | .query index => .ask index
  | .queryThrows index => .fail index
  | .collect index => .deliver index

def noteCollect (_ : AddressScreen) (label : Label) (shownBy : Option Nat) : Option Nat :=
  match label with
  | .collect index => some index
  | .loadAddressesForApp _ | .change _ | .query _ | .queryThrows _ => shownBy

variable {screen next : AddressScreen} {shownBy : Option Nat}

theorem view_set {index : Nat} {collector : AddressCollector} :
    (screen.setCollector index collector).view shownBy =
      (screen.view shownBy).set index collector.flow := by
  simp [view, setCollector, View.set, List.map_set]

theorem view_step {label : Label} (taken : step screen label = some next) :
    View.step Addresses.getAddressesForApp (screen.view shownBy) (viewLabel label) =
      some (next.view (noteCollect screen label shownBy)) := by
  have located : ∀ index : Nat, (screen.view shownBy).flows[index]? =
      screen.collectors[index]?.map AddressCollector.flow := by
    intro index
    exact List.getElem?_map
  cases label with
  | loadAddressesForApp packageName =>
      cases taken
      simp [View.step, viewLabel, view, noteCollect, AddressCollector.flow]
  | change label =>
      obtain ⟨addresses, updated, rfl⟩ := Option.map_eq_some_iff.mp taken
      have advanced : Addresses.getAddressesForApp.advance (screen.view shownBy).source label =
          some addresses := updated
      simp only [View.step, viewLabel, advanced, Option.map_some, Option.some.injEq]
      by_cases changes : screen.addresses.changesTable label = true
      · have invalid : Addresses.getAddressesForApp.invalidates (screen.view shownBy).source label =
            true := changes
        rw [if_pos changes, if_pos invalid]
        simp [view, noteCollect, AddressCollector.flow, Function.comp_def]
      · have valid : ¬ Addresses.getAddressesForApp.invalidates (screen.view shownBy).source label =
            true := changes
        rw [if_neg changes, if_neg valid]
        rfl
  | query index =>
      simp only [step] at taken
      split at taken
      · cases taken
      · next collector found =>
          split at taken
          · next due =>
              cases taken
              have asks : (collector.flow.running && collector.flow.invalidated) = true := due
              simp only [View.step, viewLabel, located, found, Option.map_some, asks, if_true]
              rw [noteCollect, view_set]
              rfl
          · cases taken
  | queryThrows index =>
      simp only [step] at taken
      split at taken
      · cases taken
      · next collector found =>
          split at taken
          · next due =>
              cases taken
              have asks : (collector.flow.running && collector.flow.invalidated) = true := due
              simp only [View.step, viewLabel, located, found, Option.map_some, asks, if_true]
              rw [noteCollect, view_set]
              rfl
          · cases taken
  | collect index =>
      simp only [step] at taken
      split at taken
      · cases taken
      · next collector found =>
          split at taken
          · cases taken
          · next emission results onTheWay =>
              cases taken
              have queued : collector.flow.results = emission :: results := onTheWay
              simp only [View.step, viewLabel, located, found, Option.map_some, queued]
              simp [view, setCollector, View.set, List.map_set, noteCollect, AddressCollector.flow]

/-- Nothing is left to do: no query is due, and no emission is on its way. -/
def AtRest (screen : AddressScreen) : Prop :=
  ∀ collector ∈ screen.collectors,
    (collector.running → collector.invalidated = false) ∧ collector.results = []

instance (screen : AddressScreen) : Decidable screen.AtRest :=
  inferInstanceAs (Decidable (∀ collector ∈ screen.collectors, _))

theorem view_current {labels : List Label}
    (ran : Transition.run (Transition.observed step noteCollect) (initial, none) labels =
      some (screen, shownBy)) :
    View.Current Addresses.getAddressesForApp (screen.view shownBy) := by
  refine Transition.run_preserves (fun state : AddressScreen × Option Nat =>
    View.Current Addresses.getAddressesForApp (state.1.view state.2)) ?_ ?_ ran
  · intro state label next current taken
    obtain ⟨before, noted⟩ := state
    obtain ⟨after, notedAfter⟩ := next
    obtain ⟨stepped, rfl⟩ := Transition.observed_iff.mp taken
    exact current.step (view_step stepped)
  · exact ⟨List.forall_mem_nil _, fun _ last => by cases last⟩

/-- Two packages have the same list only if they are one or neither has addresses. -/
theorem getAddressesForApp_eq_iff {table : AddressTable} {packageName other : String} :
    table.getAddressesForApp other = table.getAddressesForApp packageName ↔
      other = packageName ∨
        table.getAddressesForApp other = [] ∧ table.getAddressesForApp packageName = [] := by
  constructor
  · intro same
    cases listed : table.getAddressesForApp other with
    | nil => exact .inr ⟨rfl, same.symm.trans listed⟩
    | cons row rows =>
        have member : row ∈ table.getAddressesForApp other := listed ▸ List.mem_cons_self
        have named := (AddressTable.mem_getAddressesForApp.mp member).2
        rw [same] at member
        exact .inl (named.symm.trans (AddressTable.mem_getAddressesForApp.mp member).2)
  · intro either
    rcases either with rfl | ⟨none, alsoNone⟩
    · rfl
    · rw [none, alsoNone]

theorem shown_eq {labels : List Label}
    (ran : Transition.run (Transition.observed step noteCollect) (initial, none) labels =
      some (screen, shownBy))
    (rest : screen.AtRest) {index : Nat} {collector : AddressCollector} (last : shownBy = some index)
    (located : screen.collectors[index]? = some collector) (running : collector.running) :
    screen.currentAppAddresses = screen.addresses.table.getAddressesForApp collector.packageName := by
  have flows : (screen.view shownBy).flows[index]? = some collector.flow := by
    rw [view, List.getElem?_map, located]
    rfl
  have resting : (screen.view shownBy).AtRest := by
    intro flow member
    obtain ⟨other, inList, rfl⟩ := List.mem_map.mp member
    exact rest other inList
  exact (view_current ran).answers resting last flows running

/-- When every collector is up to date, the screen shows the rows that its table holds now
for the package whose collector delivered last, if that collector has not failed since;
for any package, the one opened last say, that is its list exactly if the two packages
are one, or both without addresses. -/
theorem addresses_shown_at_rest {labels : List Label}
    (ran : Transition.run (Transition.observed step noteCollect) (initial, none) labels =
      some (screen, shownBy))
    (rest : screen.AtRest) {index : Nat} {collector : AddressCollector} (last : shownBy = some index)
    (located : screen.collectors[index]? = some collector) (running : collector.running) :
    screen.currentAppAddresses = screen.addresses.table.getAddressesForApp collector.packageName ∧
      ∀ packageName,
        screen.currentAppAddresses = screen.addresses.table.getAddressesForApp packageName ↔
          collector.packageName = packageName ∨
            screen.addresses.table.getAddressesForApp collector.packageName = [] ∧
              screen.addresses.table.getAddressesForApp packageName = [] := by
  have shown := shown_eq ran rest last located running
  refine ⟨shown, fun packageName => ?_⟩
  rw [shown]
  exact getAddressesForApp_eq_iff

/-- The mail app is looked at, has another packet, and is looked at again. -/
def visitedAgain : List Label :=
  mailPacket ++ [.loadAddressesForApp "com.example.mail", .query 0, .collect 0,
      .loadAddressesForApp "com.example.mail", .query 1] ++ mailPacket ++
    [.collect 1, .query 0, .query 1, .collect 1, .collect 0]

theorem visitedAgain_shows :
    ∃ screen, Transition.run (Transition.observed step noteCollect) (initial, none) visitedAgain =
        some (screen, some 0) ∧
      screen.currentAppAddresses =
        screen.addresses.table.getAddressesForApp "com.example.mail" := by
  have seen : (Transition.run (Transition.observed step noteCollect) (initial, none)
      visitedAgain).any (fun state => decide state.1.AtRest && decide (state.2 = some 0) &&
        state.1.collectors[0]?.any fun collector =>
          collector.running && decide (collector.packageName = "com.example.mail")) = true := by
    decide +kernel
  obtain ⟨⟨screen, shownBy⟩, ran, holds⟩ := (Option.any_eq_true _ _).mp seen
  simp only [Bool.and_eq_true, decide_eq_true_eq] at holds
  obtain ⟨⟨rest, rfl⟩, first⟩ := holds
  obtain ⟨collector, located, running⟩ := (Option.any_eq_true _ _).mp first
  simp only [Bool.and_eq_true, decide_eq_true_eq] at running
  obtain ⟨runs, named⟩ := running
  have shows := (addresses_shown_at_rest ran rest rfl located runs).1
  rw [named] at shows
  exact ⟨screen, ran, shows⟩

end AddressScreen

end FirewallVpn
