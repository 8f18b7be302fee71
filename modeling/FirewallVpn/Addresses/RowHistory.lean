import FirewallVpn.Addresses.BlockAll

/-! What becomes of a row once it is in the table. Rows are never removed; apart
from `lastSeen` only the user's requests change them, and of two rows with one
key only the older decides. -/

set_option autoImplicit false

namespace FirewallVpn

namespace Addresses

/-- The value a step gives to `isBlocked` of a row, if it is about that row. -/
def Label.request (row : AppAddressEntity) : Label → Option Bool
  | .toggleAddressBlock addressId isBlocked => if row.id = addressId then some isBlocked else none
  | .blockAllAddressesForApp packageName => if row.packageName = packageName then some true else none
  | .allowAllAddressesForApp packageName => if row.packageName = packageName then some false else none
  | .trackAppAddress _ _ _ | .tracker _ | .trackerThrows _ => none

def lastRequest (row : AppAddressEntity) (labels : List Label) : Option Bool :=
  (labels.filterMap (Label.request row)).getLast?

theorem lastRequest_concat (row : AppAddressEntity) (labels : List Label) (label : Label) :
    lastRequest row (labels ++ [label]) = (label.request row).or (lastRequest row labels) := by
  unfold lastRequest
  rw [List.filterMap_append]
  cases requested : label.request row with
  | none => simp [requested]
  | some isBlocked => simp [requested]

theorem setsBlocked_eq (label : Label) (row : AppAddressEntity) :
    label.setsBlocked row = (label.request row).getD row.isBlocked := by
  cases label with
  | toggleAddressBlock addressId isBlocked =>
      by_cases same : row.id = addressId
      · cases isBlocked <;> simp [Label.setsBlocked, Label.request, Label.blocks, Label.unblocks, same]
      · simp [Label.setsBlocked, Label.request, Label.blocks, Label.unblocks, same, Ne.symm same]
  | blockAllAddressesForApp packageName | allowAllAddressesForApp packageName =>
      by_cases same : row.packageName = packageName
      · simp [Label.setsBlocked, Label.request, Label.blocks, Label.unblocks, same]
      · simp [Label.setsBlocked, Label.request, Label.blocks, Label.unblocks, same, Ne.symm same]
  | trackAppAddress | tracker | trackerThrows =>
      simp [Label.setsBlocked, Label.request, Label.blocks, Label.unblocks]

/-- The row is in the table with this flag; only `lastSeen` is left open. -/
def Keeps (addresses : Addresses) (row : AppAddressEntity) (isBlocked : Bool) : Prop :=
  ∃ lastSeen, { row with isBlocked, lastSeen } ∈ addresses.table.rows

private theorem keeps_setIsBlocked {table : AddressTable} {row : AppAddressEntity}
    {selected : AppAddressEntity → Bool} {isBlocked given : Bool} (trackers : List Tracker)
    (member : row ∈ table.rows) (value : given = if selected row then isBlocked else row.isBlocked) :
    Keeps { table := table.update (.setIsBlocked selected isBlocked), trackers } row given := by
  have kept := List.mem_map_of_mem (f := (RowUpdate.setIsBlocked selected isBlocked).set) member
  refine ⟨row.lastSeen, ?_⟩
  simp only [RowUpdate.setIsBlocked] at kept
  rw [value]
  split at kept
  · next chosen =>
      rw [if_pos chosen]
      exact kept
  · next other =>
      rw [if_neg other]
      exact kept

private theorem keeps_tracker {addresses : Addresses} {row : AppAddressEntity} (index : Nat)
    (tracker : Tracker) (member : row ∈ addresses.table.rows) :
    (addresses.trackerStep index tracker).Keeps row row.isBlocked := by
  cases stage : tracker.stage with
  | lookup =>
      simp only [trackerStep, stage]
      exact ⟨row.lastSeen, member⟩
  | updateLastSeen =>
      simp only [trackerStep, stage]
      have kept := List.mem_map_of_mem (f := (RowUpdate.setLastSeen (fun row => row.key =
        destinationKey tracker.packageName tracker.traffic) tracker.traffic.timeStamp).set) member
      simp only [RowUpdate.setLastSeen] at kept
      split at kept
      · exact ⟨tracker.traffic.timeStamp, kept⟩
      · exact ⟨row.lastSeen, kept⟩
  | insertAddress =>
      simp only [trackerStep, stage]
      exact ⟨row.lastSeen, List.mem_append_left _ member⟩

theorem keeps_step {addresses next : Addresses} {label : Label} {row : AppAddressEntity}
    (member : row ∈ addresses.table.rows) (taken : addresses.step label = some next) :
    next.Keeps row ((label.request row).getD row.isBlocked) := by
  cases label with
  | trackAppAddress packageName appName traffic =>
      cases taken
      exact ⟨row.lastSeen, member⟩
  | tracker index =>
      obtain ⟨tracker, -, rfl⟩ := Option.map_eq_some_iff.mp taken
      exact keeps_tracker index tracker member
  | trackerThrows index =>
      obtain ⟨tracker, -, rfl⟩ := Option.map_eq_some_iff.mp taken
      exact ⟨row.lastSeen, member⟩
  | toggleAddressBlock addressId isBlocked =>
      cases taken
      refine keeps_setIsBlocked addresses.trackers member ?_
      by_cases same : row.id = addressId <;> simp [Label.request, same]
  | blockAllAddressesForApp packageName | allowAllAddressesForApp packageName =>
      cases taken
      refine keeps_setIsBlocked addresses.trackers member ?_
      by_cases same : row.packageName = packageName <;> simp [Label.request, same]

theorem keeps_run {addresses final : Addresses} {labels : List Label} {row : AppAddressEntity}
    (member : row ∈ addresses.table.rows)
    (ran : Transition.run step addresses labels = some final) :
    final.Keeps row ((lastRequest row labels).getD row.isBlocked) := by
  refine Transition.run_history
    (fun labels reached => reached.Keeps row ((lastRequest row labels).getD row.isBlocked))
    ?_ ⟨row.lastSeen, member⟩ ran
  intro labels reached label next kept taken
  obtain ⟨lastSeen, present⟩ := kept
  obtain ⟨later, stays⟩ := keeps_step present taken
  have asked : label.request { row with
      isBlocked := (lastRequest row labels).getD row.isBlocked, lastSeen } = label.request row := by
    cases label <;> rfl
  rw [asked] at stays
  rw [lastRequest_concat]
  refine ⟨later, ?_⟩
  cases requested : label.request row with
  | none => simpa [requested] using stays
  | some isBlocked => simpa [requested] using stays

/-- The row is new in the table after a step. -/
def Inserted (row : AppAddressEntity) (before after : Addresses) : Prop :=
  row ∈ after.table.rows ∧ ∀ old ∈ before.table.rows, old.id ≠ row.id

instance (row : AppAddressEntity) (before after : Addresses) : Decidable (Inserted row before after) :=
  inferInstanceAs (Decidable (_ ∧ ∀ old ∈ before.table.rows, old.id ≠ row.id))

private theorem inserted_not_updated {addresses next : Addresses} {row : AppAddressEntity}
    {update : RowUpdate} (inserted : Inserted row addresses next)
    (updated : next.table.rows = addresses.table.rows.map update.set) : False := by
  obtain ⟨present, new⟩ := inserted
  rw [updated] at present
  obtain ⟨old, member, rfl⟩ := List.mem_map.mp present
  exact new old member (update.keepsId old).symm

private theorem inserted_not_kept {addresses next : Addresses} {row : AppAddressEntity}
    (inserted : Inserted row addresses next) (same : next.table = addresses.table) : False :=
  inserted.2 row (same ▸ inserted.1) rfl

theorem inserted_unblocked {addresses next : Addresses} {label : Label} {row : AppAddressEntity}
    (taken : addresses.step label = some next) (inserted : Inserted row addresses next) :
    row.isBlocked = false := by
  cases label with
  | tracker index =>
      obtain ⟨tracker, -, rfl⟩ := Option.map_eq_some_iff.mp taken
      cases stage : tracker.stage with
      | lookup =>
          simp only [trackerStep, stage] at inserted
          exact (inserted_not_kept inserted rfl).elim
      | updateLastSeen =>
          simp only [trackerStep, stage] at inserted
          exact (inserted_not_updated inserted rfl).elim
      | insertAddress =>
          simp only [trackerStep, stage] at inserted
          rcases List.mem_append.mp inserted.1 with old | single
          · exact absurd rfl (inserted.2 row old)
          · rw [List.mem_singleton.mp single]
            rfl
  | trackAppAddress packageName appName traffic =>
      cases taken
      exact (inserted_not_kept inserted rfl).elim
  | trackerThrows index =>
      obtain ⟨tracker, -, rfl⟩ := Option.map_eq_some_iff.mp taken
      exact (inserted_not_kept inserted rfl).elim
  | toggleAddressBlock | blockAllAddressesForApp | allowAllAddressesForApp =>
      cases taken
      exact (inserted_not_updated inserted rfl).elim

private theorem keeps_inserted {addresses next final : Addresses} {label : Label} {after : List Label}
    {row : AppAddressEntity} (taken : addresses.step label = some next)
    (inserted : Inserted row addresses next)
    (later : Transition.run step next after = some final) :
    final.Keeps row ((lastRequest row after).getD false) := by
  have kept := keeps_run inserted.1 later
  rw [inserted_unblocked taken inserted] at kept
  exact kept

/-- A step of the run has inserted the row, which has since kept its columns and
is blocked as the last request about it has said. -/
def ComesFrom (labels : List Label) (final : Addresses) (row : AppAddressEntity) : Prop :=
  ∃ before label after addresses next inserted,
    labels = before ++ label :: after ∧ Transition.run step initial before = some addresses ∧
      addresses.step label = some next ∧ Inserted inserted addresses next ∧
      Transition.run step next after = some final ∧
      row = { inserted with
        isBlocked := (lastRequest inserted after).getD false, lastSeen := row.lastSeen }

private theorem comesFrom_of_run {labels : List Label} {final : Addresses}
    (ran : Transition.run step initial labels = some final) :
    ∀ row ∈ final.table.rows, ComesFrom labels final row := by
  refine (Transition.run_history (fun labels reached =>
    Transition.run step initial labels = some reached ∧
      ∀ row ∈ reached.table.rows, ComesFrom labels reached row) ?_ ⟨rfl, nofun⟩ ran).2
  rintro labels addresses label next ⟨reached, known⟩ taken
  have ranNext : Transition.run step initial (labels ++ [label]) = some next :=
    Transition.run_append_singleton reached taken
  refine ⟨ranNext, fun row member => ?_⟩
  by_cases new : ∀ old ∈ addresses.table.rows, old.id ≠ row.id
  · have unblocked := inserted_unblocked taken ⟨member, new⟩
    refine ⟨labels, label, [], addresses, next, row, rfl, reached, taken, ⟨member, new⟩, rfl, ?_⟩
    simp [lastRequest, ← unblocked]
  · simp only [not_forall, not_not] at new
    obtain ⟨old, oldMember, same⟩ := new
    obtain ⟨before, first, after, early, second, inserted, rfl, ranEarly, firstTaken, isNew, ranAfter,
      former⟩ := known old oldMember
    have ranLater : Transition.run step second (after ++ [label]) = some next :=
      Transition.run_append_singleton ranAfter taken
    obtain ⟨lastSeen, kept⟩ := keeps_inserted firstTaken isNew ranLater
    have current := AddressTable.eq_of_id_eq member kept (by rw [← same, former])
    refine ⟨before, first, after ++ [label], early, second, inserted, by simp, ranEarly, firstTaken,
      isNew, ranLater, ?_⟩
    rw [current]

/-- No block is lost: the rows of a reachable table are those that were ever
inserted, with their columns, and each is blocked exactly as the last request
about it since its insertion has said. Trackers make no requests. -/
theorem rows_keep_requests {labels : List Label} {final : Addresses}
    (ran : Transition.run step initial labels = some final) :
    (∀ before label after addresses next row, labels = before ++ label :: after →
      Transition.run step initial before = some addresses → addresses.step label = some next →
      Inserted row addresses next →
      ∃ lastSeen, { row with isBlocked := (lastRequest row after).getD false, lastSeen } ∈
        final.table.rows) ∧
    ∀ row ∈ final.table.rows, ComesFrom labels final row := by
  refine ⟨fun before label after addresses next row split early taken inserted => ?_,
    comesFrom_of_run ran⟩
  rw [split, Transition.run_append_iff] at ran
  obtain ⟨middle, ranBefore, rest⟩ := ran
  rw [early, Option.some.injEq] at ranBefore
  subst ranBefore
  obtain ⟨following, stepped, later⟩ := Transition.run_cons_iff.mp rest
  rw [taken, Option.some.injEq] at stepped
  subst stepped
  exact keeps_inserted taken inserted later

/-- Seen, blocked, and seen again. -/
def seenBlockedSeen : List Label :=
  [.trackAppAddress "com.example.mail" "Mail" (trafficTo "93.184.216.34"), .tracker 0, .tracker 0,
    .toggleAddressBlock 1 true,
    .trackAppAddress "com.example.mail" "Mail" (trafficTo "93.184.216.34"), .tracker 0, .tracker 0]

theorem seen_again_stays_blocked :
    ∃ final, Transition.run step initial seenBlockedSeen = some final ∧
      ∃ lastSeen, { mailServer with id := 1, isBlocked := true, lastSeen } ∈ final.table.rows := by
  obtain ⟨final, ran⟩ := Option.isSome_iff_exists.mp
    (by decide : (Transition.run step initial seenBlockedSeen).isSome = true)
  have inserted : Inserted { mailServer with id := 1 }
      { table := .empty, trackers := [⟨"com.example.mail", "Mail", trafficTo "93.184.216.34",
        .insertAddress⟩] } mailServerSeen := by decide
  exact ⟨final, ran, (rows_keep_requests ran).1 (seenBlockedSeen.take 2) (.tracker 0)
    (seenBlockedSeen.drop 3) _ mailServerSeen { mailServer with id := 1 } rfl rfl rfl inserted⟩

/-! The switch of a row works by id, the verdict by `getAddress`. -/

/-- The step asks for nothing about any row of the app. -/
def LeavesApp (packageName : String) (addresses : Addresses) (label : Label) : Prop :=
  ∀ row ∈ addresses.table.rows, row.packageName = packageName → label.request row = none

instance (packageName : String) (addresses : Addresses) (label : Label) :
    Decidable (LeavesApp packageName addresses label) :=
  inferInstanceAs (Decidable (∀ row ∈ addresses.table.rows,
    row.packageName = packageName → label.request row = none))

/-- The row is the one `getAddress` selects for its key, or that one is set
already as the user wants it. -/
def Decides (addresses : Addresses) (row : AppAddressEntity) (isBlocked : Bool) : Prop :=
  ∃ first ∈ addresses.table.getAddress row.key, first.id = row.id ∨ first.isBlocked = isBlocked

private theorem addressBlocked_leaves {addresses next : Addresses} {label : Label} {key : AddressKey}
    (kept : LeavesApp key.packageName addresses label) (taken : addresses.step label = some next) :
    next.addressBlocked key = addresses.addressBlocked key := by
  rw [addressBlocked_step taken, addressBlocked]
  cases found : addresses.table.getAddress key with
  | none => rfl
  | some row =>
      obtain ⟨member, matched⟩ := AddressTable.getAddress_key found
      have asked := kept row member (congrArg AddressKey.packageName matched)
      simp only [Option.any_some]
      rw [setsBlocked_eq, asked, Option.getD_none]

private theorem getAddress_of_member {table : AddressTable} {row : AppAddressEntity}
    (member : row ∈ table.rows) : ∃ first, table.getAddress row.key = some first := by
  refine Option.isSome_iff_exists.mp ?_
  rw [AddressTable.getAddress, List.find?_isSome]
  exact ⟨row, member, by simp⟩

/-- After a toggle, and until the next request about the app, the test of the
row's address returns what the switch says exactly when the row decides. A query
that throws counts as not blocked. -/
theorem toggle_decides_iff {addresses final : Addresses} {row : AppAddressEntity} {isBlocked : Bool}
    {later : List Label} (member : row ∈ addresses.table.rows)
    (ran : Transition.run step addresses (.toggleAddressBlock row.id isBlocked :: later) = some final)
    (kept : Transition.Guarded step (LeavesApp row.packageName)
      { addresses with table := addresses.table.updateBlockStatus row.id isBlocked } later)
    (thrown : Option String) :
    isAddressBlockedForApp (queryAddress final thrown row.key) = isBlocked ↔
      match thrown with
      | none => Decides addresses row isBlocked
      | some _ => isBlocked = false := by
  obtain ⟨toggled, taken, rest⟩ := Transition.run_cons_iff.mp ran
  cases taken
  have unchanged : final.addressBlocked row.key = Addresses.addressBlocked
      { addresses with table := addresses.table.updateBlockStatus row.id isBlocked } row.key :=
    kept.preserves (fun reached => reached.addressBlocked row.key = Addresses.addressBlocked
        { addresses with table := addresses.table.updateBlockStatus row.id isBlocked } row.key)
      (fun _ _ _ same leaves taken => (addressBlocked_leaves leaves taken).trans same) rfl rest
  rw [isAddressBlockedForApp_query, unchanged]
  cases thrown with
  | some error => simp [eq_comm]
  | none =>
      obtain ⟨first, found⟩ := getAddress_of_member member
      have toggles : addresses.step (.toggleAddressBlock row.id isBlocked) =
          some { addresses with table := addresses.table.updateBlockStatus row.id isBlocked } := rfl
      rw [addressBlocked_step toggles, found]
      simp only [Decides, found, Option.isNone_none, Bool.true_and, Option.any_some, setsBlocked_eq,
        Label.request]
      by_cases same : first.id = row.id <;> simp [same]

theorem single_row_decides :
    ∃ final, Transition.run step mailServerSeen [.toggleAddressBlock 1 true] = some final ∧
      isAddressBlockedForApp (queryAddress final none mailServer.key) = true := by
  have member : { mailServer with id := 1 } ∈ mailServerSeen.table.rows := by decide
  have ran : Transition.run step mailServerSeen [.toggleAddressBlock 1 true] =
      some { mailServerSeen with table := mailServerSeen.table.updateBlockStatus 1 true } := rfl
  exact ⟨_, ran, (toggle_decides_iff member ran True.intro none).mpr
    ⟨{ mailServer with id := 1 }, by decide, .inl rfl⟩⟩

/-- Two packets to one server: each coroutine looks before the other inserts. -/
def seenTwice : List Label :=
  [.trackAppAddress "com.example.mail" "Mail" (trafficTo "93.184.216.34"),
    .trackAppAddress "com.example.mail" "Mail" (trafficTo "93.184.216.34"),
    .tracker 0, .tracker 1, .tracker 0, .tracker 0]

def mailServerTwice : Addresses where
  table := mailServerSeen.table.insertAddress mailServer
  trackers := []

theorem second_row_ignored :
    ¬ ∀ (addresses final : Addresses) (row : AppAddressEntity) (isBlocked : Bool)
        (later : List Label),
      Transition.Reachable step initial addresses → row ∈ addresses.table.rows →
      Transition.run step addresses (.toggleAddressBlock row.id isBlocked :: later) = some final →
      Transition.Guarded step (LeavesApp row.packageName)
        { addresses with table := addresses.table.updateBlockStatus row.id isBlocked } later →
      isAddressBlockedForApp (queryAddress final none row.key) = isBlocked := by
  intro decided
  have seen : Transition.Reachable step initial mailServerTwice := ⟨seenTwice, rfl⟩
  have blocked := decided mailServerTwice
    { mailServerTwice with table := mailServerTwice.table.updateBlockStatus 2 true }
    { mailServer with id := 2 } true [] seen (by decide) rfl True.intro
  exact absurd blocked (by decide)

end Addresses

end FirewallVpn
