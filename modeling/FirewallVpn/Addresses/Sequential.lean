import FirewallVpn.Addresses.AddressMap

/-! Operations that are carried out one after the other: the table is then the
map of destinations it stands for. -/

set_option autoImplicit false

namespace FirewallVpn

def AppAddressEntity.state (row : AppAddressEntity) : AddressState :=
  ⟨row.id, row.firstSeen, row.lastSeen, row.isBlocked⟩

/-- Rows and entries correspond to each other, so no key has a second row. -/
structure Refines (table : AddressTable) (map : AddressMap) : Prop where
  rows : ∀ row ∈ table.rows, map.entries row.key = some row.state
  entries : ∀ key state, map.entries key = some state →
    ∃ row ∈ table.rows, row.key = key ∧ row.state = state
  nextId : map.nextId = table.nextId

namespace Refines

theorem empty : Refines .empty .empty where
  rows := nofun
  entries := nofun
  nextId := rfl

theorem getAddress {table : AddressTable} {map : AddressMap} (refines : Refines table map)
    (key : AddressKey) : (table.getAddress key).map AppAddressEntity.state = map.entries key := by
  cases found : table.getAddress key with
  | some row =>
      obtain ⟨member, rfl⟩ := AddressTable.getAddress_key found
      exact (refines.rows row member).symm
  | none =>
      cases entry : map.entries key with
      | none => rfl
      | some state =>
          obtain ⟨row, member, rfl, -⟩ := refines.entries key state entry
          rw [AddressTable.getAddress, List.find?_eq_none] at found
          exact absurd (decide_eq_true rfl) (found row member)

theorem distinct {table : AddressTable} {map : AddressMap} (refines : Refines table map)
    {row other : AppAddressEntity} (member : row ∈ table.rows) (otherMember : other ∈ table.rows)
    (same : row.key = other.key) : row = other := by
  have entry := refines.rows row member
  rw [same, refines.rows other otherMember, Option.some.injEq] at entry
  have sameId : other.id = row.id := congrArg AddressState.id entry
  exact AddressTable.eq_of_id_eq member otherMember sameId.symm

theorem update {table : AddressTable} {map changed : AddressMap} (refines : Refines table map)
    (update : RowUpdate) (change : AddressKey → AddressState → AddressState)
    (sets : ∀ row, (update.set row).state = change row.key row.state)
    (entries : ∀ key, changed.entries key = (map.entries key).map (change key))
    (nextId : changed.nextId = map.nextId) : Refines (table.update update) changed where
  rows := by
    intro row member
    obtain ⟨old, oldMember, rfl⟩ := List.mem_map.mp member
    rw [update.keepsKey, entries, refines.rows old oldMember, Option.map_some, sets]
  entries := by
    intro key state entry
    rw [entries, Option.map_eq_some_iff] at entry
    obtain ⟨old, oldEntry, rfl⟩ := entry
    obtain ⟨row, member, rfl, rfl⟩ := refines.entries key old oldEntry
    exact ⟨update.set row, List.mem_map_of_mem member, update.keepsKey row, sets row⟩
  nextId := nextId.trans refines.nextId

theorem setIsBlocked {table : AddressTable} {map : AddressMap} (refines : Refines table map)
    (selected : AppAddressEntity → Bool) (chosen : AddressKey → AddressState → Bool)
    (isBlocked : Bool) (same : ∀ row, selected row = chosen row.key row.state) :
    Refines (table.update (.setIsBlocked selected isBlocked)) (map.setBlocked chosen isBlocked) := by
  refine refines.update (.setIsBlocked selected isBlocked)
    (fun key state => if chosen key state then { state with isBlocked } else state)
    (fun row => ?_) (fun _ => rfl) rfl
  simp only [RowUpdate.setIsBlocked, same row]
  split <;> rfl

theorem updateLastSeen {table : AddressTable} {map : AddressMap} (refines : Refines table map)
    {key : AddressKey} {state : AddressState} (entry : map.entries key = some state)
    (timestamp : String) :
    Refines (table.updateLastSeen key timestamp) (map.track key timestamp) := by
  refine refines.update _
    (fun other state => if other = key then { state with lastSeen := timestamp } else state)
    (fun row => ?_) (fun other => ?_) ?_
  · simp only [RowUpdate.setLastSeen, decide_eq_true_eq]
    split <;> rfl
  · by_cases same : other = key
    · subst same
      rw [map.entries_track_self, entry]
      simp [AddressMap.seen]
    · simp [map.entries_track_other same, same]
  · simp only [AddressMap.track, entry]

theorem insertAddress {table : AddressTable} {map : AddressMap} (refines : Refines table map)
    (tracker : Tracker)
    (missing : map.entries (destinationKey tracker.packageName tracker.traffic) = none) :
    Refines (table.insertAddress tracker.newAddress)
      (map.track (destinationKey tracker.packageName tracker.traffic) tracker.traffic.timeStamp) where
  rows := by
    intro row member
    rcases List.mem_append.mp member with old | single
    · have entry := refines.rows row old
      have other : row.key ≠ destinationKey tracker.packageName tracker.traffic := by
        intro same
        rw [same, missing] at entry
        cases entry
      rw [map.entries_track_other other]
      exact entry
    · rw [List.mem_singleton.mp single]
      refine (map.entries_track_self _ _).trans ?_
      rw [missing, refines.nextId]
      rfl
  entries := by
    intro key state entry
    by_cases same : key = destinationKey tracker.packageName tracker.traffic
    · subst same
      rw [map.entries_track_self, missing, refines.nextId, Option.some.injEq] at entry
      exact ⟨_, List.mem_append_right _ (List.mem_singleton_self _), rfl, entry⟩
    · rw [map.entries_track_other same] at entry
      obtain ⟨row, member, rfl, rfl⟩ := refines.entries key state entry
      exact ⟨row, List.mem_append_left _ member, rfl, rfl⟩
  nextId := by
    simp only [AddressMap.track, missing, AddressTable.insertAddress, refines.nextId]

end Refines

/-- The steps of an operation that nothing comes between. -/
def Operation.labels : Operation → List Addresses.Label
  | .trackAppAddress packageName appName traffic =>
      [.trackAppAddress packageName appName traffic, .tracker 0, .tracker 0]
  | .updateBlockStatus id isBlocked => [.toggleAddressBlock id isBlocked]
  | .updateAllAddressesForApp packageName isBlocked =>
      [if isBlocked then .blockAllAddressesForApp packageName else .allowAllAddressesForApp packageName]
  | .isAddressBlockedForApp _ => []

namespace Addresses

def execute (addresses : Addresses) (operation : Operation) : Option Addresses :=
  Transition.run step addresses operation.labels

theorem execute_trackAppAddress (table : AddressTable) (packageName appName : String)
    (traffic : TrafficLogResponse) :
    execute { table, trackers := [] } (.trackAppAddress packageName appName traffic) =
      some {
        table := match table.getAddress (destinationKey packageName traffic) with
          | some _ => table.updateLastSeen (destinationKey packageName traffic) traffic.timeStamp
          | none =>
              table.insertAddress (Tracker.mk packageName appName traffic .insertAddress).newAddress
        trackers := [] } := by
  cases found : table.getAddress (destinationKey packageName traffic) <;>
    simp [execute, Operation.labels, Transition.run_cons, step, trackerStep, found]

/-- Each operation comes to its end, and does what it does to the map. -/
theorem execute_refines {addresses : Addresses} {map : AddressMap}
    (idle : addresses.trackers = []) (refines : Refines addresses.table map) (operation : Operation) :
    ∃ next, addresses.execute operation = some next ∧ next.trackers = [] ∧
      Refines next.table (map.apply operation) := by
  obtain ⟨table, trackers⟩ := addresses
  subst idle
  cases operation with
  | trackAppAddress packageName appName traffic =>
      refine ⟨_, execute_trackAppAddress table packageName appName traffic, rfl, ?_⟩
      have looked := refines.getAddress (destinationKey packageName traffic)
      cases found : table.getAddress (destinationKey packageName traffic) with
      | none =>
          rw [found] at looked
          exact refines.insertAddress ⟨packageName, appName, traffic, .insertAddress⟩ looked.symm
      | some row =>
          rw [found] at looked
          exact refines.updateLastSeen looked.symm traffic.timeStamp
  | updateBlockStatus id isBlocked =>
      exact ⟨_, rfl, rfl, refines.setIsBlocked _ _ isBlocked fun _ => rfl⟩
  | updateAllAddressesForApp packageName isBlocked =>
      have updated := refines.setIsBlocked (fun row => row.packageName = packageName)
        (fun key _ => key.packageName = packageName) isBlocked fun _ => rfl
      refine ⟨{ table := table.updateAllAddressesForApp packageName isBlocked, trackers := [] },
        ?_, rfl, updated⟩
      cases isBlocked <;> rfl
  | isAddressBlockedForApp key => exact ⟨_, rfl, rfl, refines⟩

private theorem run_execute (operations : List Operation) :
    ∃ final, Transition.run execute initial operations = some final ∧ final.trackers = [] ∧
      Refines final.table (.after operations) := by
  induction operations using List.reverseRecOn with
  | nil => exact ⟨initial, rfl, rfl, .empty⟩
  | append_singleton operations operation ih =>
      obtain ⟨reached, ran, idle, refines⟩ := ih
      obtain ⟨next, taken, ended, refined⟩ := execute_refines idle refines operation
      rw [← AddressMap.after_concat] at refined
      refine ⟨next, Transition.run_append_iff.mpr ⟨reached, ran, ?_⟩, ended, refined⟩
      simp [Transition.run_cons, taken]

/-- Operations carried out one after the other come to their end and leave the
table of the map that they describe, and the test of an address returns the flag
of its entry. -/
theorem sequential_refines (operations : List Operation) :
    ∃ final, Transition.run execute initial operations = some final ∧ final.trackers = [] ∧
      Refines final.table (.after operations) ∧
      (∀ key, match (AddressMap.after operations).entries key with
        | none => Operation.timeStamps key operations = []
        | some state => AddressMap.Records operations key state) ∧
      ∀ key, isAddressBlockedForApp (queryAddress final none key) =
        (AddressMap.after operations).isBlocked key := by
  obtain ⟨final, ran, ended, refines⟩ := run_execute operations
  refine ⟨final, ran, ended, refines, AddressMap.entries_after operations, fun key => ?_⟩
  rw [AddressMap.isBlocked, ← refines.getAddress key]
  cases found : final.table.getAddress key with
  | none => simp [queryAddress, isAddressBlockedForApp, found]
  | some row => simp [queryAddress, isAddressBlockedForApp, found, AppAddressEntity.state]

end Addresses

end FirewallVpn
