import FirewallVpn.Addresses.RowHistory

/-! How many rows a destination has. No index keeps the rows apart: a second one
appears when a packet is looked up while the tracker of an earlier one has found
no row but has not inserted its own. -/

set_option autoImplicit false

namespace FirewallVpn

def Tracker.key (tracker : Tracker) : AddressKey :=
  destinationKey tracker.packageName tracker.traffic

/-- The tracker has found no row for `key` and is about to insert one. -/
def Tracker.inserts (key : AddressKey) (tracker : Tracker) : Bool :=
  tracker.stage = .insertAddress && tracker.key = key

namespace Addresses

def rowsFor (addresses : Addresses) (key : AddressKey) : Nat :=
  addresses.table.rows.countP fun row => row.key = key

/-- The rows of a key, with those that trackers are bound to insert. -/
def pledged (addresses : Addresses) (key : AddressKey) : Nat :=
  addresses.rowsFor key + addresses.trackers.countP (Tracker.inserts key)

/-- A packet is looked up while no other tracker of its key is about to insert. -/
def LookupAlone (addresses : Addresses) : Label → Prop
  | .tracker index => ∀ tracker ∈ addresses.trackers[index]?, tracker.stage = .lookup →
      ∀ other ∈ addresses.trackers, ¬ other.inserts tracker.key
  | _ => True

instance (addresses : Addresses) (label : Label) : Decidable (LookupAlone addresses label) :=
  match label with
  | .tracker index =>
      inferInstanceAs (Decidable (∀ tracker ∈ addresses.trackers[index]?, tracker.stage = .lookup →
        ∀ other ∈ addresses.trackers, ¬ other.inserts tracker.key))
  | .trackAppAddress _ _ _ | .trackerThrows _ | .toggleAddressBlock _ _ | .blockAllAddressesForApp _
  | .allowAllAddressesForApp _ => .isTrue True.intro

/-- No query of a tracker throws. -/
def Completes (_ : Addresses) : Label → Prop
  | .trackerThrows _ => False
  | _ => True

theorem rowsFor_eq_zero {addresses : Addresses} {key : AddressKey} :
    addresses.rowsFor key = 0 ↔ addresses.table.getAddress key = none := by
  simp [rowsFor, AddressTable.getAddress, List.countP_eq_zero, List.find?_eq_none]

theorem rowsFor_insertAddress (addresses : Addresses) (address : AppAddressEntity)
    (trackers : List Tracker) (key : AddressKey) :
    rowsFor { table := addresses.table.insertAddress address, trackers } key =
      addresses.rowsFor key + if address.key = key then 1 else 0 := by
  have sameKey : AppAddressEntity.key { address with id := addresses.table.nextId } = address.key := rfl
  simp only [rowsFor, AddressTable.insertAddress, List.countP_append, List.countP_singleton, sameKey,
    decide_eq_true_eq]

theorem rowsFor_update (addresses : Addresses) (update : RowUpdate) (trackers : List Tracker)
    (key : AddressKey) :
    rowsFor { table := addresses.table.update update, trackers } key = addresses.rowsFor key := by
  simp only [rowsFor, AddressTable.update, List.countP_map]
  refine List.countP_congr fun row _ => ?_
  simp only [Function.comp_apply, update.keepsKey]

private theorem countP_removed {trackers : List Tracker} {index : Nat} {tracker : Tracker}
    (found : trackers[index]? = some tracker) (selected : Tracker → Bool) :
    trackers.countP selected =
      (trackers.eraseIdx index).countP selected + if selected tracker then 1 else 0 := by
  obtain ⟨within, rfl⟩ := List.getElem?_eq_some_iff.mp found
  rw [← (List.getElem_cons_eraseIdx_perm within).countP_eq selected, List.countP_cons]

private theorem countP_replaced {trackers : List Tracker} {index : Nat} {tracker moved : Tracker}
    (found : trackers[index]? = some tracker) {selected : Tracker → Bool}
    (outside : selected tracker = false) :
    (trackers.set index moved).countP selected =
      trackers.countP selected + if selected moved then 1 else 0 := by
  obtain ⟨within, rfl⟩ := List.getElem?_eq_some_iff.mp found
  simp [List.countP_set within, outside]

private theorem inserts_lookedUp (addresses : Addresses) (tracker : Tracker) (key : AddressKey) :
    Tracker.inserts key { tracker with
        stage := if (addresses.table.getAddress
          (destinationKey tracker.packageName tracker.traffic)).isSome
          then TrackerStage.updateLastSeen else .insertAddress } ↔
      tracker.key = key ∧ addresses.rowsFor key = 0 := by
  rw [rowsFor_eq_zero]
  constructor
  · intro inserts
    simp only [Tracker.inserts, Bool.and_eq_true, decide_eq_true_eq] at inserts
    obtain ⟨missing, rfl⟩ := inserts
    refine ⟨rfl, ?_⟩
    cases found : addresses.table.getAddress
        (destinationKey tracker.packageName tracker.traffic) with
    | none => exact found
    | some row => simp [found] at missing
  · rintro ⟨rfl, missing⟩
    have lookedUp : addresses.table.getAddress
        (destinationKey tracker.packageName tracker.traffic) = none := missing
    simp [Tracker.inserts, Tracker.key, lookedUp]

private theorem pledged_lookup {addresses : Addresses} {index : Nat} {tracker : Tracker}
    (found : addresses.trackers[index]? = some tracker) (stage : tracker.stage = .lookup)
    (key : AddressKey) :
    (addresses.trackerStep index tracker).pledged key =
      addresses.pledged key + if tracker.key = key ∧ addresses.rowsFor key = 0 then 1 else 0 := by
  have outside : tracker.inserts key = false := by simp [Tracker.inserts, stage]
  simp only [trackerStep, stage, pledged, countP_replaced found outside,
    inserts_lookedUp addresses tracker key]
  exact (Nat.add_assoc _ _ _).symm

theorem pledged_step {addresses next : Addresses} {label : Label} (key : AddressKey)
    (taken : addresses.step label = some next) :
    next.pledged key = addresses.pledged key ∨
    (∃ index tracker, label = .tracker index ∧ addresses.trackers[index]? = some tracker ∧
      tracker.stage = .lookup ∧ tracker.key = key ∧ addresses.rowsFor key = 0 ∧
      next.pledged key = addresses.pledged key + 1) ∨
    ∃ index, label = .trackerThrows index ∧ next.pledged key ≤ addresses.pledged key := by
  cases label with
  | trackAppAddress packageName appName traffic =>
      cases taken
      left
      simp [pledged, rowsFor, Tracker.inserts]
  | tracker index =>
      obtain ⟨tracker, found, rfl⟩ := Option.map_eq_some_iff.mp taken
      cases stage : tracker.stage with
      | lookup =>
          rw [pledged_lookup found stage]
          by_cases missing : tracker.key = key ∧ addresses.rowsFor key = 0
          · rw [if_pos missing]
            exact .inr (.inl ⟨index, tracker, rfl, found, stage, missing.1, missing.2, rfl⟩)
          · rw [if_neg missing]
            exact .inl rfl
      | updateLastSeen =>
          left
          have outside : tracker.inserts key = false := by simp [Tracker.inserts, stage]
          simp [trackerStep, stage, pledged, AddressTable.updateLastSeen, rowsFor_update,
            countP_removed found (Tracker.inserts key), outside]
      | insertAddress =>
          left
          have inserts : tracker.inserts key = decide (tracker.newAddress.key = key) := by
            simp [Tracker.inserts, stage]
            rfl
          simp only [trackerStep, stage, pledged, rowsFor_insertAddress,
            countP_removed found (Tracker.inserts key), inserts, decide_eq_true_eq]
          omega
  | trackerThrows index =>
      obtain ⟨tracker, found, rfl⟩ := Option.map_eq_some_iff.mp taken
      refine .inr (.inr ⟨index, rfl, ?_⟩)
      simp only [pledged, countP_removed found (Tracker.inserts key), rowsFor]
      omega
  | toggleAddressBlock | blockAllAddressesForApp | allowAllAddressesForApp =>
      cases taken
      left
      simp only [pledged, AddressTable.updateBlockStatus, AddressTable.updateAllAddressesForApp,
        rowsFor_update]

private theorem pledged_le_one {addresses next : Addresses} {label : Label} {key : AddressKey}
    (few : addresses.pledged key ≤ 1) (alone : LookupAlone addresses label)
    (taken : addresses.step label = some next) : next.pledged key ≤ 1 := by
  rcases pledged_step key taken with same | ⟨index, tracker, rfl, found, stage, rfl, none, grown⟩ |
    ⟨index, -, less⟩
  · rw [same]
    exact few
  · have unpledged : addresses.trackers.countP (Tracker.inserts tracker.key) = 0 :=
      List.countP_eq_zero.mpr (alone tracker found stage)
    rw [grown, pledged, none, unpledged]
  · exact less.trans few

private theorem two_pledged {addresses next : Addresses} {label : Label}
    (crowded : ¬ LookupAlone addresses label) (taken : addresses.step label = some next) :
    ∃ key, 2 ≤ next.pledged key := by
  cases label with
  | tracker index =>
      simp only [LookupAlone, Option.mem_def, not_forall, not_not] at crowded
      obtain ⟨tracker, found, stage, other, member, inserts⟩ := crowded
      rw [step, found, Option.map_some, Option.some.injEq] at taken
      subst taken
      have waiting : 0 < addresses.trackers.countP (Tracker.inserts tracker.key) :=
        List.countP_pos_iff.mpr ⟨other, member, inserts⟩
      refine ⟨tracker.key, ?_⟩
      rw [pledged_lookup found stage, pledged]
      by_cases missing : addresses.rowsFor tracker.key = 0
      · rw [if_pos ⟨rfl, missing⟩]
        omega
      · omega
  | trackAppAddress | trackerThrows | toggleAddressBlock | blockAllAddressesForApp
  | allowAllAddressesForApp => exact (crowded True.intro).elim

private theorem pledged_grows {addresses next : Addresses} {label : Label} (key : AddressKey)
    (completes : Completes addresses label) (taken : addresses.step label = some next) :
    addresses.pledged key ≤ next.pledged key := by
  rcases pledged_step key taken with same | ⟨-, -, -, -, -, -, -, grown⟩ | ⟨index, rfl, -⟩
  · exact same.ge
  · omega
  · exact completes.elim

/-- If every lookup is alone, a destination never has a second row. If no query
throws and every tracker has come to its end, it has one unless every lookup was
alone. -/
theorem one_row_for_each_key {labels : List Label} {final : Addresses}
    (ran : Transition.run step initial labels = some final) :
    (Transition.Guarded step LookupAlone initial labels → ∀ key, final.rowsFor key ≤ 1) ∧
    (Transition.Guarded step Completes initial labels → final.trackers = [] →
      (∀ key, final.rowsFor key ≤ 1) → Transition.Guarded step LookupAlone initial labels) := by
  constructor
  · intro alone key
    have few : final.pledged key ≤ 1 :=
      alone.preserves (fun reached => reached.pledged key ≤ 1)
        (fun _ _ _ few guarded taken => pledged_le_one few guarded taken) (Nat.zero_le 1) ran
    exact (Nat.le_add_right _ _).trans few
  · intro completes ended few
    apply Transition.guarded_of_not_occurs
    intro crowded
    obtain ⟨key, twice⟩ : ∃ key, 2 ≤ final.pledged key :=
      crowded.sets (fun reached => ∃ key, 2 ≤ reached.pledged key)
        (fun _ _ _ crowded _ taken => two_pledged crowded taken)
        (fun _ _ _ ⟨key, twice⟩ completes taken =>
          ⟨key, twice.trans (pledged_grows key completes taken)⟩) completes ran
    rw [pledged, ended, List.countP_nil, Nat.add_zero] at twice
    exact absurd (few key) (by omega)

theorem seen_in_turn_one_row :
    ∃ final, Transition.run step initial seenBlockedSeen = some final ∧
      ∀ key, final.rowsFor key ≤ 1 := by
  obtain ⟨final, ran⟩ := Option.isSome_iff_exists.mp
    (by decide : (Transition.run step initial seenBlockedSeen).isSome = true)
  exact ⟨final, ran, (one_row_for_each_key ran).1 (by decide)⟩

/-- Two packets to one server, each looked up before the other is inserted. -/
theorem seen_twice_two_rows :
    ¬ ∀ addresses, Transition.Reachable step initial addresses →
      ∀ key, addresses.rowsFor key ≤ 1 := by
  intro unique
  have seen : Transition.Reachable step initial mailServerTwice := ⟨seenTwice, rfl⟩
  exact absurd (unique mailServerTwice seen mailServer.key) (by decide)

end Addresses

end FirewallVpn
