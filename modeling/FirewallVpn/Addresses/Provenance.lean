import FirewallVpn.Addresses.Uniqueness

/-! Where the rows of the address table come from. Every row goes back to packets of its
app to its destination, and every such packet has left a trace, whatever order the
trackers and the user's requests come in. -/

set_option autoImplicit false

namespace FirewallVpn

structure Sighting where
  packageName : String
  appName : String
  traffic : TrafficLogResponse
  deriving DecidableEq

def Sighting.key (sighting : Sighting) : AddressKey :=
  destinationKey sighting.packageName sighting.traffic

def Tracker.sighting (tracker : Tracker) : Sighting :=
  ⟨tracker.packageName, tracker.appName, tracker.traffic⟩

namespace Addresses

def sighting : Label → Option Sighting
  | .trackAppAddress packageName appName traffic => some ⟨packageName, appName, traffic⟩
  | .tracker _ | .trackerThrows _ | .toggleAddressBlock _ _ | .blockAllAddressesForApp _
  | .allowAllAddressesForApp _ => none

def sightings (labels : List Label) : List Sighting := labels.filterMap sighting

/-- A query of the packet's tracker throws. -/
def Fails (seen : Sighting) (addresses : Addresses) (label : Label) : Prop :=
  ∃ index, label = .trackerThrows index ∧
    ∃ tracker ∈ addresses.trackers[index]?, tracker.sighting = seen

/-- What a step does to the rows and to the trackers. -/
inductive TrackingStep (addresses : Addresses) : Label → Addresses → Prop where
  | sighted {packageName appName : String} {traffic : TrafficLogResponse} :
      TrackingStep addresses (.trackAppAddress packageName appName traffic)
        { addresses with
          trackers := addresses.trackers ++ [{ packageName, appName, traffic, stage := .lookup }] }
  | lookedUp {index : Nat} {tracker : Tracker} {stage : TrackerStage}
      (located : addresses.trackers[index]? = some tracker)
      (found : stage = .updateLastSeen → (addresses.table.getAddress tracker.key).isSome) :
      TrackingStep addresses (.tracker index)
        { addresses with trackers := addresses.trackers.set index { tracker with stage } }
  | refreshed {index : Nat} {tracker : Tracker} (located : addresses.trackers[index]? = some tracker)
      (stage : tracker.stage = .updateLastSeen) :
      TrackingStep addresses (.tracker index)
        { table := addresses.table.updateLastSeen tracker.key tracker.traffic.timeStamp
          trackers := addresses.trackers.eraseIdx index }
  | inserted {index : Nat} {tracker : Tracker} (located : addresses.trackers[index]? = some tracker) :
      TrackingStep addresses (.tracker index)
        { table := addresses.table.insertAddress tracker.newAddress
          trackers := addresses.trackers.eraseIdx index }
  | threw {index : Nat} {tracker : Tracker} (located : addresses.trackers[index]? = some tracker) :
      TrackingStep addresses (.trackerThrows index)
        { addresses with trackers := addresses.trackers.eraseIdx index }
  | requested {label : Label} {selected : AppAddressEntity → Bool} {isBlocked : Bool}
      (silent : sighting label = none) :
      TrackingStep addresses label
        { addresses with table := addresses.table.update (.setIsBlocked selected isBlocked) }

theorem step_tracking {addresses next : Addresses} {label : Label}
    (taken : addresses.step label = some next) : TrackingStep addresses label next := by
  cases label with
  | trackAppAddress =>
      cases taken
      exact .sighted
  | tracker index =>
      obtain ⟨tracker, located, rfl⟩ := Option.map_eq_some_iff.mp taken
      cases stage : tracker.stage with
      | lookup =>
          simp only [trackerStep, stage]
          refine .lookedUp located fun refreshes => ?_
          by_contra missing
          have absent : ¬ (addresses.table.getAddress
              (destinationKey tracker.packageName tracker.traffic)).isSome = true := missing
          rw [if_neg absent] at refreshes
          cases refreshes
      | updateLastSeen =>
          simp only [trackerStep, stage]
          exact .refreshed located stage
      | insertAddress =>
          simp only [trackerStep, stage]
          exact .inserted located
  | trackerThrows index =>
      obtain ⟨tracker, located, rfl⟩ := Option.map_eq_some_iff.mp taken
      exact .threw located
  | toggleAddressBlock | blockAllAddressesForApp | allowAllAddressesForApp =>
      cases taken
      exact .requested rfl

def HasRow (addresses : Addresses) (key : AddressKey) : Prop :=
  ∃ row ∈ addresses.table.rows, row.key = key

/-- The row was made from the first packet, and last touched by the other. -/
structure MadeFrom (first last : Sighting) (row : AppAddressEntity) : Prop where
  key : first.key = row.key
  appName : row.appName = first.appName
  firstSeen : row.firstSeen = first.traffic.timeStamp
  lastKey : last.key = row.key
  lastSeen : row.lastSeen = last.traffic.timeStamp

/-- What table, trackers and past packets have to do with one another. -/
structure Provenance (labels : List Label) (addresses : Addresses) : Prop where
  trackers : ∀ tracker ∈ addresses.trackers, tracker.sighting ∈ sightings labels
  found : ∀ tracker ∈ addresses.trackers, tracker.stage = .updateLastSeen →
    addresses.HasRow tracker.key
  rows : ∀ row ∈ addresses.table.rows, ∃ first ∈ sightings labels, ∃ last ∈ sightings labels,
    MadeFrom first last row
  number : addresses.table.rows.length + addresses.trackers.length ≤ (sightings labels).length
  traced : ∀ seen ∈ sightings labels, addresses.HasRow seen.key ∨
    (∃ tracker ∈ addresses.trackers, tracker.sighting = seen) ∨
      Transition.Occurs step (Fails seen) initial labels

theorem sightings_append (labels : List Label) (label : Label) :
    sightings (labels ++ [label]) = sightings labels ++ (sighting label).toList := by
  cases seen : sighting label <;> simp [sightings, seen]

private theorem hasRow_update {addresses : Addresses} {trackers : List Tracker} {key : AddressKey}
    (update : RowUpdate) (had : addresses.HasRow key) :
    HasRow { table := addresses.table.update update, trackers } key := by
  obtain ⟨row, member, rfl⟩ := had
  exact ⟨update.set row, List.mem_map_of_mem member, update.keepsKey row⟩

private theorem hasRow_insert {addresses : Addresses} {trackers : List Tracker} {key : AddressKey}
    (address : AppAddressEntity) (had : addresses.HasRow key) :
    HasRow { table := addresses.table.insertAddress address, trackers } key := by
  obtain ⟨row, member, same⟩ := had
  exact ⟨row, List.mem_append_left _ member, same⟩

private theorem tracker_cases {trackers : List Tracker} {index : Nat} {gone tracker : Tracker}
    (located : trackers[index]? = some gone) (member : tracker ∈ trackers) :
    tracker = gone ∨ tracker ∈ trackers.eraseIdx index := by
  obtain ⟨within, rfl⟩ := List.getElem?_eq_some_iff.mp located
  exact List.mem_cons.mp ((List.getElem_cons_eraseIdx_perm within).mem_iff.mpr member)

variable {labels : List Label} {addresses next : Addresses} {label : Label}

/-- A trace lasts: rows keep their keys, and a tracker goes on, leaves a row or fails. -/
private theorem traced_step (reached : Transition.run step initial labels = some addresses)
    (known : Provenance labels addresses)
    (rows : ∀ key, addresses.HasRow key → next.HasRow key)
    (trackers : ∀ tracker ∈ addresses.trackers,
      (∃ other ∈ next.trackers, other.sighting = tracker.sighting) ∨ next.HasRow tracker.key ∨
        Fails tracker.sighting addresses label) :
    ∀ seen ∈ sightings labels, next.HasRow seen.key ∨
      (∃ tracker ∈ next.trackers, tracker.sighting = seen) ∨
        Transition.Occurs step (Fails seen) initial (labels ++ [label]) := by
  intro seen member
  rw [Transition.occurs_append_singleton reached]
  rcases known.traced seen member with row | ⟨tracker, waiting, rfl⟩ | failed
  · exact .inl (rows seen.key row)
  · rcases trackers tracker waiting with other | row | fails
    · exact .inr (.inl other)
    · exact .inl row
    · exact .inr (.inr (.inr fails))
  · exact .inr (.inr (.inl failed))

private theorem Provenance.rows_update (known : Provenance labels addresses) {update : RowUpdate}
    (kept : ∀ row, (update.set row).appName = row.appName ∧
      (update.set row).firstSeen = row.firstSeen)
    (touched : ∀ row, (update.set row).lastSeen = row.lastSeen ∨ ∃ seen ∈ sightings labels,
      seen.key = row.key ∧ (update.set row).lastSeen = seen.traffic.timeStamp) :
    ∀ row ∈ (addresses.table.update update).rows, ∃ first ∈ sightings labels,
      ∃ last ∈ sightings labels, MadeFrom first last row := by
  intro row member
  obtain ⟨old, oldMember, rfl⟩ := List.mem_map.mp member
  obtain ⟨first, firstSeen, last, lastSeen, made⟩ := known.rows old oldMember
  obtain ⟨name, since⟩ := kept old
  rcases touched old with same | ⟨seen, inList, sameKey, now⟩
  · refine ⟨first, firstSeen, last, lastSeen, ?_, name.trans made.appName,
      since.trans made.firstSeen, ?_, same.trans made.lastSeen⟩
    · rw [update.keepsKey, made.key]
    · rw [update.keepsKey, made.lastKey]
  · refine ⟨first, firstSeen, seen, inList, ?_, name.trans made.appName,
      since.trans made.firstSeen, ?_, now⟩
    · rw [update.keepsKey, made.key]
    · rw [update.keepsKey, sameKey]

/-- A step that tracks no new packet. -/
private theorem Provenance.quiet (known : Provenance labels addresses)
    (reached : Transition.run step initial labels = some addresses) (silent : sighting label = none)
    (trackers : ∀ tracker ∈ next.trackers, tracker.sighting ∈ sightings labels)
    (found : ∀ tracker ∈ next.trackers, tracker.stage = .updateLastSeen → next.HasRow tracker.key)
    (rows : ∀ row ∈ next.table.rows, ∃ first ∈ sightings labels, ∃ last ∈ sightings labels,
      MadeFrom first last row)
    (number : next.table.rows.length + next.trackers.length ≤
      addresses.table.rows.length + addresses.trackers.length)
    (keysKept : ∀ key, addresses.HasRow key → next.HasRow key)
    (goOn : ∀ tracker ∈ addresses.trackers,
      (∃ other ∈ next.trackers, other.sighting = tracker.sighting) ∨ next.HasRow tracker.key ∨
        Fails tracker.sighting addresses label) :
    Provenance (labels ++ [label]) next := by
  have same : sightings (labels ++ [label]) = sightings labels := by
    rw [sightings_append, silent]
    exact List.append_nil _
  constructor
  · rw [same]
    exact trackers
  · exact found
  · rw [same]
    exact rows
  · rw [same]
    exact number.trans known.number
  · rw [same]
    exact traced_step reached known keysKept goOn

theorem Provenance.step (known : Provenance labels addresses)
    (reached : Transition.run step initial labels = some addresses)
    (taken : addresses.step label = some next) : Provenance (labels ++ [label]) next := by
  cases step_tracking taken with
  | @sighted packageName appName traffic =>
      have more : sightings (labels ++ [.trackAppAddress packageName appName traffic]) =
          sightings labels ++ [⟨packageName, appName, traffic⟩] := sightings_append _ _
      constructor
      · intro tracker member
        rw [more]
        rcases List.mem_append.mp member with old | new
        · exact List.mem_append_left _ (known.trackers tracker old)
        · rw [List.mem_singleton.mp new]
          exact List.mem_append_right _ (List.mem_singleton_self _)
      · intro tracker member stage
        rcases List.mem_append.mp member with old | new
        · exact known.found tracker old stage
        · rw [List.mem_singleton.mp new] at stage
          cases stage
      · intro row member
        obtain ⟨first, firstSeen, last, lastSeen, made⟩ := known.rows row member
        rw [more]
        exact ⟨first, List.mem_append_left _ firstSeen, last, List.mem_append_left _ lastSeen, made⟩
      · rw [more, List.length_append, List.length_append, ← Nat.add_assoc]
        exact Nat.add_le_add_right known.number 1
      · intro seen member
        rw [more] at member
        rcases List.mem_append.mp member with old | new
        · apply traced_step reached known ?_ ?_ seen old
          · exact fun _ had => had
          · exact fun tracker waits => .inl ⟨tracker, List.mem_append_left _ waits, rfl⟩
        · rw [List.mem_singleton.mp new]
          exact .inr (.inl ⟨_, List.mem_append_right _ (List.mem_singleton_self _), rfl⟩)
  | @lookedUp index tracker stage located isThere =>
      have member := List.mem_of_getElem? located
      have within : index < addresses.trackers.length := (List.getElem?_eq_some_iff.mp located).1
      refine known.quiet reached rfl (fun other inList => ?_) (fun other inList refreshes => ?_)
        known.rows (by simp) (fun _ had => had) fun other waits => .inl ?_
      · rcases List.mem_or_eq_of_mem_set inList with old | rfl
        · exact known.trackers other old
        · exact known.trackers tracker member
      · rcases List.mem_or_eq_of_mem_set inList with old | rfl
        · exact known.found other old refreshes
        · obtain ⟨row, found⟩ := Option.isSome_iff_exists.mp (isThere refreshes)
          obtain ⟨present, same⟩ := AddressTable.getAddress_key found
          exact ⟨row, present, same⟩
      · obtain ⟨place, placed⟩ := List.mem_iff_getElem?.mp waits
        by_cases here : place = index
        · subst here
          rw [located, Option.some.injEq] at placed
          subst placed
          exact ⟨_, List.mem_set within _, rfl⟩
        · rw [← List.getElem?_set_ne (Ne.symm here)] at placed
          exact ⟨other, List.mem_of_getElem? placed, rfl⟩
  | @refreshed index tracker located stage =>
      have member := List.mem_of_getElem? located
      have kept : ∀ other ∈ addresses.trackers.eraseIdx index, other ∈ addresses.trackers :=
        fun other inList => List.mem_of_mem_eraseIdx inList
      have within : index < addresses.trackers.length := (List.getElem?_eq_some_iff.mp located).1
      refine known.quiet reached rfl (fun other inList => known.trackers other (kept other inList))
        (fun other inList refreshes =>
          hasRow_update _ (known.found other (kept other inList) refreshes))
        (known.rows_update (fun row => ?_) fun row => ?_) ?_ (fun key had => hasRow_update _ had)
        fun other waits => ?_
      · simp only [RowUpdate.setLastSeen]
        split <;> exact ⟨rfl, rfl⟩
      · simp only [RowUpdate.setLastSeen]
        split
        · next selected =>
            refine .inr ⟨tracker.sighting, known.trackers tracker member, ?_, rfl⟩
            exact (of_decide_eq_true selected).symm
        · exact .inl rfl
      · simp only [AddressTable.updateLastSeen, AddressTable.update, List.length_map]
        exact Nat.add_le_add_left (List.length_eraseIdx_le _ _) _
      · rcases tracker_cases located waits with rfl | goesOn
        · exact .inr (.inl (hasRow_update _ (known.found other member stage)))
        · exact .inl ⟨other, goesOn, rfl⟩
  | @inserted index tracker located =>
      have member := List.mem_of_getElem? located
      have kept : ∀ other ∈ addresses.trackers.eraseIdx index, other ∈ addresses.trackers :=
        fun other inList => List.mem_of_mem_eraseIdx inList
      have within : index < addresses.trackers.length := (List.getElem?_eq_some_iff.mp located).1
      have seen := known.trackers tracker member
      refine known.quiet reached rfl (fun other inList => known.trackers other (kept other inList))
        (fun other inList refreshes =>
          hasRow_insert _ (known.found other (kept other inList) refreshes))
        (fun row inTable => ?_) ?_ (fun key had => hasRow_insert _ had) fun other waits => ?_
      · rcases List.mem_append.mp inTable with old | new
        · exact known.rows row old
        · rw [List.mem_singleton.mp new]
          exact ⟨tracker.sighting, seen, tracker.sighting, seen, rfl, rfl, rfl, rfl, rfl⟩
      · simp only [AddressTable.insertAddress, List.length_append, List.length_cons, List.length_nil,
          List.length_eraseIdx_of_lt within]
        omega
      · rcases tracker_cases located waits with rfl | goesOn
        · exact .inr (.inl ⟨_, List.mem_append_right _ (List.mem_singleton_self _), rfl⟩)
        · exact .inl ⟨other, goesOn, rfl⟩
  | @threw index tracker located =>
      have kept : ∀ other ∈ addresses.trackers.eraseIdx index, other ∈ addresses.trackers :=
        fun other inList => List.mem_of_mem_eraseIdx inList
      refine known.quiet reached rfl (fun other inList => known.trackers other (kept other inList))
        (fun other inList refreshes => known.found other (kept other inList) refreshes) known.rows
        (Nat.add_le_add_left (List.length_eraseIdx_le _ _) _) (fun _ had => had) fun other waits => ?_
      rcases tracker_cases located waits with rfl | goesOn
      · exact .inr (.inr ⟨index, rfl, other, located, rfl⟩)
      · exact .inl ⟨other, goesOn, rfl⟩
  | @requested label selected isBlocked silent =>
      refine known.quiet reached silent known.trackers
        (fun other inList refreshes => hasRow_update _ (known.found other inList refreshes))
        (known.rows_update (fun row => ?_) fun row => .inl ?_) ?_ (fun key had => hasRow_update _ had)
        fun other waits => .inl ⟨other, waits, rfl⟩
      · simp only [RowUpdate.setIsBlocked]
        split <;> exact ⟨rfl, rfl⟩
      · simp only [RowUpdate.setIsBlocked]
        split <;> rfl
      · simp [AddressTable.update]

theorem Provenance.start : Provenance [] initial :=
  ⟨List.forall_mem_nil _, List.forall_mem_nil _, List.forall_mem_nil _, Nat.le_refl _,
    List.forall_mem_nil _⟩

/-- In every run each row was made from a packet tracked for its app and destination, with
that packet's time as its first, and carries the time of one of these packets as its last;
there are no more rows than packets; and each packet tracked has a row for its destination,
or its tracker is still at work, or a query of it has thrown. -/
theorem provenance_of_run (ran : Transition.run Addresses.step initial labels = some addresses) :
    Provenance labels addresses :=
  Transition.run_induction Provenance
    (fun _ _ _ _ reached known taken => known.step reached taken) Provenance.start ran

theorem seenTwice_provenance :
    Transition.run Addresses.step initial seenTwice = some mailServerTwice ∧
      Provenance seenTwice mailServerTwice :=
  ⟨rfl, provenance_of_run rfl⟩

end Addresses

end FirewallVpn
