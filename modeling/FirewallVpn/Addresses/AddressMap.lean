import FirewallVpn.Addresses.Tracking
import Mathlib.Data.List.Induction
import Mathlib.Data.List.TakeWhile

/-! What the table of addresses is for: a map from destinations to what is known
of them. The map is stated apart from the rows and queries; its entries are
described by the operations that were carried out. -/

set_option autoImplicit false

namespace FirewallVpn

/-- The operations on the table, each carried out as a whole. -/
inductive Operation where
  | trackAppAddress (packageName appName : String) (traffic : TrafficLogResponse)
  | updateBlockStatus (id : Nat) (isBlocked : Bool)
  | updateAllAddressesForApp (packageName : String) (isBlocked : Bool)
  | isAddressBlockedForApp (key : AddressKey)
  deriving DecidableEq

namespace Operation

/-- The time of a packet tracked for `key`. -/
def timeStamp (key : AddressKey) : Operation → Option String
  | .trackAppAddress packageName _ traffic =>
      if destinationKey packageName traffic = key then some traffic.timeStamp else none
  | .updateBlockStatus _ _ | .updateAllAddressesForApp _ _ | .isAddressBlockedForApp _ => none

/-- The value given to the entry of `key`, which the user knows by `id`. -/
def request (key : AddressKey) (id : Nat) : Operation → Option Bool
  | .updateBlockStatus toggled isBlocked => if toggled = id then some isBlocked else none
  | .updateAllAddressesForApp packageName isBlocked =>
      if packageName = key.packageName then some isBlocked else none
  | .trackAppAddress _ _ _ | .isAddressBlockedForApp _ => none

/-- The operations from the first packet tracked for `key` on. -/
def sinceTracked (key : AddressKey) (operations : List Operation) : List Operation :=
  operations.dropWhile fun operation => (operation.timeStamp key).isNone

def timeStamps (key : AddressKey) (operations : List Operation) : List String :=
  operations.filterMap (timeStamp key)

def requests (key : AddressKey) (id : Nat) (operations : List Operation) : List Bool :=
  (sinceTracked key operations).filterMap (request key id)

end Operation

/-- What is known of a destination; `id` is the handle of the user's switch. -/
structure AddressState where
  id : Nat
  firstSeen : String
  lastSeen : String
  isBlocked : Bool
  deriving DecidableEq, Repr

structure AddressMap where
  entries : AddressKey → Option AddressState
  nextId : Nat

namespace AddressMap

def empty : AddressMap where
  entries _ := none
  nextId := 1

def track (map : AddressMap) (key : AddressKey) (timestamp : String) : AddressMap :=
  match map.entries key with
  | some state =>
      { map with entries := Function.update map.entries key (some { state with lastSeen := timestamp }) }
  | none =>
      { entries := Function.update map.entries key
          (some { id := map.nextId, firstSeen := timestamp, lastSeen := timestamp, isBlocked := false })
        nextId := map.nextId + 1 }

/-- Give `isBlocked` to the entries that are selected. -/
def setBlocked (map : AddressMap) (selected : AddressKey → AddressState → Bool) (isBlocked : Bool) :
    AddressMap :=
  { map with entries := fun key => (map.entries key).map fun state =>
      if selected key state then { state with isBlocked } else state }

def apply (map : AddressMap) : Operation → AddressMap
  | .trackAppAddress packageName _ traffic =>
      map.track (destinationKey packageName traffic) traffic.timeStamp
  | .updateBlockStatus id isBlocked => map.setBlocked (fun _ state => state.id = id) isBlocked
  | .updateAllAddressesForApp packageName isBlocked =>
      map.setBlocked (fun key _ => key.packageName = packageName) isBlocked
  | .isAddressBlockedForApp _ => map

def after (operations : List Operation) : AddressMap :=
  operations.foldl apply empty

def isBlocked (map : AddressMap) (key : AddressKey) : Bool :=
  ((map.entries key).map AddressState.isBlocked).getD false

theorem after_concat (operations : List Operation) (operation : Operation) :
    after (operations ++ [operation]) = (after operations).apply operation := by
  simp [after]

/-- What a packet at `timestamp` makes of the entry of its destination. -/
def seen (nextId : Nat) (timestamp : String) : Option AddressState → AddressState
  | some state => { state with lastSeen := timestamp }
  | none => { id := nextId, firstSeen := timestamp, lastSeen := timestamp, isBlocked := false }

theorem entries_track_self (map : AddressMap) (key : AddressKey) (timestamp : String) :
    (map.track key timestamp).entries key = some (seen map.nextId timestamp (map.entries key)) := by
  unfold track
  cases map.entries key <;> exact Function.update_self _ _ _

theorem entries_track_other (map : AddressMap) {tracked key : AddressKey} (other : key ≠ tracked)
    (timestamp : String) : (map.track tracked timestamp).entries key = map.entries key := by
  unfold track
  cases map.entries tracked <;> exact Function.update_of_ne other _ _

theorem entries_apply (map : AddressMap) (operation : Operation) (key : AddressKey) :
    (map.apply operation).entries key =
      match operation.timeStamp key with
      | some timestamp => some (seen map.nextId timestamp (map.entries key))
      | none => (map.entries key).map fun state =>
          { state with isBlocked := (operation.request key state.id).getD state.isBlocked } := by
  cases operation with
  | trackAppAddress packageName appName traffic =>
      simp only [apply, Operation.timeStamp, Operation.request]
      by_cases same : destinationKey packageName traffic = key
      · subst same
        simp [entries_track_self]
      · simp [entries_track_other map (Ne.symm same), same]
  | updateBlockStatus id isBlocked =>
      simp only [apply, setBlocked, Operation.timeStamp, Operation.request]
      refine Option.map_congr fun state _ => ?_
      by_cases same : state.id = id
      · simp [same]
      · simp [same, Ne.symm same]
  | updateAllAddressesForApp packageName isBlocked =>
      simp only [apply, setBlocked, Operation.timeStamp, Operation.request]
      refine Option.map_congr fun state _ => ?_
      by_cases same : key.packageName = packageName
      · simp [same]
      · simp [same, Ne.symm same]
  | isAddressBlockedForApp other => simp [apply, Operation.timeStamp, Operation.request]

/-- The entry says what the operations have said of the key. -/
structure Records (operations : List Operation) (key : AddressKey) (state : AddressState) : Prop where
  firstSeen : (Operation.timeStamps key operations).head? = some state.firstSeen
  lastSeen : (Operation.timeStamps key operations).getLast? = some state.lastSeen
  isBlocked : state.isBlocked = (Operation.requests key state.id operations).getLast?.getD false

theorem timeStamps_concat (key : AddressKey) (operations : List Operation) (operation : Operation) :
    Operation.timeStamps key (operations ++ [operation]) =
      Operation.timeStamps key operations ++ (operation.timeStamp key).toList := by
  unfold Operation.timeStamps
  rw [List.filterMap_append]
  cases stamped : operation.timeStamp key <;> simp [stamped]

private theorem sinceTracked_eq_nil {key : AddressKey} {operations : List Operation} :
    Operation.sinceTracked key operations = [] ↔ Operation.timeStamps key operations = [] := by
  simp [Operation.sinceTracked, Operation.timeStamps, List.dropWhile_eq_nil_iff,
    List.filterMap_eq_nil_iff]

theorem requests_concat {key : AddressKey} {operations : List Operation}
    (tracked : Operation.timeStamps key operations ≠ []) (id : Nat) (operation : Operation) :
    Operation.requests key id (operations ++ [operation]) =
      Operation.requests key id operations ++ (operation.request key id).toList := by
  have begun : Operation.sinceTracked key operations ≠ [] := mt sinceTracked_eq_nil.mp tracked
  have extended : Operation.sinceTracked key (operations ++ [operation]) =
      Operation.sinceTracked key operations ++ [operation] := by
    rw [Operation.sinceTracked] at begun ⊢
    rw [List.dropWhile_append, if_neg (by simpa using begun), Operation.sinceTracked]
  rw [Operation.requests, extended, List.filterMap_append, Operation.requests]
  cases requested : operation.request key id <;> simp [requested]

theorem requests_first {key : AddressKey} {operations : List Operation}
    (untracked : Operation.timeStamps key operations = []) (id : Nat) {operation : Operation}
    {timestamp : String} (stamped : operation.timeStamp key = some timestamp) :
    Operation.requests key id (operations ++ [operation]) = [] := by
  have begins : Operation.sinceTracked key (operations ++ [operation]) = [operation] := by
    have none : Operation.sinceTracked key operations = [] := sinceTracked_eq_nil.mpr untracked
    rw [Operation.sinceTracked] at none ⊢
    rw [List.dropWhile_append, none]
    simp [stamped]
  rw [Operation.requests, begins]
  cases operation with
  | trackAppAddress packageName appName traffic => rfl
  | updateBlockStatus | updateAllAddressesForApp | isAddressBlockedForApp => cases stamped

private theorem records_first {operations : List Operation} {operation : Operation}
    {key : AddressKey} {timestamp : String} (nextId : Nat)
    (untracked : Operation.timeStamps key operations = [])
    (stamped : operation.timeStamp key = some timestamp) :
    Records (operations ++ [operation]) key (seen nextId timestamp none) where
  firstSeen := by simp [timeStamps_concat, untracked, stamped, seen]
  lastSeen := by simp [timeStamps_concat, untracked, stamped, seen]
  isBlocked := by simp [requests_first untracked _ stamped, seen]

private theorem Records.tracked {operations : List Operation} {key : AddressKey}
    {state : AddressState} (records : Records operations key state) :
    Operation.timeStamps key operations ≠ [] := by
  intro untracked
  have firstSeen := records.firstSeen
  rw [untracked] at firstSeen
  cases firstSeen

private theorem Records.seen {operations : List Operation} {operation : Operation}
    {key : AddressKey} {state : AddressState} {timestamp : String} (nextId : Nat)
    (records : Records operations key state) (stamped : operation.timeStamp key = some timestamp) :
    Records (operations ++ [operation]) key (seen nextId timestamp (some state)) where
  firstSeen := by
    rw [timeStamps_concat, List.head?_append_of_ne_nil _ records.tracked]
    exact records.firstSeen
  lastSeen := by simp [timeStamps_concat, stamped, AddressMap.seen]
  isBlocked := by
    have silent : operation.request key state.id = none := by
      cases operation with
      | trackAppAddress packageName appName traffic => rfl
      | updateBlockStatus | updateAllAddressesForApp | isAddressBlockedForApp => cases stamped
    rw [requests_concat records.tracked, AddressMap.seen, silent]
    simpa using records.isBlocked

private theorem Records.requested {operations : List Operation} {operation : Operation}
    {key : AddressKey} {state : AddressState} (records : Records operations key state)
    (silent : operation.timeStamp key = none) :
    Records (operations ++ [operation]) key
      { state with isBlocked := (operation.request key state.id).getD state.isBlocked } where
  firstSeen := by simpa [timeStamps_concat, silent] using records.firstSeen
  lastSeen := by simpa [timeStamps_concat, silent] using records.lastSeen
  isBlocked := by
    rw [requests_concat records.tracked]
    cases operation.request key state.id with
    | none => simpa using records.isBlocked
    | some isBlocked => simp

/-- Each entry of the map is told by the operations, and only destinations that
were never tracked have none. -/
theorem entries_after (operations : List Operation) (key : AddressKey) :
    match (after operations).entries key with
    | none => Operation.timeStamps key operations = []
    | some state => Records operations key state := by
  induction operations using List.reverseRecOn with
  | nil => rfl
  | append_singleton operations operation ih =>
      rw [after_concat, entries_apply]
      cases stamped : operation.timeStamp key with
      | none =>
          cases entry : (after operations).entries key with
          | none =>
              rw [entry] at ih
              simpa [timeStamps_concat, stamped] using ih
          | some state =>
              rw [entry] at ih
              exact ih.requested stamped
      | some timestamp =>
          cases entry : (after operations).entries key with
          | none =>
              rw [entry] at ih
              exact records_first _ ih stamped
          | some state =>
              rw [entry] at ih
              exact ih.seen _ stamped

end AddressMap

end FirewallVpn
