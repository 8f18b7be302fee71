import FirewallVpn.Native.Layer
import Mathlib.Data.List.Nodup
import Mathlib.Data.List.Sort
import Mathlib.Data.String.Basic

/-! The table `app_addresses` and the queries of `AppAddressDao`. -/

set_option autoImplicit false

namespace FirewallVpn

structure AppAddressEntity where
  id : Nat
  packageName : String
  appName : String
  ipAddress : String
  port : Int
  protocol : ProtocolByte
  isBlocked : Bool
  firstSeen : String
  lastSeen : String
  deriving DecidableEq, Repr

/-- The columns by which `getAddress` and `updateLastSeen` select. -/
structure AddressKey where
  packageName : String
  ip : String
  port : Int
  protocol : ProtocolByte
  deriving DecidableEq, Repr

def AppAddressEntity.key (row : AppAddressEntity) : AddressKey :=
  ⟨row.packageName, row.ipAddress, row.port, row.protocol⟩

/-- `lastSeen DESC`: text compares by its characters. -/
def AppAddressEntity.sortsBefore (row other : AppAddressEntity) : Prop := other.lastSeen ≤ row.lastSeen

instance : DecidableRel AppAddressEntity.sortsBefore :=
  fun row other => inferInstanceAs (Decidable (other.lastSeen ≤ row.lastSeen))

/-- The `SET` clause of an `UPDATE`; none of them touches the primary key or the
columns of an `AddressKey`. -/
structure RowUpdate where
  set : AppAddressEntity → AppAddressEntity
  keepsId : ∀ row, (set row).id = row.id
  keepsKey : ∀ row, (set row).key = row.key

def RowUpdate.setIsBlocked (selected : AppAddressEntity → Bool) (isBlocked : Bool) : RowUpdate where
  set row := if selected row then { row with isBlocked } else row
  keepsId row := by split <;> rfl
  keepsKey row := by split <;> rfl

def RowUpdate.setLastSeen (selected : AppAddressEntity → Bool) (timestamp : String) : RowUpdate where
  set row := if selected row then { row with lastSeen := timestamp } else row
  keepsId row := by split <;> rfl
  keepsKey row := by split <;> rfl

/-- The rows in the order of their generated primary keys. A generated key is
larger than every key before it, so `OnConflictStrategy.REPLACE` never replaces. -/
structure AddressTable where
  rows : List AppAddressEntity
  nextId : Nat
  ascending : rows.Pairwise fun earlier later => earlier.id < later.id
  generated : ∀ row ∈ rows, row.id < nextId

namespace AddressTable

def empty : AddressTable where
  rows := []
  nextId := 1
  ascending := .nil
  generated := nofun

/-- `@Insert`; the id of the argument is 0, which asks for a generated key. -/
def insertAddress (table : AddressTable) (address : AppAddressEntity) : AddressTable where
  rows := table.rows ++ [{ address with id := table.nextId }]
  nextId := table.nextId + 1
  ascending := by
    refine List.pairwise_append.mpr ⟨table.ascending, .cons nofun .nil, ?_⟩
    intro earlier member later single
    rw [List.mem_singleton.mp single]
    exact table.generated earlier member
  generated := by
    intro row member
    rcases List.mem_append.mp member with old | single
    · exact Nat.lt_succ_of_lt (table.generated row old)
    · rw [List.mem_singleton.mp single]
      exact Nat.lt_succ_self _

def update (table : AddressTable) (update : RowUpdate) : AddressTable where
  rows := table.rows.map update.set
  nextId := table.nextId
  ascending := by
    rw [List.pairwise_map]
    simp only [update.keepsId]
    exact table.ascending
  generated := by
    intro row member
    obtain ⟨old, oldMember, rfl⟩ := List.mem_map.mp member
    rw [update.keepsId]
    exact table.generated old oldMember

def updateBlockStatus (table : AddressTable) (id : Nat) (isBlocked : Bool) : AddressTable :=
  table.update (.setIsBlocked (fun row => row.id = id) isBlocked)

def updateAllAddressesForApp (table : AddressTable) (packageName : String) (isBlocked : Bool) :
    AddressTable :=
  table.update (.setIsBlocked (fun row => row.packageName = packageName) isBlocked)

def updateLastSeen (table : AddressTable) (key : AddressKey) (timestamp : String) : AddressTable :=
  table.update (.setLastSeen (fun row => row.key = key) timestamp)

/-- `SELECT … LIMIT 1`: the table has no index, so rows are met in key order. -/
def getAddress (table : AddressTable) (key : AddressKey) : Option AppAddressEntity :=
  table.rows.find? fun row => row.key = key

/-- One result of the flow; rows seen at one time keep the order of their keys. -/
def getAddressesForApp (table : AddressTable) (packageName : String) : List AppAddressEntity :=
  (table.rows.filter fun row => row.packageName = packageName).insertionSort
    AppAddressEntity.sortsBefore

theorem mem_getAddressesForApp {table : AddressTable} {packageName : String}
    {row : AppAddressEntity} :
    row ∈ table.getAddressesForApp packageName ↔ row ∈ table.rows ∧ row.packageName = packageName := by
  rw [getAddressesForApp, List.mem_insertionSort, List.mem_filter, decide_eq_true_eq]

/-- The primary key: rows with one id are one row. -/
theorem eq_of_id_eq {table : AddressTable} {row other : AppAddressEntity} (member : row ∈ table.rows)
    (otherMember : other ∈ table.rows) (same : row.id = other.id) : row = other := by
  have distinct : (table.rows.map AppAddressEntity.id).Nodup := by
    rw [List.Nodup, List.pairwise_map]
    exact table.ascending.imp fun less => Nat.ne_of_lt less
  exact List.inj_on_of_nodup_map distinct member otherMember same

theorem getAddress_insertAddress (table : AddressTable) (address : AppAddressEntity)
    (key : AddressKey) :
    (table.insertAddress address).getAddress key =
      (table.getAddress key).or
        (if address.key = key then some { address with id := table.nextId } else none) := by
  have sameKey : AppAddressEntity.key { address with id := table.nextId } = address.key := rfl
  simp only [getAddress, insertAddress, List.find?_append, List.find?_singleton, sameKey,
    decide_eq_true_eq]

theorem getAddress_update (table : AddressTable) (update : RowUpdate) (key : AddressKey) :
    (table.update update).getAddress key = (table.getAddress key).map update.set := by
  have same : ((fun row : AppAddressEntity => decide (row.key = key)) ∘ update.set) =
      fun row => decide (row.key = key) := by
    funext row
    simp only [Function.comp_apply, update.keepsKey]
  simp only [getAddress, AddressTable.update, List.find?_map, same]

theorem getAddress_key {table : AddressTable} {key : AddressKey} {row : AppAddressEntity}
    (found : table.getAddress key = some row) : row ∈ table.rows ∧ row.key = key := by
  have matched := List.find?_some found
  exact ⟨List.mem_of_find?_eq_some found, by simpa using matched⟩

end AddressTable

end FirewallVpn
