import FirewallVpn.Addresses.Dao
import FirewallVpn.Library.Transition
import Mathlib.Data.Finset.Basic

/-! The address table in use: the coroutines of `trackAppAddress`, the updates
the user asks `MainViewModel` for, and the verdict that reads the table. Each
query is one atomic step; whatever it throws is caught and logged. -/

set_option autoImplicit false

namespace FirewallVpn

def destinationKey (packageName : String) (traffic : TrafficLogResponse) : AddressKey :=
  ⟨packageName, traffic.dstIp, traffic.dstPort, traffic.protocolByte⟩

/-- How far a coroutine of `trackAppAddress` has come. -/
inductive TrackerStage where
  | lookup
  | updateLastSeen
  | insertAddress
  deriving DecidableEq, Repr

structure Tracker where
  packageName : String
  appName : String
  traffic : TrafficLogResponse
  stage : TrackerStage
  deriving DecidableEq

def Tracker.newAddress (tracker : Tracker) : AppAddressEntity where
  id := 0
  packageName := tracker.packageName
  appName := tracker.appName
  ipAddress := tracker.traffic.dstIp
  port := tracker.traffic.dstPort
  protocol := tracker.traffic.protocolByte
  isBlocked := false
  firstSeen := tracker.traffic.timeStamp
  lastSeen := tracker.traffic.timeStamp

structure Addresses where
  table : AddressTable
  trackers : List Tracker

namespace Addresses

def initial : Addresses where
  table := .empty
  trackers := []

inductive Label where
  | trackAppAddress (packageName appName : String) (traffic : TrafficLogResponse)
  | tracker (index : Nat)
  | trackerThrows (index : Nat)
  | toggleAddressBlock (addressId : Nat) (isBlocked : Bool)
  | blockAllAddressesForApp (packageName : String)
  | allowAllAddressesForApp (packageName : String)
  deriving DecidableEq

def trackerStep (addresses : Addresses) (index : Nat) (tracker : Tracker) : Addresses :=
  match tracker.stage with
  | .lookup =>
      let existing := addresses.table.getAddress (destinationKey tracker.packageName tracker.traffic)
      let stage := if existing.isSome then TrackerStage.updateLastSeen else .insertAddress
      { addresses with trackers := addresses.trackers.set index { tracker with stage } }
  | .updateLastSeen =>
      { table := addresses.table.updateLastSeen
          (destinationKey tracker.packageName tracker.traffic) tracker.traffic.timeStamp
        trackers := addresses.trackers.eraseIdx index }
  | .insertAddress =>
      { table := addresses.table.insertAddress tracker.newAddress
        trackers := addresses.trackers.eraseIdx index }

def step (addresses : Addresses) : Label → Option Addresses
  | .trackAppAddress packageName appName traffic =>
      some { addresses with
        trackers := addresses.trackers ++ [{ packageName, appName, traffic, stage := .lookup }] }
  | .tracker index => addresses.trackers[index]?.map (addresses.trackerStep index)
  | .trackerThrows index =>
      addresses.trackers[index]?.map fun _ =>
        { addresses with trackers := addresses.trackers.eraseIdx index }
  | .toggleAddressBlock addressId isBlocked =>
      some { addresses with table := addresses.table.updateBlockStatus addressId isBlocked }
  | .blockAllAddressesForApp packageName =>
      some { addresses with table := addresses.table.updateAllAddressesForApp packageName true }
  | .allowAllAddressesForApp packageName =>
      some { addresses with table := addresses.table.updateAllAddressesForApp packageName false }

/-- The user asks that `row` be blocked. -/
def Label.blocks (row : AppAddressEntity) : Label → Bool
  | .toggleAddressBlock addressId isBlocked => addressId = row.id && isBlocked
  | .blockAllAddressesForApp packageName => packageName = row.packageName
  | _ => false

/-- The user asks that `row` be allowed. -/
def Label.unblocks (row : AppAddressEntity) : Label → Bool
  | .toggleAddressBlock addressId isBlocked => addressId = row.id && !isBlocked
  | .allowAllAddressesForApp packageName => packageName = row.packageName
  | _ => false

/-- What a step does to a row it finds in the table, apart from `lastSeen`. -/
def Label.setsBlocked (label : Label) (row : AppAddressEntity) : Bool :=
  label.blocks row || (row.isBlocked && !label.unblocks row)

/-- `address?.isBlocked ?: false` of the row `getAddress` selects. -/
def addressBlocked (addresses : Addresses) (key : AddressKey) : Bool :=
  (addresses.table.getAddress key).any AppAddressEntity.isBlocked

private theorem addressBlocked_update {addresses next : Addresses} {label : Label}
    {update : RowUpdate} (sets : ∀ row, (update.set row).isBlocked = label.setsBlocked row)
    (updated : next.table = addresses.table.update update) (key : AddressKey) :
    next.addressBlocked key = (addresses.table.getAddress key).any label.setsBlocked := by
  rw [addressBlocked, updated, AddressTable.getAddress_update]
  cases addresses.table.getAddress key with
  | none => rfl
  | some row => exact sets row

private theorem setsBlocked_silent (label : Label) (silent : ∀ row, ¬ label.blocks row)
    (kept : ∀ row, ¬ label.unblocks row) : label.setsBlocked = AppAddressEntity.isBlocked := by
  funext row
  simp [Label.setsBlocked, silent row, kept row]

private theorem addressBlocked_tracker (addresses : Addresses) (index : Nat) (tracker : Tracker)
    (key : AddressKey) :
    (addresses.trackerStep index tracker).addressBlocked key = addresses.addressBlocked key := by
  cases stage : tracker.stage with
  | lookup => simp only [trackerStep, stage, addressBlocked]
  | updateLastSeen =>
      simp only [trackerStep, stage, addressBlocked, AddressTable.updateLastSeen,
        AddressTable.getAddress_update]
      cases addresses.table.getAddress key with
      | none => rfl
      | some row =>
          simp only [RowUpdate.setLastSeen, Option.map_some, Option.any_some]
          split <;> rfl
  | insertAddress =>
      simp only [trackerStep, stage, addressBlocked, AddressTable.getAddress_insertAddress]
      cases addresses.table.getAddress key with
      | none =>
          simp only [Option.none_or, Option.any_none]
          split <;> rfl
      | some row => rfl

/-- The row found first for a key is blocked after a step exactly when the step
blocks it, or it was blocked and the step does not allow it. -/
theorem addressBlocked_step {addresses next : Addresses} {label : Label}
    (taken : addresses.step label = some next) (key : AddressKey) :
    next.addressBlocked key = (addresses.table.getAddress key).any label.setsBlocked := by
  cases label with
  | trackAppAddress packageName appName traffic =>
      cases taken
      rw [setsBlocked_silent (.trackAppAddress packageName appName traffic) (fun _ => nofun) fun _ => nofun]
      rfl
  | tracker index =>
      obtain ⟨tracker, -, rfl⟩ := Option.map_eq_some_iff.mp taken
      rw [setsBlocked_silent (.tracker index) (fun _ => nofun) fun _ => nofun]
      exact addressBlocked_tracker addresses index tracker key
  | trackerThrows index =>
      obtain ⟨tracker, -, rfl⟩ := Option.map_eq_some_iff.mp taken
      rw [setsBlocked_silent (.trackerThrows index) (fun _ => nofun) fun _ => nofun]
      rfl
  | toggleAddressBlock addressId isBlocked =>
      cases taken
      refine addressBlocked_update (fun row => ?_) rfl key
      by_cases selected : row.id = addressId
      · simp [RowUpdate.setIsBlocked, Label.setsBlocked, Label.blocks, Label.unblocks, selected]
      · simp [RowUpdate.setIsBlocked, Label.setsBlocked, Label.blocks, Label.unblocks, selected,
          Ne.symm selected]
  | blockAllAddressesForApp packageName =>
      cases taken
      refine addressBlocked_update (fun row => ?_) rfl key
      by_cases selected : row.packageName = packageName
      · simp [RowUpdate.setIsBlocked, Label.setsBlocked, Label.blocks, selected]
      · simp [RowUpdate.setIsBlocked, Label.setsBlocked, Label.blocks, Label.unblocks, selected,
          Ne.symm selected]
  | allowAllAddressesForApp packageName =>
      cases taken
      refine addressBlocked_update (fun row => ?_) rfl key
      by_cases selected : row.packageName = packageName
      · simp [RowUpdate.setIsBlocked, Label.setsBlocked, Label.blocks, Label.unblocks, selected]
      · simp [RowUpdate.setIsBlocked, Label.setsBlocked, Label.blocks, Label.unblocks, selected,
          Ne.symm selected]

end Addresses

/-! The verdict of `readPackets`. -/

/-- `isAddressBlockedForApp`: a query that throws counts as not blocked. -/
def isAddressBlockedForApp (address : Except String (Option AppAddressEntity)) : Bool :=
  match address with
  | .ok address => (address.map AppAddressEntity.isBlocked).getD false
  | .error _ => false

/-- The query of one packet; `thrown` is the exception it ends with, if any. -/
def queryAddress (addresses : Addresses) (thrown : Option String) (key : AddressKey) :
    Except String (Option AppAddressEntity) :=
  match thrown with
  | some error => .error error
  | none => .ok (addresses.table.getAddress key)

theorem isAddressBlockedForApp_query (addresses : Addresses) (thrown : Option String)
    (key : AddressKey) :
    isAddressBlockedForApp (queryAddress addresses thrown key) =
      (thrown.isNone && addresses.addressBlocked key) := by
  cases thrown with
  | some error => rfl
  | none =>
      simp only [queryAddress, isAddressBlockedForApp, Addresses.addressBlocked]
      cases addresses.table.getAddress key <;> rfl

inductive Verdict where
  | drop
  | forward
  deriving DecidableEq, Repr

/-- Without a package name neither test is made. -/
def verdict (blockedAppCache : Finset String) (sourcePackageName : Option String)
    (isAddressBlocked : Bool) : Verdict :=
  let isAppBlocked := (sourcePackageName.map fun pkg => decide (pkg ∈ blockedAppCache)).getD false
  if isAppBlocked || isAddressBlocked then .drop else .forward

theorem verdict_drop_iff (blockedAppCache : Finset String) (packageName : String)
    (isAddressBlocked : Bool) :
    verdict blockedAppCache (some packageName) isAddressBlocked = .drop ↔
      packageName ∈ blockedAppCache ∨ isAddressBlocked := by
  simp [verdict, or_iff_not_imp_left]

end FirewallVpn
