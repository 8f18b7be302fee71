import FirewallVpn.Addresses.Tracking

/-! What is left of "block all addresses" once it has been asked for: the update
reaches the rows the table has at that moment, and a destination met for the
first time later gets a row that is not blocked. -/

set_option autoImplicit false

namespace FirewallVpn

namespace Addresses

/-- The user asks to block the row that `getAddress` selects for `key`. -/
def BlocksRowOf (key : AddressKey) (addresses : Addresses) (label : Label) : Prop :=
  (addresses.table.getAddress key).any label.blocks

/-- No row of the app is allowed. -/
def AllowsNothingOf (packageName : String) (addresses : Addresses) (label : Label) : Prop :=
  ∀ row ∈ addresses.table.rows, row.packageName = packageName → ¬ label.unblocks row

instance (key : AddressKey) (addresses : Addresses) (label : Label) :
    Decidable (BlocksRowOf key addresses label) :=
  inferInstanceAs (Decidable (_ = true))

instance (packageName : String) (addresses : Addresses) (label : Label) :
    Decidable (AllowsNothingOf packageName addresses label) :=
  inferInstanceAs (Decidable (∀ row ∈ addresses.table.rows,
    row.packageName = packageName → ¬ label.unblocks row))

/-- While nothing of the app is allowed, a row of it is blocked for good. -/
theorem addressBlocked_latches {key : AddressKey} {addresses next : Addresses} {label : Label}
    (kept : AllowsNothingOf key.packageName addresses label)
    (taken : addresses.step label = some next) :
    next.addressBlocked key ↔ addresses.addressBlocked key ∨ BlocksRowOf key addresses label := by
  rw [addressBlocked_step taken, addressBlocked, BlocksRowOf]
  cases found : addresses.table.getAddress key with
  | none => simp
  | some row =>
      obtain ⟨member, matched⟩ := AddressTable.getAddress_key found
      have allowed : ¬ label.unblocks row := kept row member (congrArg AddressKey.packageName matched)
      simp [Label.setsBlocked, allowed, or_comm]

theorem blockAll_blocksRowOf {addresses : Addresses} {key : AddressKey}
    (blocked : addresses.addressBlocked key) :
    BlocksRowOf key addresses (.blockAllAddressesForApp key.packageName) := by
  cases found : addresses.table.getAddress key with
  | none =>
      rw [addressBlocked, found] at blocked
      cases blocked
  | some row =>
      obtain ⟨-, matched⟩ := AddressTable.getAddress_key found
      have owner : key.packageName = row.packageName := congrArg AddressKey.packageName matched.symm
      simp [BlocksRowOf, found, Label.blocks, owner]

/-- After `blockAllAddressesForApp`, and while nothing of the app is allowed, a
packet is dropped exactly when the app is in the cache, or its query succeeds
and the row it finds existed when the user last asked to block it. -/
theorem blockAll_drops_iff {addresses final : Addresses} {packageName : String} {later : List Label}
    (ran : Transition.run step addresses (.blockAllAddressesForApp packageName :: later) = some final)
    (kept : Transition.Guarded step (AllowsNothingOf packageName) addresses
      (.blockAllAddressesForApp packageName :: later))
    (blockedAppCache : Finset String) (thrown : Option String) (traffic : TrafficLogResponse) :
    verdict blockedAppCache (some packageName)
        (isAddressBlockedForApp (queryAddress final thrown (destinationKey packageName traffic))) =
      .drop ↔
    packageName ∈ blockedAppCache ∨ thrown = none ∧
      Transition.Occurs step (BlocksRowOf (destinationKey packageName traffic)) addresses
        (.blockAllAddressesForApp packageName :: later) := by
  have latched := kept.latch
    (fun addresses => addresses.addressBlocked (destinationKey packageName traffic))
    (fun _ _ _ admitted taken => addressBlocked_latches admitted taken) ran
  have recorded : final.addressBlocked (destinationKey packageName traffic) ↔
      Transition.Occurs step (BlocksRowOf (destinationKey packageName traffic)) addresses
        (.blockAllAddressesForApp packageName :: later) := by
    rw [latched]
    refine or_iff_right_of_imp fun blocked => ?_
    exact .inl (blockAll_blocksRowOf blocked)
  rw [verdict_drop_iff, isAddressBlockedForApp_query, ← recorded, Bool.and_eq_true,
    Option.isNone_iff_eq_none]

def trafficTo (dstIp : String) : TrafficLogResponse where
  appName := "Mail"
  protocol := .ipv4
  protocolByte := .tcp
  srcIp := "10.0.0.2"
  srcPort := 40000
  dstIp := dstIp
  dstPort := 443
  timeStamp := "01/01/2025 00:00:00"

def mailServer : AppAddressEntity :=
  (Tracker.mk "com.example.mail" "Mail" (trafficTo "93.184.216.34") .insertAddress).newAddress

def mailServerSeen : Addresses where
  table := AddressTable.empty.insertAddress mailServer
  trackers := []

def mailServerBlocked : Addresses where
  table := mailServerSeen.table.updateAllAddressesForApp "com.example.mail" true
  trackers := []

theorem seen_destination_dropped :
    verdict ∅ (some "com.example.mail") (isAddressBlockedForApp (queryAddress mailServerBlocked none
      (destinationKey "com.example.mail" (trafficTo "93.184.216.34")))) = .drop := by
  have ran : Transition.run step mailServerSeen [.blockAllAddressesForApp "com.example.mail"] =
      some mailServerBlocked := rfl
  exact (blockAll_drops_iff ran (by decide) ∅ none (trafficTo "93.184.216.34")).mpr
    (.inr ⟨rfl, by decide⟩)

theorem new_destination_forwarded :
    ¬ ∀ (addresses final : Addresses) (packageName : String) (later : List Label)
        (blockedAppCache : Finset String) (traffic : TrafficLogResponse),
      Transition.Reachable step initial addresses →
      Transition.run step addresses (.blockAllAddressesForApp packageName :: later) = some final →
      Transition.Guarded step (AllowsNothingOf packageName) addresses
        (.blockAllAddressesForApp packageName :: later) →
      verdict blockedAppCache (some packageName)
        (isAddressBlockedForApp (queryAddress final none (destinationKey packageName traffic))) =
          .drop := by
  intro drops
  have seen : Transition.Reachable step initial mailServerSeen :=
    ⟨[.trackAppAddress "com.example.mail" "Mail" (trafficTo "93.184.216.34"), .tracker 0, .tracker 0],
      rfl⟩
  have dropped := drops mailServerSeen mailServerBlocked "com.example.mail" [] ∅
    (trafficTo "198.51.100.7") seen rfl (by decide)
  exact absurd dropped (by decide)

end Addresses

end FirewallVpn
