import FirewallVpn.Addresses.BlockAll
import FirewallVpn.Attribution.UidResolver
import FirewallVpn.System.ReadLoop

/-! The verdict on a packet whose uid belongs to several packages: only the first
of them is asked about. -/

set_option autoImplicit false

namespace FirewallVpn

/-- The verdict of `readPackets`, from what `getPackagesForUid` answers. -/
def packetVerdict (blockedAppCache : Finset String) (addresses : Addresses) (thrown : Option String)
    (packages : Except String (Option (List String))) (traffic : TrafficLogResponse) : Verdict :=
  let sourcePackageName := UidResolver.getPackageNameFromUid packages
  let isAddressBlocked := (sourcePackageName.map fun packageName =>
    isAddressBlockedForApp
      (queryAddress addresses thrown (destinationKey packageName traffic))).getD false
  verdict blockedAppCache sourcePackageName isAddressBlocked

/-- The package is in the set, or a row of it for the destination is blocked. -/
def BlockedFor (blockedAppCache : Finset String) (addresses : Addresses)
    (traffic : TrafficLogResponse) (packageName : String) : Prop :=
  packageName ∈ blockedAppCache ∨
    ∃ row ∈ addresses.table.rows, row.key = destinationKey packageName traffic ∧ row.isBlocked

/-- What the loop asks about one package. -/
def FoundBlocked (blockedAppCache : Finset String) (addresses : Addresses) (thrown : Option String)
    (traffic : TrafficLogResponse) (packageName : String) : Prop :=
  packageName ∈ blockedAppCache ∨
    thrown = none ∧ (addresses.addressBlocked (destinationKey packageName traffic))

private theorem step_verdict {pcpp : PcapPlusPlus} {system : System} {call : ForwardCall}
    {isAddressBlocked : Bool} (atVerdict : system.loop = .verdict call isAddressBlocked)
    (looping : system.service.companion.readLoops ≠ 0) :
    system.step pcpp .verdict = some { system with
      loop := match verdict system.service.blockedAppCache call.sourcePackageName isAddressBlocked with
        | .drop => .reading
        | .forward => .forward call } := by
  simp only [System.step, looping, if_false, atVerdict, System.loopStep]
  cases verdict system.service.blockedAppCache call.sourcePackageName isAddressBlocked <;> rfl

private theorem step_lookup {pcpp : PcapPlusPlus} {system : System} {call : ForwardCall}
    {packageName : String} (atLookup : system.loop = .lookup call packageName)
    (looping : system.service.companion.readLoops ≠ 0) (thrown : Option String) :
    system.step pcpp (.lookup thrown) = some { system with
      loop := .verdict call (isAddressBlockedForApp
        (queryAddress system.addresses thrown (destinationKey packageName call.traffic))) } := by
  simp only [System.step, looping, if_false, atLookup, System.loopStep]

private theorem run_to_verdict {pcpp : PcapPlusPlus} {system : System} {length : Nat}
    (atParsing : system.loop = .parsing length) (looping : system.service.companion.readLoops ≠ 0)
    (timeStamp appName : String) (sourcePackageName thrown : Option String) {call : ForwardCall}
    (parses : call = system.parsed pcpp length timeStamp appName sourcePackageName)
    (known : System.isKnown call.traffic) :
    ∃ judged, Transition.run (System.step pcpp) system
        (.parse timeStamp appName sourcePackageName ::
          if sourcePackageName.isSome then [.lookup thrown] else []) = some judged ∧
      judged.service = system.service ∧
      judged.loop = .verdict call ((sourcePackageName.map fun packageName =>
        isAddressBlockedForApp (queryAddress system.addresses thrown
          (destinationKey packageName call.traffic))).getD false) := by
  have parsing : system.step pcpp (.parse timeStamp appName sourcePackageName) =
      system.track call := by
    simp only [System.step, looping, if_false, atParsing, System.loopStep, ← parses, known, if_true]
  have source : call.sourcePackageName = sourcePackageName := by
    rw [parses]
    rfl
  cases sourcePackageName with
  | none =>
      have tracked : system.track call = some { system with loop := .verdict call false } := by
        rw [System.track, source]
      exact ⟨_, Transition.run_cons_iff.mpr ⟨_, parsing.trans tracked, rfl⟩, rfl, rfl⟩
  | some packageName =>
      obtain ⟨tracking, tracked, atLookup, service, table⟩ : ∃ tracking,
          system.track call = some tracking ∧ tracking.loop = .lookup call packageName ∧
            tracking.service = system.service ∧ tracking.addresses.table = system.addresses.table := by
        rw [System.track, source]
        exact ⟨_, rfl, rfl, rfl, rfl⟩
      have lookedUp : tracking.step pcpp (.lookup thrown) = _ :=
        step_lookup atLookup (by rwa [service]) thrown
      have ran := Transition.run_cons_iff.mpr ⟨_, parsing.trans tracked,
        Transition.run_cons_iff.mpr ⟨_, lookedUp, Transition.run_nil _⟩⟩
      refine ⟨_, ran, service, ?_⟩
      simp only [queryAddress, table, Option.map_some, Option.getD_some]

/-- The loop's steps for one packet, with nothing in between, end as the verdict says. -/
theorem packetVerdict_loop {pcpp : PcapPlusPlus} {system : System} {length : Nat}
    (atParsing : system.loop = .parsing length) (looping : system.service.companion.readLoops ≠ 0)
    (timeStamp appName : String) (packages : Except String (Option (List String)))
    (thrown : Option String) {call : ForwardCall}
    (parses : call = system.parsed pcpp length timeStamp appName
      (UidResolver.getPackageNameFromUid packages))
    (known : System.isKnown call.traffic) :
    ∃ final, Transition.run (System.step pcpp) system
        ((.parse timeStamp appName (UidResolver.getPackageNameFromUid packages) ::
          if (UidResolver.getPackageNameFromUid packages).isSome then [.lookup thrown] else []) ++
          [.verdict]) = some final ∧
      final.loop =
        match packetVerdict system.service.blockedAppCache system.addresses thrown packages
          call.traffic with
        | .drop => .reading
        | .forward => .forward call := by
  obtain ⟨judged, ran, service, atVerdict⟩ :=
    run_to_verdict atParsing looping timeStamp appName _ thrown parses known
  have judging : judged.service.companion.readLoops ≠ 0 := by rwa [service]
  have decided : judged.step pcpp .verdict = _ := step_verdict atVerdict judging
  refine ⟨_, Transition.run_append_iff.mpr
    ⟨judged, ran, Transition.run_cons_iff.mpr ⟨_, decided, rfl⟩⟩, ?_⟩
  rw [packetVerdict, service, parses]
  rfl

/-- A packet is dropped exactly when the first package is found blocked. -/
theorem packetVerdict_drop_iff (blockedAppCache : Finset String) (addresses : Addresses)
    (thrown : Option String) (packages : List String) (traffic : TrafficLogResponse) :
    packetVerdict blockedAppCache addresses thrown (.ok (some packages)) traffic = .drop ↔
      ∃ first ∈ packages.head?, FoundBlocked blockedAppCache addresses thrown traffic first := by
  cases packages with
  | nil => simp [packetVerdict, UidResolver.getPackageNameFromUid, verdict]
  | cons first others =>
      simp only [packetVerdict, UidResolver.getPackageNameFromUid, Option.bind_some, List.head?_cons,
        Option.map_some, Option.getD_some, verdict_drop_iff, isAddressBlockedForApp_query,
        Option.mem_some_iff, exists_eq_left', FoundBlocked, Bool.and_eq_true,
        Option.isNone_iff_eq_none]

/-- Whatever belongs to the uid, a packet is dropped for it exactly when nothing
of it is blocked, or the first package is the one found blocked. -/
theorem shared_uid_drops_iff (blockedAppCache : Finset String) (addresses : Addresses)
    (thrown : Option String) (packages : List String) (traffic : TrafficLogResponse) :
    ((∃ packageName ∈ packages, BlockedFor blockedAppCache addresses traffic packageName) →
      packetVerdict blockedAppCache addresses thrown (.ok (some packages)) traffic = .drop) ↔
    (∀ packageName ∈ packages, ¬ BlockedFor blockedAppCache addresses traffic packageName) ∨
      ∃ first ∈ packages.head?, FoundBlocked blockedAppCache addresses thrown traffic first := by
  rw [packetVerdict_drop_iff, imp_iff_not_or]
  simp only [not_exists, not_and]

theorem second_package_ignored :
    ¬ ∀ (blockedAppCache : Finset String) (addresses : Addresses) (packages : List String)
        (traffic : TrafficLogResponse),
      (∃ packageName ∈ packages, BlockedFor blockedAppCache addresses traffic packageName) →
      packetVerdict blockedAppCache addresses none (.ok (some packages)) traffic = .drop := by
  intro drops
  have dropped := drops {"com.example.contacts"} Addresses.initial
    ["com.example.calendar", "com.example.contacts"] (Addresses.trafficTo "93.184.216.34")
    ⟨"com.example.contacts", by decide, .inl (Finset.mem_singleton_self _)⟩
  exact absurd dropped (by decide)

end FirewallVpn
