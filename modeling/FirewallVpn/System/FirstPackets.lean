import FirewallVpn.System.SharedBuffer

/-! The packets of blocked apps before and after the collector has stored the
persisted set for the first time. -/

set_option autoImplicit false

namespace FirewallVpn

def ForwardCall.FromBlocked (blocked : Finset String) (call : ForwardCall) : Prop :=
  ∃ packageName ∈ blocked, call.sourcePackageName = some packageName

instance (blocked : Finset String) (call : ForwardCall) : Decidable (call.FromBlocked blocked) :=
  inferInstanceAs (Decidable (∃ packageName ∈ blocked, _))

namespace System

/-- The user does not change the persisted set. -/
def keepsPolicy : Label → Bool
  | .service (.persist _) => false
  | _ => true

/-- A packet of a blocked app gets its verdict only after the first emission, or
when its address is blocked. -/
def VerdictAfterLoad (blocked : Finset String) (system : System) : Label → Prop
  | .verdict =>
      match system.loop with
      | .verdict call isAddressBlocked =>
          call.FromBlocked blocked → system.policyLoaded ∨ isAddressBlocked
      | _ => True
  | _ => True

instance (blocked : Finset String) (system : System) :
    ∀ label, Decidable (VerdictAfterLoad blocked system label)
  | .verdict =>
      match stage : system.loop with
      | .verdict call isAddressBlocked =>
          decidable_of_iff (call.FromBlocked blocked → system.policyLoaded ∨ isAddressBlocked)
            (by rw [VerdictAfterLoad, stage])
      | .reading | .parsing _ | .lookup _ _ | .forward _ =>
          .isTrue (by rw [VerdictAfterLoad, stage]; exact True.intro)
  | .service _ | .laterInstance _ | .addresses _ | .read _ | .parse _ _ _ | .lookup _ | .forward _
  | .task _ _ | .clear => .isTrue trivial

/-- No packet of a blocked app has passed, and the cache holds the persisted set
as soon as it has been assigned. -/
structure Closed (blocked : Finset String) (system : System) : Prop where
  persisted : system.service.persisted = blocked
  loaded : system.policyLoaded → system.service.blockedAppCache = blocked
  inHand : ∀ call, system.loop = .forward call → ¬ call.FromBlocked blocked
  forwarded : ∀ call ∈ system.forwarded, ¬ call.FromBlocked blocked

variable {pcpp : PcapPlusPlus} {blocked : Finset String}

private theorem verdict_of_blocked {cache : Finset String} {call : ForwardCall}
    (fromBlocked : call.FromBlocked cache) (isAddressBlocked : Bool) :
    FirewallVpn.verdict cache call.sourcePackageName isAddressBlocked = .drop := by
  obtain ⟨packageName, member, same⟩ := fromBlocked
  rw [same]
  exact (verdict_drop_iff cache packageName isAddressBlocked).mpr (.inl member)

theorem Closed.step {system next : System} {label : Label} (closed : Closed blocked system)
    (kept : keepsPolicy label) (afterLoad : VerdictAfterLoad blocked system label)
    (taken : system.step pcpp label = some next) : Closed blocked next := by
  obtain ⟨persisted, loaded, inHand, forwarded⟩ := closed
  cases step_system taken with
  | @service serviceLabel service stepped =>
      obtain ⟨samePersisted, cache⟩ := Service.step_policy stepped
      have unchanged : ∀ set, serviceLabel ≠ .persist set := by
        rintro set rfl
        cases kept
      refine ⟨(samePersisted unchanged).trans persisted, fun load => ?_, fun call stage => ?_,
        forwarded⟩
      · change service.blockedAppCache = blocked
        rw [cache]
        split
        · exact persisted
        · next other => exact loaded (by simpa [afterService, other] using load)
      · simp only [afterService] at stage
        split at stage
        · cases stage
        · exact inHand call stage
  | @laterInstance serviceLabel service destroys stepped =>
      obtain ⟨samePersisted, cache⟩ := Service.step_policy stepped
      have unchanged : ∀ set, serviceLabel ≠ .persist set := by
        rintro set rfl
        cases destroys
      have silent : serviceLabel ≠ .emission := by
        rintro rfl
        cases destroys
      refine ⟨(samePersisted unchanged).trans persisted, fun load => ?_, inHand, forwarded⟩
      change service.blockedAppCache = blocked
      rw [cache, if_neg silent]
      exact loaded load
  | @accepted call isAddressBlocked stage allowed =>
      refine ⟨persisted, loaded, fun sent same => ?_, forwarded⟩
      cases same
      intro fromBlocked
      rw [VerdictAfterLoad, stage] at afterLoad
      rcases afterLoad fromBlocked with load | addressBlocked
      · rw [loaded load, verdict_of_blocked fromBlocked] at allowed
        cases allowed
      · rw [verdict, addressBlocked] at allowed
        simp at allowed
  | @forwarded call answer forwarder stage stepped =>
      refine ⟨persisted, loaded, fun _ same => (by cases same), fun other member => ?_⟩
      rcases List.mem_append.mp member with old | single
      · exact forwarded other old
      · rw [List.mem_singleton.mp single]
        exact inHand call stage
  | addresses | readNothing | task | cleared => exact ⟨persisted, loaded, inHand, forwarded⟩
  | read | skipped | unowned | tracked | lookedUp | dropped =>
      exact ⟨persisted, loaded, fun _ same => (by cases same), forwarded⟩

/-- If blocked apps are judged only after the first emission, none of their
packets is ever passed to `forwardPacket`. -/
theorem blocked_never_forwarded {labels : List Label} {final : System}
    (guarded : Transition.Guarded (step pcpp)
      (fun system label => keepsPolicy label ∧ VerdictAfterLoad blocked system label)
      (created blocked) labels)
    (ran : Transition.run (step pcpp) (created blocked) labels = some final) :
    ∀ call ∈ final.forwarded, ¬ call.FromBlocked blocked := by
  have start : Closed blocked (created blocked) :=
    ⟨rfl, nofun, fun _ => nofun, List.forall_mem_nil _⟩
  have closed := guarded.preserves (Closed blocked)
    (fun _ _ _ closed admitted taken => closed.step admitted.1 admitted.2 taken) start ran
  exact closed.forwarded

theorem reachable_unloaded {system : System}
    (reachable : Transition.Reachable (step pcpp) (created blocked) system) :
    system.policyLoaded = false → system.service.blockedAppCache = ∅ := by
  refine reachable.invariant
    (fun system => system.policyLoaded = false → system.service.blockedAppCache = ∅)
    (fun system label next unloaded taken => ?_) (fun _ => rfl)
  cases step_system taken with
  | @service serviceLabel service stepped =>
      intro early
      simp only [afterService, Bool.or_eq_false_iff, decide_eq_false_iff_not] at early
      change service.blockedAppCache = ∅
      rw [(Service.step_policy stepped).2, if_neg early.2]
      exact unloaded early.1
  | @laterInstance serviceLabel service destroys stepped =>
      have silent : serviceLabel ≠ .emission := by
        rintro rfl
        cases destroys
      intro early
      change service.blockedAppCache = ∅
      rw [(Service.step_policy stepped).2, if_neg silent]
      exact unloaded early
  | addresses | readNothing | read | skipped | unowned | tracked | lookedUp | dropped | accepted
  | forwarded | task | cleared => exact unloaded

/-- The condition on verdicts cannot be weakened: a packet of a blocked app that
is judged too early is passed to `forwardPacket`. -/
theorem early_verdict_passes {system : System}
    (reachable : Transition.Reachable (step pcpp) (created blocked) system)
    (looping : system.service.companion.readLoops ≠ 0)
    (early : ¬ VerdictAfterLoad blocked system .verdict) :
    ∃ final, Transition.run (step pcpp) system [.verdict, .forward .returns] = some final ∧
      ∃ call ∈ final.forwarded, call.FromBlocked blocked := by
  cases stage : system.loop with
  | verdict call isAddressBlocked =>
      simp only [VerdictAfterLoad, stage, Classical.not_imp, not_or, Bool.not_eq_true] at early
      obtain ⟨fromBlocked, unloaded, allowed⟩ := early
      have passes : FirewallVpn.verdict system.service.blockedAppCache call.sourcePackageName
          isAddressBlocked = .forward := by
        obtain ⟨packageName, -, same⟩ := fromBlocked
        rw [reachable_unloaded reachable unloaded, allowed, same]
        rfl
      have held : call.packet <+: system.forwarder.byteArray :=
        reachable_held reachable call (by rw [stage]; rfl)
      obtain ⟨forwarder, launched⟩ : ∃ forwarder,
          system.forwarder.step pcpp (.forwardPacket call .returns) = some forwarder := by
        simp only [Forwarder.step, held, if_true, Forwarder.forwardPacket]
        cases call.traffic.protocolByte <;> exact ⟨_, rfl⟩
      have ran : Transition.run (step pcpp) system [.verdict, .forward .returns] =
          some { system with
            forwarder, loop := .reading, forwarded := system.forwarded ++ [call] } := by
        simp [Transition.run_cons, step, loopStep, stage, looping, passes, launched]
      exact ⟨_, ran, call, List.mem_append_right _ (List.mem_singleton_self _), fromBlocked⟩
  | reading | parsing | lookup | forward =>
      rw [VerdictAfterLoad, stage] at early
      exact absurd True.intro early

/-- The policy is loaded before the VPN starts. -/
def loadedFirst : List Label :=
  [.service .emission, .service .checkRunning, .service (.command .START_VPN_SERVICE)] ++
    acceptedTurn datagramToPort9000.bytes "com.example.mail" ++
    (acceptedTurn blockedDatagram.bytes "com.example.blocked").take 4

theorem loadedFirst_closed :
    ∃ final, Transition.run (step .headerRules) (created {"com.example.blocked"}) loadedFirst =
        some final ∧ final.forwarded.length = 1 ∧
      ∀ call ∈ final.forwarded, ¬ call.FromBlocked {"com.example.blocked"} := by
  have observed : (Transition.run (step .headerRules) (created {"com.example.blocked"})
      loadedFirst).map (fun final => final.forwarded.length) = some 1 := by
    decide +kernel
  obtain ⟨final, ran, forwarded⟩ := Option.map_eq_some_iff.mp observed
  exact ⟨final, ran, forwarded, blocked_never_forwarded (by decide +kernel) ran⟩

/-- The loop is faster than the collector. -/
def startedFirst : List Label :=
  .service (.command .START_VPN_SERVICE) :: acceptedTurn blockedDatagram.bytes "com.example.blocked"

theorem startedFirst_not_closed :
    ¬ ∀ (pcpp : PcapPlusPlus) (blocked : Finset String) (labels : List Label) (final : System),
      pcpp.Documented → (∀ label ∈ labels, keepsPolicy label) →
      Transition.run (step pcpp) (created blocked) labels = some final →
      ∀ call ∈ final.forwarded, ¬ call.FromBlocked blocked := by
  intro closed
  have observed : (Transition.run (step .headerRules) (created {"com.example.blocked"})
      startedFirst).map (fun final => final.forwarded.map ForwardCall.sourcePackageName) =
      some [some "com.example.blocked"] := by
    decide +kernel
  obtain ⟨final, ran, forwarded⟩ := Option.map_eq_some_iff.mp observed
  obtain ⟨call, member, source⟩ := List.mem_map.mp (by rw [forwarded]; exact List.mem_cons_self :
    some "com.example.blocked" ∈ final.forwarded.map ForwardCall.sourcePackageName)
  exact closed .headerRules {"com.example.blocked"} startedFirst final
    PcapPlusPlus.headerRules_documented (by decide) ran call member
    ⟨"com.example.blocked", Finset.mem_singleton_self _, source⟩

end System

end FirewallVpn
