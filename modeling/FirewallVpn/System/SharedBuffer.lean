import FirewallVpn.Forwarder.OwnPacket
import FirewallVpn.Forwarder.Addressing
import FirewallVpn.System.ReadLoop

/-! The one buffer of `readPackets` under all schedules: when a coroutine's
native calls still see the packet it was launched for. -/

set_option autoImplicit false

namespace FirewallVpn

/-- The report of a call is what `parseRealPacket` says of its packet. -/
def ForwardCall.Reported (pcpp : PcapPlusPlus) (call : ForwardCall) : Prop :=
  ∃ timeStamp appName,
    call.traffic = { parseRealPacket pcpp call.packet call.length timeStamp with appName }

namespace System

/-- The native calls of this step see the packet of their coroutine. -/
def UsesOwnPacket (pcpp : PcapPlusPlus) (system : System) : Label → Prop
  | .task index _ => ∀ task ∈ system.forwarder.tasks[index]?,
      Forwarder.UsesOwn pcpp system.forwarder.byteArray task.call task.job
  | _ => True

/-- A packet is read only when it changes nothing for the native calls that the
coroutines launched so far have still to make. -/
def SparesPending (pcpp : PcapPlusPlus) (system : System) : Label → Prop
  | .read packet => ∀ task ∈ system.forwarder.tasks,
      Forwarder.WouldUseOwn pcpp (packet ++ system.forwarder.byteArray.drop packet.length)
        task.call task.job
  | _ => True

instance (pcpp : PcapPlusPlus) (system : System) :
    ∀ label, Decidable (SparesPending pcpp system label)
  | .read _ => inferInstanceAs (Decidable (∀ task ∈ system.forwarder.tasks, _))
  | .service _ | .laterInstance _ | .addresses _ | .parse _ _ _ | .lookup _ | .verdict | .forward _
  | .task _ _ | .clear => .isTrue trivial

/-- What holds in every run that spares pending coroutines. -/
structure OwnPackets (pcpp : PcapPlusPlus) (system : System) : Prop where
  pending : ∀ task ∈ system.forwarder.tasks,
    Forwarder.WouldUseOwn pcpp system.forwarder.byteArray task.call task.job
  held : Forwarder.AllJobs (Forwarder.HoldsOwn pcpp) (Forwarder.SendsOwn pcpp) system.forwarder
  accepted : ∀ call ∈ system.forwarder.calls, call ∈ system.forwarded
  reported : ∀ call, call ∈ system.forwarded ∨ loopCall system.loop = some call →
    call.Reported pcpp

variable {pcpp : PcapPlusPlus} {system next : System} {label : Label}

private theorem parsed_reported (length : Nat) (timeStamp appName : String)
    (sourcePackageName : Option String) :
    (system.parsed pcpp length timeStamp appName sourcePackageName).Reported pcpp := by
  refine ⟨timeStamp, appName, ?_⟩
  rw [parsed, ForwardCall.length, parseRealPacket_take]

private theorem SystemStep.reported (stepped : SystemStep pcpp system label next)
    (reported : ∀ call, call ∈ system.forwarded ∨ loopCall system.loop = some call →
      call.Reported pcpp) :
    ∀ call, call ∈ next.forwarded ∨ loopCall next.loop = some call → call.Reported pcpp := by
  have old : ∀ call, call ∈ system.forwarded → call.Reported pcpp :=
    fun call member => reported call (.inl member)
  intro call either
  rcases either with member | inHand
  · cases stepped with
    | @forwarded sent answer forwarder stage taken =>
        rcases List.mem_append.mp member with before | single
        · exact old call before
        · rw [List.mem_singleton.mp single]
          exact reported sent (.inr (by rw [stage, loopCall]))
    | service | laterInstance | addresses | readNothing | read | skipped | unowned | tracked
    | lookedUp | dropped | accepted | task | cleared => exact old call member
  · cases stepped with
    | @service serviceLabel service taken =>
        simp only [afterService] at inHand
        split at inHand
        · cases inHand
        · exact reported call (.inr inHand)
    | unowned stage =>
        cases inHand
        exact parsed_reported _ _ _ _
    | tracked stage parses taken =>
        cases inHand
        rw [parses]
        exact parsed_reported _ _ _ _
    | lookedUp stage => exact reported call (.inr (by rw [stage]; exact inHand))
    | accepted stage allowed => exact reported call (.inr (by rw [stage]; exact inHand))
    | read | skipped | dropped | forwarded => cases inHand
    | laterInstance | addresses | readNothing | task | cleared =>
        exact reported call (.inr inHand)

private theorem SystemStep.accepted_calls (stepped : SystemStep pcpp system label next)
    (accepted : ∀ call ∈ system.forwarder.calls, call ∈ system.forwarded) :
    ∀ call ∈ next.forwarder.calls, call ∈ next.forwarded := by
  intro call member
  have grown : ∀ other ∈ system.forwarded, other ∈ next.forwarded := by
    cases stepped with
    | forwarded => exact fun other old => List.mem_append_left _ old
    | service | laterInstance | addresses | readNothing | read | skipped | unowned | tracked
    | lookedUp | dropped | accepted | task | cleared => exact fun other old => old
  have moved := stepped.forwarder
  split at moved
  · rw [moved] at member
    exact grown call (accepted call member)
  · next forwarderLabel located =>
      rcases Forwarder.step_calls moved member with old | ⟨answer, rfl⟩
      · exact grown call (accepted call old)
      · cases stepped with
        | forwarded stage taken =>
            simp only [forwarderLabel, stage, Option.some.injEq, Forwarder.Label.forwardPacket.injEq]
              at located
            rw [located.1]
            exact List.mem_append_right _ (List.mem_singleton_self _)
        | @service serviceLabel service taken =>
            simp only [forwarderLabel] at located
            split at located <;> cases located
        | @read packet forwarder atHead taken =>
            simp only [forwarderLabel] at located
            split at located <;> cases located
        | laterInstance | addresses | readNothing | skipped | unowned | tracked | lookedUp | dropped
        | accepted | task | cleared => cases located

theorem OwnPackets.step (own : OwnPackets pcpp system) (spared : SparesPending pcpp system label)
    (taken : system.step pcpp label = some next) : OwnPackets pcpp next := by
  have stepped := step_system taken
  have moved := stepped.forwarder
  refine
    { pending := ?_
      held := ?_
      accepted := stepped.accepted_calls own.accepted
      reported := stepped.reported own.reported }
  · split at moved
    · rw [moved]
      exact own.pending
    · next forwarderLabel located =>
        by_cases overwrites : ∃ packet, forwarderLabel = .overwrite packet
        · obtain ⟨packet, rfl⟩ := overwrites
          cases stepped with
          | @read read forwarder atHead overwritten =>
              simp only [System.forwarderLabel] at located
              split at located <;> cases located
              cases Forwarder.step_forwarder overwritten with
              | overwritten fits => exact spared
          | @service serviceLabel service stopped =>
              simp only [System.forwarderLabel] at located
              split at located <;> cases located
          | forwarded stage taken =>
              simp only [System.forwarderLabel, stage] at located
              cases located
          | laterInstance | addresses | readNothing | skipped | unowned | tracked | lookedUp
          | dropped | accepted | task | cleared => cases located
        · exact Forwarder.wouldUseOwn_step own.pending
            (fun packet same => overwrites ⟨packet, same⟩) moved
  · split at moved
    · rw [moved]
      exact own.held
    · next forwarderLabel located =>
        refine (Forwarder.ownInvariant pcpp).step own.held ?_ moved
        cases forwarderLabel with
        | task index answer =>
            exact fun task found => (own.pending task (List.mem_of_getElem? found)).1
        | overwrite | forwardPacket | cleanup | clear => exact True.intro

/-- If every read spares the coroutines that have still to look at the buffer,
each of them uses the payload and flags of its own packet, and only payloads of
accepted packets are sent to a remote socket. -/
theorem own_packets_used {persisted : Finset String} {labels : List Label} {final : System}
    (ran : Transition.run (step pcpp) (created persisted) labels = some final)
    (spared : Transition.Guarded (step pcpp) (SparesPending pcpp) (created persisted) labels) :
    Transition.Guarded (step pcpp) (UsesOwnPacket pcpp) (created persisted) labels ∧
      ∀ output ∈ final.forwarder.outputs,
        output.call ∈ final.forwarded ∧ output.call.Reported pcpp ∧
          Forwarder.SendsOwn pcpp output.call output.content := by
  have start : OwnPackets pcpp (created persisted) := by
    refine ⟨List.forall_mem_nil _, Forwarder.allJobs_initial, List.forall_mem_nil _, ?_⟩
    intro call either
    rcases either with member | inHand
    · cases member
    · cases inHand
  constructor
  · refine spared.mono_invariant (OwnPackets pcpp)
      (fun _ _ _ own spares taken => own.step spares taken) ?_ start
    intro system label own spares
    cases label with
    | task index answer =>
        exact fun task located => (own.pending task (List.mem_of_getElem? located)).1
    | _ => exact True.intro
  · intro output member
    have own : OwnPackets pcpp final :=
      spared.preserves (OwnPackets pcpp) (fun _ _ _ own spares taken => own.step spares taken) start ran
    have accepted : output.call ∈ final.forwarded :=
      own.accepted _ (Forwarder.mem_calls.mpr (.inr ⟨output, member, rfl⟩))
    exact ⟨accepted, own.reported _ (.inl accepted), own.held.2 output member⟩

private theorem step_task {index : Nat} {task : Task} {effect : Forwarder.Effect} {job : Job}
    (located : system.forwarder.tasks[index]? = some task)
    (moved : Forwarder.jobNext pcpp system.forwarder task.call task.job .returns =
      some (effect, job)) :
    system.step pcpp (.task index .returns) =
      some { system with forwarder := system.forwarder.resume task.call index effect job } := by
  simp [step, Forwarder.step, located, moved]

private theorem misled_now {index : Nat} {task : Task}
    (located : system.forwarder.tasks[index]? = some task)
    (misled : ¬ Forwarder.UsesOwn pcpp system.forwarder.byteArray task.call task.job) :
    ∃ final, system.step pcpp (.task index .returns) = some final ∧
      ¬ UsesOwnPacket pcpp system (.task index .returns) := by
  obtain ⟨⟨effect, job⟩, moved⟩ := Forwarder.nativeCall_returns misled
  exact ⟨_, step_task located moved, fun uses => misled (uses task located)⟩

/-- The condition on reads cannot be weakened: after a read that does not spare
a coroutine, that coroutine can be given something else than its own packet. -/
theorem unspared_read_misleads {packet : List UInt8}
    (unspared : ¬ SparesPending pcpp system (.read packet))
    (taken : system.step pcpp (.read packet) = some next) :
    ∃ labels final, Transition.run (step pcpp) next labels = some final ∧
      ¬ Transition.Guarded (step pcpp) (UsesOwnPacket pcpp) next labels := by
  have read : next.forwarder.tasks = system.forwarder.tasks ∧
      next.forwarder.byteArray = packet ++ system.forwarder.byteArray.drop packet.length := by
    cases step_system taken with
    | readNothing => exact ⟨rfl, rfl⟩
    | read atHead overwritten =>
        cases Forwarder.step_forwarder overwritten with
        | overwritten fits => exact ⟨rfl, rfl⟩
  simp only [SparesPending, not_forall] at unspared
  obtain ⟨task, member, misled⟩ := unspared
  rw [← read.2] at misled
  rw [← read.1] at member
  obtain ⟨index, located⟩ := List.mem_iff_getElem?.mp member
  by_cases first : Forwarder.UsesOwn pcpp next.forwarder.byteArray task.call task.job
  · simp only [Forwarder.WouldUseOwn, first, true_and, Classical.not_imp] at misled
    obtain ⟨reads, payload⟩ := misled
    rw [reads] at first
    have flags : Forwarder.jobNext pcpp next.forwarder task.call task.job .returns =
        some (.none, .tcp (.extractTcpPayload (task.call.ownTcpFlags pcpp))) := by
      rw [reads, ← first]
      rfl
    obtain ⟨middle, flagsRead, waiting, same⟩ : ∃ middle,
        next.step pcpp (.task index .returns) = some middle ∧
          middle.forwarder.tasks[index]? = some { task with
            job := .tcp (.extractTcpPayload (task.call.ownTcpFlags pcpp)) } ∧
          middle.forwarder.byteArray = next.forwarder.byteArray :=
      ⟨_, step_task located flags, TaskPool.getElem?_advance_self located, rfl⟩
    rw [← same] at payload
    obtain ⟨final, extracted, differs⟩ := misled_now waiting payload
    exact ⟨[.task index .returns, .task index .returns], final,
      by simp [Transition.run_cons, flagsRead, extracted],
      fun guarded => differs (guarded.2 middle flagsRead).1⟩
  · obtain ⟨final, extracted, differs⟩ := misled_now located first
    exact ⟨[.task index .returns], final, by simp [Transition.run_cons, extracted],
      fun guarded => differs guarded.1⟩

/-- One turn of the loop with a packet that is accepted. -/
def acceptedTurn (packet : List UInt8) (sourcePackageName : String) : List Label :=
  [.read packet, .parse "01/01/2025 00:00:00" sourcePackageName (some sourcePackageName),
    .lookup none, .verdict, .forward .returns]

/-- The datagram is sent before the loop reads the next one. -/
def datagramSent : List Label :=
  .service (.command .START_VPN_SERVICE) :: acceptedTurn datagramToPort9000.bytes "com.example.mail" ++
    List.replicate 6 (.task 0 .returns) ++ [.read dnsQuery.bytes]

theorem datagram_used_own :
    ∃ final, Transition.run (step .headerRules) (created ∅) datagramSent = some final ∧
      ∀ output ∈ final.forwarder.outputs,
        Forwarder.SendsOwn .headerRules output.call output.content := by
  obtain ⟨final, ran⟩ := Option.isSome_iff_exists.mp (by decide +kernel :
    (Transition.run (step .headerRules) (created ∅) datagramSent).isSome = true)
  have used := own_packets_used ran (by decide +kernel)
  exact ⟨final, ran, fun output member => (used.2 output member).2.2⟩

/-- A datagram of the same size from an app that is blocked. -/
def blockedDatagram : UdpPacket :=
  .plain vpnAddress 40001 ⟨93, 184, 216, 34⟩ 9001 [0x6b, 0x6f] (by decide)

/-- The next packet, which is dropped, is in the buffer when the first coroutine
gets to look at it. -/
def datagramOverwritten : List Label :=
  [.service .emission, .service .checkRunning, .service (.command .START_VPN_SERVICE)] ++
    acceptedTurn datagramToPort9000.bytes "com.example.mail" ++
    (acceptedTurn blockedDatagram.bytes "com.example.blocked").take 4 ++
    List.replicate 6 (.task 0 .returns)

theorem dropped_packet_sent :
    ¬ ∀ (pcpp : PcapPlusPlus) (persisted : Finset String) (labels : List Label) (final : System),
      pcpp.Documented → Transition.run (step pcpp) (created persisted) labels = some final →
      Transition.Guarded (step pcpp) (UsesOwnPacket pcpp) (created persisted) labels ∧
        ∀ output ∈ final.forwarder.outputs,
          output.call ∈ final.forwarded ∧ output.call.Reported pcpp ∧
            Forwarder.SendsOwn pcpp output.call output.content := by
  intro own
  have observed : (Transition.run (step .headerRules) (created {"com.example.blocked"})
      datagramOverwritten).map (fun final => final.forwarder.outputs.map fun output =>
        (output.content, output.call.packet)) =
      some [(.datagram 0 blockedDatagram.payload, datagramToPort9000.bytes)] := by
    decide +kernel
  obtain ⟨final, ran, outputs⟩ := Option.map_eq_some_iff.mp observed
  obtain ⟨output, written, same⟩ := List.mem_map.mp (by rw [outputs]; exact List.mem_cons_self :
    (Content.datagram 0 blockedDatagram.payload, datagramToPort9000.bytes) ∈
      final.forwarder.outputs.map fun output => (output.content, output.call.packet))
  obtain ⟨content, packet⟩ := Prod.mk.inj same
  have sends := ((own .headerRules _ _ final PcapPlusPlus.headerRules_documented ran).2 output
    written).2.2
  rw [content, Forwarder.SendsOwn, ForwardCall.ownUdpPayload, ForwardCall.length, packet] at sends
  exact absurd sends (by decide +kernel)

end System

end FirewallVpn
