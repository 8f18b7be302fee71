import FirewallVpn.Native.Extraction
import FirewallVpn.System.SharedBuffer

/-! What leaves the device. The library takes a payload apart as far as it knows the
protocol, and the native functions hand over only what it does not know: what it
recognises is not sent to anyone, and nobody answers it. -/

set_option autoImplicit false

namespace FirewallVpn

namespace Forwarder

/-- Past the extraction, the packet of a request has a payload to extract. -/
def HoldsRequest (pcpp : PcapPlusPlus) (call : ForwardCall) : Job → Prop
  | .udp stage =>
      match stage with
      | .extractUdpPayload | .done => True
      | .create _ | .protect _ _ | .soTimeout _ _ | .getByName _ _ | .send _ _ | .receive _
      | .build _ _ | .write _ _ _ | .close _ => (call.ownUdpPayload pcpp).isSome
  | .tcp _ | .reader _ _ => True

def AnswersRequest (pcpp : PcapPlusPlus) (call : ForwardCall) : Content → Prop
  | .udpResponse _ _ => (call.ownUdpPayload pcpp).isSome
  | .passThrough _ | .synAck _ _ | .data _ _ _ | .upstream _ _ | .datagram _ _ => True

theorem requestInvariant (pcpp : PcapPlusPlus) :
    JobInvariant pcpp (fun forwarder => UsesOwn pcpp forwarder.byteArray) (HoldsRequest pcpp)
      (AnswersRequest pcpp) where
  udp _ _ := True.intro
  tcp _ _ := True.intro
  passThrough _ _ := True.intro
  kept forwarder call job answer effect next stepped uses holds := by
    cases stepped with
    | udp stepped =>
        cases stepped with
        | extracted found =>
            have own : call.ownUdpPayload pcpp = _ := Eq.trans (Eq.symm uses) found
            exact Option.isSome_of_eq_some own
        | noPayload | abandoned | closed => exact True.intro
        | created | shielded | timed | resolved | sent | received | timedOut | receiveFailed
        | buildFailed | built | buildThrew | written | writeFailed => exact holds
    | tcp stepped => exact True.intro
    | reader stepped => exact True.intro
  output forwarder call job answer content next stepped holds := by
    cases stepped with
    | udp stepped =>
        cases stepped with
        | sent => exact True.intro
        | written => exact holds
    | tcp stepped =>
        cases stepped with
        | synAckWritten | written | writeInterrupted => exact True.intro
    | reader stepped =>
        cases stepped with
        | written => exact True.intro
  launch forwarder call job answer launched next stepped holds := by
    cases stepped with
    | udp stepped => cases stepped
    | tcp stepped =>
        cases stepped with
        | readerStarted => exact True.intro
    | reader stepped => cases stepped

end Forwarder

namespace System

variable {pcpp : PcapPlusPlus} {persisted : Finset String} {labels : List Label} {final : System}

theorem OwnPackets.created : OwnPackets pcpp (created persisted) where
  pending := List.forall_mem_nil _
  held := Forwarder.allJobs_initial
  accepted := List.forall_mem_nil _
  reported call either := by
    rcases either with member | inHand
    · cases member
    · cases inHand

/-- What coroutines that see their own packets keep, they keep in every run that spares
those at work. -/
theorem allJobs_of_spared {holds : ForwardCall → Job → Prop}
    {produces : ForwardCall → Content → Prop}
    (invariant : Forwarder.JobInvariant pcpp
      (fun forwarder => Forwarder.UsesOwn pcpp forwarder.byteArray) holds produces)
    (ran : Transition.run (step pcpp) (created persisted) labels = some final)
    (spared : Transition.Guarded (step pcpp) (SparesPending pcpp) (created persisted) labels) :
    OwnPackets pcpp final ∧ Forwarder.AllJobs holds produces final.forwarder := by
  refine spared.preserves
    (fun system => OwnPackets pcpp system ∧ Forwarder.AllJobs holds produces system.forwarder) ?_
    ⟨OwnPackets.created, Forwarder.allJobs_initial⟩ ran
  intro system label next before spares taken
  obtain ⟨own, all⟩ := before
  refine ⟨own.step spares taken, ?_⟩
  have moved := (step_system taken).forwarder
  split at moved
  · rw [moved]
    exact all
  · next forwarderLabel located =>
      refine invariant.step all ?_ moved
      cases forwarderLabel with
      | task index answer =>
          exact fun task found => (own.pending task (List.mem_of_getElem? found)).1
      | overwrite | forwardPacket | cleanup | clear => exact True.intro

/-- What is sent for a packet, and what is answered, is a payload of it that the library
does not recognise. -/
structure LeavesUnrecognised (pcpp : PcapPlusPlus) (output : Output) : Prop where
  datagram : ∀ packet : UdpPacket, output.call.packet = packet.bytes →
    ∀ socket payload, output.content = .datagram socket payload →
      payload = packet.payload ∧ payload ≠ [] ∧
        pcpp.recognizesUdp packet.udp.portSrc packet.udp.portDst packet.payload = false
  reply : ∀ packet : UdpPacket, output.call.packet = packet.bytes →
    ∀ response reply, output.content = .udpResponse response reply →
      packet.payload ≠ [] ∧
        pcpp.recognizesUdp packet.udp.portSrc packet.udp.portDst packet.payload = false
  segment : ∀ packet : TcpPacket, output.call.packet = packet.bytes →
    ∀ connection payload, output.content = .upstream connection payload →
      payload <+: packet.payload ∧ packet.payload ≠ [] ∧
        pcpp.recognizesTcp packet.tcp.portSrc packet.tcp.portDst packet.payload = false

private theorem handedOver_iff {whole payload : List UInt8} {recognised : Bool} :
    (if whole = [] ∨ recognised then none else some whole) = some payload ↔
      payload = whole ∧ whole ≠ [] ∧ recognised = false := by
  by_cases empty : whole = [] <;> cases recognised <;> simp [empty, eq_comm]

theorem ownUdpPayload_iff (documented : pcpp.Documented) {call : ForwardCall} {packet : UdpPacket}
    (carries : call.packet = packet.bytes) {payload : List UInt8} :
    call.ownUdpPayload pcpp = some payload ↔ payload = packet.payload ∧ packet.payload ≠ [] ∧
      pcpp.recognizesUdp packet.udp.portSrc packet.udp.portDst packet.payload = false := by
  have extracted := extractUdpPayload_eq documented packet []
  rw [List.append_nil] at extracted
  rw [ForwardCall.ownUdpPayload, ForwardCall.length, carries, extracted, handedOver_iff]

theorem ownTcpPayload_iff (documented : pcpp.Documented) {call : ForwardCall} {packet : TcpPacket}
    (carries : call.packet = packet.bytes) {payload : List UInt8} :
    call.ownTcpPayload pcpp = some payload ↔ payload = packet.payload ∧ packet.payload ≠ [] ∧
      pcpp.recognizesTcp packet.tcp.portSrc packet.tcp.portDst packet.payload = false := by
  have extracted := extractTcpPayload_eq documented packet []
  rw [List.append_nil] at extracted
  rw [ForwardCall.ownTcpPayload, ForwardCall.length, carries, extracted, handedOver_iff]

/-- In a run that spares the coroutines at work, only unrecognised payloads of accepted
packets leave the device. A request for a name is recognised: it is not sent, and has no
answer. -/
theorem only_unrecognised_leaves (documented : pcpp.Documented)
    (ran : Transition.run (step pcpp) (created persisted) labels = some final)
    (spared : Transition.Guarded (step pcpp) (SparesPending pcpp) (created persisted) labels) :
    ∀ output ∈ final.forwarder.outputs,
      output.call ∈ final.forwarded ∧ LeavesUnrecognised pcpp output ∧
      ∀ packet : UdpPacket, output.call.packet = packet.bytes →
        DnsLayer.isDnsPort packet.udp.portSrc ∨ DnsLayer.isDnsPort packet.udp.portDst →
        DnsLayer.isDataValid packet.payload →
          (∀ socket payload, output.content ≠ .datagram socket payload) ∧
            ∀ response reply, output.content ≠ .udpResponse response reply := by
  obtain ⟨packets, requested⟩ := allJobs_of_spared (Forwarder.requestInvariant pcpp) ran spared
  intro output member
  have accepted : output.call ∈ final.forwarded :=
    packets.accepted _ (Forwarder.mem_calls.mpr (.inr ⟨output, member, rfl⟩))
  have own := packets.held.2 output member
  have answered := requested.2 output member
  have leaves : LeavesUnrecognised pcpp output := by
    refine ⟨fun packet carries socket payload same => ?_, fun packet carries response reply same => ?_,
      fun packet carries connection payload same => ?_⟩
    · rw [same] at own
      obtain ⟨rfl, nonempty, unrecognised⟩ := (ownUdpPayload_iff documented carries).mp own
      exact ⟨rfl, nonempty, unrecognised⟩
    · rw [same] at answered
      obtain ⟨payload, extracted⟩ := Option.isSome_iff_exists.mp answered
      exact ((ownUdpPayload_iff documented carries).mp extracted).2
    · rw [same] at own
      obtain ⟨whole, extracted, part⟩ := own
      obtain ⟨rfl, nonempty, unrecognised⟩ := (ownTcpPayload_iff documented carries).mp extracted
      exact ⟨part, nonempty, unrecognised⟩
  refine ⟨accepted, leaves, fun packet carries port valid => ?_⟩
  have recognised := documented.dns packet.udp.portSrc packet.udp.portDst packet.payload port valid
  constructor
  · intro socket payload same
    exact Bool.false_ne_true
      ((leaves.datagram packet carries socket payload same).2.2.symm.trans recognised)
  · intro response reply same
    exact Bool.false_ne_true ((leaves.reply packet carries response reply same).2.symm.trans recognised)

/-- A datagram is sent, and then a name is asked for. -/
def nameAsked : List Label :=
  .service (.command .START_VPN_SERVICE) :: acceptedTurn datagramToPort9000.bytes "com.example.mail" ++
    List.replicate 6 (.task 0 .returns) ++ acceptedTurn dnsQuery.bytes "com.example.web" ++
    [.task 1 .returns]

theorem nameAsked_unanswered :
    ∃ final output, Transition.run (step .headerRules) (created ∅) nameAsked = some final ∧
      final.forwarded.map ForwardCall.packet = [datagramToPort9000.bytes, dnsQuery.bytes] ∧
      final.forwarder.tasks[1]?.map Task.job = some (.udp .done) ∧
      final.forwarder.outputs = [output] ∧ output.content = .datagram 0 [0x68, 0x69] ∧
      LeavesUnrecognised .headerRules output := by
  have seen : (Transition.run (step .headerRules) (created ∅) nameAsked).any (fun final =>
      decide (final.forwarded.map ForwardCall.packet = [datagramToPort9000.bytes, dnsQuery.bytes]) &&
        decide (final.forwarder.tasks[1]?.map Task.job = some (.udp .done)) &&
        final.forwarder.outputs.head?.any fun output =>
          decide (final.forwarder.outputs = [output]) &&
            decide (output.content = .datagram 0 [0x68, 0x69])) = true := by
    decide +kernel
  obtain ⟨final, ran, holds⟩ := (Option.any_eq_true _ _).mp seen
  simp only [Bool.and_eq_true, decide_eq_true_eq] at holds
  obtain ⟨⟨forwarded, finished⟩, written⟩ := holds
  obtain ⟨output, -, same⟩ := (Option.any_eq_true _ _).mp written
  simp only [Bool.and_eq_true, decide_eq_true_eq] at same
  obtain ⟨single, content⟩ := same
  have member : output ∈ final.forwarder.outputs := by
    rw [single]
    exact List.mem_singleton_self output
  have leaves := (only_unrecognised_leaves PcapPlusPlus.headerRules_documented ran
    (by decide +kernel) output member).2.1
  exact ⟨final, output, ran, forwarded, finished, single, content, leaves⟩

end System

end FirewallVpn
