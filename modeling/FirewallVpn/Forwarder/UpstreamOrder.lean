import FirewallVpn.Forwarder.StreamBalance
import FirewallVpn.Forwarder.Addressing

/-! The byte stream a flow sends upstream, against the payloads of its packets. -/

set_option autoImplicit false

namespace FirewallVpn

/-- The flags and the payload of the TCP packet of a call, by its headers. -/
def ForwardCall.flags (call : ForwardCall) : Nat := (TcpHeader.decode (ipBody call.packet)).flags

def ForwardCall.payload (call : ForwardCall) : List UInt8 :=
  (ipBody call.packet).drop (4 * (TcpHeader.decode (ipBody call.packet)).dataOffset.val)

namespace Forwarder

def upstreamBytes (socket : Nat) (forwarder : Forwarder) : List UInt8 :=
  (upstreamWrites socket forwarder).flatMap Prod.snd

/-- The concatenation of the payloads, in the order the packets were read. -/
def sentBytes (key : String) (first : Nat) (forwarder : Forwarder) : List UInt8 :=
  (packets key first forwarder).flatMap fun packet => packet.1.payload

private theorem asWrite_bytes (index : Nat) (payload : List UInt8) :
    (asWrite index payload).flatMap Prod.snd = payload := by
  by_cases empty : payload = [] <;> simp [asWrite, empty]

private theorem packetWrites_bytes (key : String) (first : Nat) (forwarder : Forwarder) :
    (packetWrites ForwardCall.payload key first forwarder).flatMap Prod.snd =
      sentBytes key first forwarder := by
  simp only [packetWrites, sentBytes, List.flatMap_assoc, asWrite_bytes]

/-- When writes and clean-ups keep their turn, the socket gets the stream of the
app: a prefix of it at every moment, all of it once the coroutines are done or
the socket is closed. -/
theorem stream_written_in_order {pcpp : PcapPlusPlus} {key : String} {socket : Nat}
    {start final : Forwarder} (openFlow : OpenFlow pcpp key socket start) {labels : List Label}
    (inOrder : Transition.Guarded (step pcpp)
      (InOrder pcpp ForwardCall.flags ForwardCall.payload key socket start.tasks.length) start labels)
    (ran : Transition.run (step pcpp) start labels = some final) :
    upstreamBytes socket final <+:
        upstreamBytes socket start ++ sentBytes key start.tasks.length final ∧
      (FlowDone key final ∨ final.isClosed socket →
        upstreamBytes socket final =
          upstreamBytes socket start ++ sentBytes key start.tasks.length final) := by
  have state := openFlow.flowState_of_run inOrder ran
  have balance := congrArg (List.flatMap Prod.snd) state.balance
  rw [List.flatMap_append, List.flatMap_append, packetWrites_bytes] at balance
  constructor
  · exact ⟨_, balance⟩
  · intro ended
    have drained : pendingWrites ForwardCall.payload key start.tasks.length final = [] :=
      ended.elim FlowDone.pendingWrites state.drained_of_closed
    rw [drained, List.flatMap_nil, List.append_nil] at balance
    exact balance

/-- The packets follow one another without gap or overlap. -/
def Consecutive : UInt32 → List (ForwardCall × Nat) → Prop
  | _, [] => True
  | sequenceNumber, packet :: rest =>
      tcpSequence packet.1.packet = sequenceNumber ∧
        Consecutive (sequenceNumber + UInt32.ofNat packet.1.payload.length) rest

instance decidableConsecutive : ∀ sequenceNumber packets, Decidable (Consecutive sequenceNumber packets)
  | _, [] => .isTrue trivial
  | sequenceNumber, packet :: rest =>
      have := decidableConsecutive (sequenceNumber + UInt32.ofNat packet.1.payload.length) rest
      inferInstanceAs (Decidable (_ ∧ _))

/-- A packet of the web server's client, `offset` bytes into its stream. -/
def dataPacket (offset : Nat) (payload : List UInt8) (fits : payload.length ≤ 65495) : TcpPacket :=
  .plain vpnAddress ⟨93, 184, 216, 34⟩
    (.plain 40000 443 (1 + UInt32.ofNat offset) 1 false true false) payload rfl fits

def arrival (packet : TcpPacket) : List Label :=
  [.overwrite packet.bytes, .forwardPacket (callOf packet.bytes) .returns]

/-- Where the handshake of the web server's client ends. -/
def established : Forwarder :=
  (Transition.run (step .headerRules) initial (handshake 0)).getD initial

def webKey : String := (callOf (synPacket 0).bytes).key

theorem established_openFlow : OpenFlow .headerRules webKey 0 established where
  reachable := by
    obtain ⟨state, ran⟩ := Option.isSome_iff_exists.mp
      (by decide +kernel : (Transition.run (step .headerRules) initial (handshake 0)).isSome = true)
    refine ⟨handshake 0, ?_⟩
    rw [established, ran, Option.getD_some]
  registered := by decide +kernel
  done := by decide +kernel

def letterA : TcpPacket := dataPacket 0 [0x41] (by decide)

def letterB : TcpPacket := dataPacket 1 [0x42] (by decide)

def lettersInTurn : List Label :=
  arrival letterA ++ List.replicate 4 (.task 2 .returns) ++ arrival letterB ++
    List.replicate 4 (.task 3 .returns)

theorem letters_written :
    ∃ final, Transition.run (step .headerRules) established lettersInTurn = some final ∧
      upstreamBytes 0 final =
        upstreamBytes 0 established ++ sentBytes webKey established.tasks.length final := by
  have done : (Transition.run (step .headerRules) established lettersInTurn).map
      (fun final => decide (FlowDone webKey final)) = some true := by
    decide +kernel
  obtain ⟨final, ran, flowDone⟩ := Option.map_eq_some_iff.mp done
  have inOrder : Transition.Guarded (step .headerRules)
      (InOrder .headerRules ForwardCall.flags ForwardCall.payload webKey 0 established.tasks.length)
      established lettersInTurn := by
    decide +kernel
  exact ⟨final, ran, (stream_written_in_order established_openFlow inOrder ran).2
    (.inl (of_decide_eq_true flowDone))⟩

/-- Both coroutines have read their packets; the second writes first. -/
def lettersOutOfTurn : List Label :=
  arrival letterA ++ List.replicate 2 (.task 2 .returns) ++ arrival letterB ++
    List.replicate 4 (.task 3 .returns) ++ List.replicate 2 (.task 2 .returns)

theorem letters_reordered :
    ¬ ∀ (pcpp : PcapPlusPlus) (key : String) (socket : Nat) (start final : Forwarder)
        (labels : List Label) (sequenceNumber : UInt32),
      pcpp.Documented → OpenFlow pcpp key socket start →
      Transition.Guarded (step pcpp)
        (AsSent pcpp ForwardCall.flags ForwardCall.payload key socket start.tasks.length) start labels →
      Transition.run (step pcpp) start labels = some final →
      Consecutive sequenceNumber (packets key start.tasks.length final) → FlowDone key final →
      upstreamBytes socket final =
        upstreamBytes socket start ++ sentBytes key start.tasks.length final := by
  intro ordered
  have observed : (Transition.run (step .headerRules) established lettersOutOfTurn).map
      (fun final => (decide (FlowDone webKey final),
        decide (Consecutive 1 (packets webKey established.tasks.length final)),
        upstreamBytes 0 final, sentBytes webKey established.tasks.length final)) =
      some (true, true, [0x42, 0x41], [0x41, 0x42]) := by
    decide +kernel
  obtain ⟨final, ran, seen⟩ := Option.map_eq_some_iff.mp observed
  simp only [Prod.mk.injEq, decide_eq_true_eq] at seen
  obtain ⟨done, consecutive, written, sent⟩ := seen
  have asSent : Transition.Guarded (step .headerRules)
      (AsSent .headerRules ForwardCall.flags ForwardCall.payload webKey 0 established.tasks.length)
      established lettersOutOfTurn := by
    decide +kernel
  have same := ordered .headerRules webKey 0 established final lettersOutOfTurn 1
    PcapPlusPlus.headerRules_documented established_openFlow asSent ran consecutive done
  rw [written, sent] at same
  exact absurd same (by decide +kernel)

end Forwarder

end FirewallVpn
