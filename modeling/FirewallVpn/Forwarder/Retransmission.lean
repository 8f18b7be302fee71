import FirewallVpn.Forwarder.UpstreamOrder

/-! Segments of the app's stream against the stream positions the forwarder
writes. Nothing relates a packet's sequence number to what has been written, so
the stream arrives once and in order only if the segments already come so. -/

set_option autoImplicit false

namespace FirewallVpn

namespace Forwarder

section Positions

/-! `offsetOf` gives the place in the stream of the packet of each coroutine. -/

variable (offsetOf : Nat → Nat)

/-- The stream positions of the bytes written, in the order of writing. -/
def writtenPositions (writes : List (Nat × List UInt8)) : List Nat :=
  writes.flatMap fun write => List.range' (offsetOf write.1) write.2.length

/-- The writes are a prefix of the stream, every byte written once and in order. -/
def WrittenOnce (stream : List UInt8) (writes : List (Nat × List UInt8)) : Prop :=
  ∃ number, writtenPositions offsetOf writes = List.range number ∧
    writes.flatMap Prod.snd = stream.take number

/-- Each packet whose payload counts begins where the last one ended. -/
def Contiguous (payloadOf : ForwardCall → List UInt8) : Nat → List (ForwardCall × Nat) → Prop
  | _, [] => True
  | next, packet :: rest =>
      (payloadOf packet.1 = [] ∧ Contiguous payloadOf next rest) ∨
        (offsetOf packet.2 = next ∧
          Contiguous payloadOf (next + (payloadOf packet.1).length) rest)

instance decidableContiguous (payloadOf : ForwardCall → List UInt8) :
    ∀ next packets, Decidable (Contiguous offsetOf payloadOf next packets)
  | _, [] => .isTrue trivial
  | next, packet :: rest =>
      have := decidableContiguous payloadOf next rest
      have := decidableContiguous payloadOf (next + (payloadOf packet.1).length) rest
      inferInstanceAs (Decidable (_ ∧ _ ∨ _ ∧ _))

variable {offsetOf} {payloadOf : ForwardCall → List UInt8}

private theorem positions_asWrite (index : Nat) (payload : List UInt8) :
    writtenPositions offsetOf (asWrite index payload) =
      List.range' (offsetOf index) payload.length := by
  by_cases empty : payload = [] <;> simp [writtenPositions, asWrite, empty]

private theorem run_on_cancel {start next length total : Nat} {rest : List Nat}
    (nonempty : 0 < length)
    (same : List.range' start length ++ rest = List.range' next total) :
    start = next ∧ ∃ remaining, rest = List.range' (next + length) remaining := by
  obtain ⟨length, rfl⟩ := Nat.exists_eq_add_of_lt nonempty
  have long := congrArg List.length same
  simp only [List.length_append, List.length_range'] at long
  obtain ⟨total, rfl⟩ : ∃ remaining, total = 0 + length + 1 + remaining := ⟨rest.length, long.symm⟩
  have begins : start = next := by
    have head := congrArg List.head? same
    simpa [List.range'_succ, Nat.add_right_comm _ 1] using head
  subst begins
  refine ⟨rfl, total, ?_⟩
  have split : List.range' start (0 + length + 1 + total) =
      List.range' start (0 + length + 1) ++ List.range' (start + (0 + length + 1)) total :=
    List.range'_append_1.symm
  rw [split] at same
  exact List.append_cancel_left same

/-- The positions written for a list of packets run on from `next` exactly when
the packets are contiguous from there. -/
theorem positions_run_on_iff {packets : List (ForwardCall × Nat)} {next : Nat} :
    (∃ number, writtenPositions offsetOf
        (packets.flatMap fun packet => asWrite packet.2 (payloadOf packet.1)) =
          List.range' next number) ↔
      Contiguous offsetOf payloadOf next packets := by
  induction packets generalizing next with
  | nil => exact ⟨fun _ => True.intro, fun _ => ⟨0, rfl⟩⟩
  | cons packet rest ih =>
      have split : writtenPositions offsetOf
          ((packet :: rest).flatMap fun packet => asWrite packet.2 (payloadOf packet.1)) =
            List.range' (offsetOf packet.2) (payloadOf packet.1).length ++
              writtenPositions offsetOf
                (rest.flatMap fun packet => asWrite packet.2 (payloadOf packet.1)) := by
        rw [List.flatMap_cons, writtenPositions, List.flatMap_append, ← writtenPositions,
          positions_asWrite, ← writtenPositions]
      rw [split, Contiguous, ← ih, ← ih]
      constructor
      · rintro ⟨number, same⟩
        by_cases empty : payloadOf packet.1 = []
        · refine .inl ⟨empty, number, ?_⟩
          rw [empty] at same
          exact same
        · exact .inr (run_on_cancel (List.length_pos_iff.mpr empty) same)
      · rintro (⟨empty, number, same⟩ | ⟨begins, number, same⟩)
        · refine ⟨number, ?_⟩
          rw [empty]
          exact same
        · refine ⟨(payloadOf packet.1).length + number, ?_⟩
          rw [same, begins, List.range'_append_1]

/-! Which bytes stand at the positions. -/

private theorem rangeBytes (stream : List UInt8) (start number : Nat) :
    (List.range' start number).filterMap (stream[·]?) = (stream.drop start).take number := by
  induction number generalizing start with
  | zero => simp
  | succ number ih =>
      rw [List.range'_succ, List.filterMap_cons, ih (start + 1)]
      by_cases within : start < stream.length
      · rw [List.drop_eq_getElem_cons within, List.getElem?_eq_getElem within]
        rfl
      · have beyond : stream.length ≤ start := Nat.le_of_not_lt within
        simp [List.getElem?_eq_none beyond, List.drop_eq_nil_of_le beyond,
          List.drop_eq_nil_of_le (Nat.le_succ_of_le beyond)]

private theorem positions_bytes {stream : List UInt8} {writes : List (Nat × List UInt8)}
    (slices : ∀ write ∈ writes, write.2 <+: stream.drop (offsetOf write.1)) :
    (writtenPositions offsetOf writes).filterMap (stream[·]?) = writes.flatMap Prod.snd := by
  induction writes with
  | nil => rfl
  | cons write rest ih =>
      obtain ⟨slice, later⟩ := List.forall_mem_cons.mp slices
      rw [writtenPositions, List.flatMap_cons, List.filterMap_append, ← writtenPositions, ih later,
        rangeBytes, ← List.prefix_iff_eq_take.mp slice, List.flatMap_cons]

theorem writtenOnce_iff {stream : List UInt8} {packets : List (ForwardCall × Nat)}
    (slices : ∀ packet ∈ packets, payloadOf packet.1 <+: stream.drop (offsetOf packet.2)) :
    WrittenOnce offsetOf stream
        (packets.flatMap fun packet => asWrite packet.2 (payloadOf packet.1)) ↔
      Contiguous offsetOf payloadOf 0 packets := by
  have writeSlices : ∀ write ∈ packets.flatMap fun packet => asWrite packet.2 (payloadOf packet.1),
      write.2 <+: stream.drop (offsetOf write.1) := by
    intro write member
    obtain ⟨packet, inPackets, written⟩ := List.mem_flatMap.mp member
    by_cases empty : payloadOf packet.1 = []
    · simp [asWrite, empty] at written
    · have same : write = (packet.2, payloadOf packet.1) := by
        simpa [asWrite, empty] using written
      subst same
      exact slices packet inPackets
  have bytes := positions_bytes writeSlices
  rw [← positions_run_on_iff]
  simp only [WrittenOnce, List.range_eq_range']
  constructor
  · rintro ⟨number, same, -⟩
    exact ⟨number, same⟩
  · rintro ⟨number, same⟩
    refine ⟨number, same, ?_⟩
    rw [← bytes, same, rangeBytes, List.drop_zero]

end Positions

/-- The packet of a TCP sender with initial sequence number `isn`, carrying the
bytes of its stream from `offset` on. -/
def CarriesSlice (stream : List UInt8) (isn : UInt32) (offset : Nat) (packet : List UInt8) : Prop :=
  ∃ segment : TcpPacket, packet = segment.bytes ∧
    segment.tcp.sequenceNumber = isn + 1 + UInt32.ofNat offset ∧
    segment.payload <+: stream.drop offset

/-- What the native functions make of a call's own packet. -/
def seenFlags (pcpp : PcapPlusPlus) (call : ForwardCall) : Nat :=
  getTcpFlags pcpp call.packet call.length

def seenPayload (pcpp : PcapPlusPlus) (call : ForwardCall) : List UInt8 :=
  (extractTcpPayload pcpp call.packet call.length).getD []

private theorem seenPayload_slice {pcpp : PcapPlusPlus} (documented : pcpp.Documented)
    {stream : List UInt8} {isn : UInt32} {offset : Nat} {call : ForwardCall}
    (carries : CarriesSlice stream isn offset call.packet) :
    seenPayload pcpp call <+: stream.drop offset := by
  obtain ⟨segment, same, -, slice⟩ := carries
  have extracted := extractTcpPayload_eq documented segment []
  rw [List.append_nil] at extracted
  rw [seenPayload, ForwardCall.length, same, extracted]
  split
  · exact List.nil_prefix
  · exact slice

/-- With every coroutine run in order, the remote side gets each byte of the
stream once and in order exactly when the segments do not overlap, repeat or
skip anything. -/
theorem stream_written_once_iff {pcpp : PcapPlusPlus} (documented : pcpp.Documented) {key : String}
    {socket : Nat} {start final : Forwarder} (openFlow : OpenFlow pcpp key socket start)
    (unwritten : upstreamWrites socket start = []) {labels : List Label}
    (inOrder : Transition.Guarded (step pcpp)
      (InOrder pcpp (seenFlags pcpp) (seenPayload pcpp) key socket start.tasks.length) start labels)
    (ran : Transition.run (step pcpp) start labels = some final) (done : FlowDone key final)
    {stream : List UInt8} {isn : UInt32} {offsetOf : Nat → Nat}
    (carries : ∀ packet ∈ packets key start.tasks.length final,
      CarriesSlice stream isn (offsetOf packet.2) packet.1.packet) :
    WrittenOnce offsetOf stream (upstreamWrites socket final) ↔
      Contiguous offsetOf (seenPayload pcpp) 0 (packets key start.tasks.length final) := by
  have balance := (openFlow.flowState_of_run inOrder ran).balance
  rw [done.pendingWrites, List.append_nil, unwritten, List.nil_append] at balance
  rw [balance]
  exact writtenOnce_iff fun packet member => seenPayload_slice documented (carries packet member)

/-- Each letter's coroutine runs to its end before the next packet is read. -/
def lettersSent (letters : List TcpPacket) : List Label :=
  letters.zipIdx.flatMap fun letter =>
    arrival letter.1 ++ List.replicate 4 (.task (letter.2 + 2) .returns)

def sentLetters (letters : List TcpPacket) : List (ForwardCall × Nat) :=
  letters.zipIdx.map fun letter => (callOf letter.1.bytes, letter.2 + 2)

private theorem letterA_carries : CarriesSlice [0x41, 0x42] 0 0 letterA.bytes :=
  ⟨letterA, rfl, by decide, by decide⟩

private theorem letterB_carries : CarriesSlice [0x41, 0x42] 0 1 letterB.bytes :=
  ⟨letterB, rfl, by decide, by decide⟩

theorem letters_written_once :
    ∃ final, Transition.run (step .headerRules) established (lettersSent [letterA, letterB]) =
        some final ∧
      WrittenOnce (fun index => index - 2) [0x41, 0x42] (upstreamWrites 0 final) := by
  have observed : (Transition.run (step .headerRules) established
      (lettersSent [letterA, letterB])).map (fun final =>
        (decide (FlowDone webKey final), packets webKey established.tasks.length final)) =
      some (true, sentLetters [letterA, letterB]) := by
    decide +kernel
  obtain ⟨final, ran, seen⟩ := Option.map_eq_some_iff.mp observed
  simp only [Prod.mk.injEq, decide_eq_true_eq] at seen
  have inOrder : Transition.Guarded (step .headerRules)
      (InOrder .headerRules (seenFlags .headerRules) (seenPayload .headerRules) webKey 0
        established.tasks.length) established (lettersSent [letterA, letterB]) := by
    decide +kernel
  have carries : ∀ packet ∈ packets webKey established.tasks.length final,
      CarriesSlice [0x41, 0x42] 0 (packet.2 - 2) packet.1.packet := by
    rw [seen.2]
    exact List.forall_mem_cons.mpr ⟨letterA_carries, List.forall_mem_singleton.mpr letterB_carries⟩
  refine ⟨final, ran, (stream_written_once_iff PcapPlusPlus.headerRules_documented
    established_openFlow (by decide +kernel) inOrder ran seen.1 carries).mpr ?_⟩
  rw [seen.2]
  decide +kernel

/-- The first letter is sent again, as after a lost acknowledgement. -/
theorem retransmission_written_twice :
    ¬ ∀ (pcpp : PcapPlusPlus) (key : String) (socket : Nat) (start final : Forwarder)
        (labels : List Label) (stream : List UInt8) (isn : UInt32) (offsetOf : Nat → Nat),
      pcpp.Documented → OpenFlow pcpp key socket start → upstreamWrites socket start = [] →
      Transition.Guarded (step pcpp)
        (InOrder pcpp (seenFlags pcpp) (seenPayload pcpp) key socket start.tasks.length)
        start labels →
      Transition.run (step pcpp) start labels = some final → FlowDone key final →
      (∀ packet ∈ packets key start.tasks.length final,
        CarriesSlice stream isn (offsetOf packet.2) packet.1.packet) →
      (∀ position < stream.length, ∃ packet ∈ packets key start.tasks.length final,
        offsetOf packet.2 ≤ position ∧ position < offsetOf packet.2 + packet.1.payload.length) →
      WrittenOnce offsetOf stream (upstreamWrites socket final) := by
  intro once
  have observed : (Transition.run (step .headerRules) established
      (lettersSent [letterA, letterA, letterB])).map (fun final =>
        (decide (FlowDone webKey final), packets webKey established.tasks.length final,
          upstreamWrites 0 final)) =
      some (true, sentLetters [letterA, letterA, letterB],
        [(2, [0x41]), (3, [0x41]), (4, [0x42])]) := by
    decide +kernel
  obtain ⟨final, ran, seen⟩ := Option.map_eq_some_iff.mp observed
  simp only [Prod.mk.injEq, decide_eq_true_eq] at seen
  obtain ⟨done, sent, written⟩ := seen
  have inOrder : Transition.Guarded (step .headerRules)
      (InOrder .headerRules (seenFlags .headerRules) (seenPayload .headerRules) webKey 0
        established.tasks.length) established (lettersSent [letterA, letterA, letterB]) := by
    decide +kernel
  have carries : ∀ packet ∈ packets webKey established.tasks.length final,
      CarriesSlice [0x41, 0x42] 0 (packet.2 - 3) packet.1.packet := by
    rw [sent]
    exact List.forall_mem_cons.mpr ⟨letterA_carries, List.forall_mem_cons.mpr
      ⟨letterA_carries, List.forall_mem_singleton.mpr letterB_carries⟩⟩
  have covers : ∀ position < 2, ∃ packet ∈ packets webKey established.tasks.length final,
      packet.2 - 3 ≤ position ∧ position < packet.2 - 3 + packet.1.payload.length := by
    rw [sent]
    decide +kernel
  obtain ⟨number, positions, -⟩ := once .headerRules webKey 0 established final _ [0x41, 0x42] 0
    (fun index => index - 3) PcapPlusPlus.headerRules_documented established_openFlow (by decide +kernel) inOrder ran
    done carries covers
  rw [written] at positions
  have nodup := @List.nodup_range number
  rw [← positions] at nodup
  exact absurd nodup (by decide)

end Forwarder

end FirewallVpn
