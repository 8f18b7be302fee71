import FirewallVpn.Forwarder.Addressing

/-! The sequence and acknowledgement numbers of the segments the app receives,
against those that its connection calls for. -/

set_option autoImplicit false

namespace FirewallVpn

namespace Forwarder

/-- The output belongs to the connection on this socket. -/
def onSocket (socket : Nat) : Content → Bool
  | .synAck connection _ | .data connection _ _ | .upstream connection _ =>
      connection.socket = socket
  | .passThrough _ | .udpResponse _ _ | .datagram _ _ => false

def connectionContents (socket : Nat) (outputs : List Output) : List Content :=
  (outputs.map Output.content).filter (onSocket socket)

/-- Every data segment continues the stream after `sent` bytes to the app and
`received` bytes from it. -/
def SegmentsConform (isn synAckSequence : UInt32) : Nat → Nat → List Content → Prop
  | _, _, [] => True
  | sent, received, .data _ responseData packet :: rest =>
      tcpSequence packet = synAckSequence + 1 + UInt32.ofNat sent ∧
        tcpAcknowledgement packet = isn + 1 + UInt32.ofNat received ∧
        SegmentsConform isn synAckSequence (sent + responseData.length) received rest
  | sent, received, .upstream _ payload :: rest =>
      SegmentsConform isn synAckSequence sent (received + payload.length) rest
  | sent, received, _ :: rest => SegmentsConform isn synAckSequence sent received rest

def isData : Content → Bool
  | .data _ _ _ => true
  | _ => false

/-- The step writes a chunk that the reader of this socket has read. -/
def writesChunk (socket : Nat) (forwarder : Forwarder) : Label → Bool
  | .task index .returns =>
      match forwarder.tasks[index]? with
      | some { job := .reader connection (.write _ _), .. } => connection.socket = socket
      | _ => false
  | _ => false

theorem segmentsConform_of_no_data {isn synAckSequence : UInt32} {contents : List Content}
    (none : ∀ content ∈ contents, isData content = false) (sent received : Nat) :
    SegmentsConform isn synAckSequence sent received contents := by
  induction contents generalizing sent received with
  | nil => exact True.intro
  | cons content rest ih =>
      have later : ∀ content ∈ rest, isData content = false :=
        fun other member => none other (List.mem_cons_of_mem _ member)
      cases content with
      | data connection responseData packet => cases none _ List.mem_cons_self
      | upstream connection payload => exact ih later _ _
      | passThrough | udpResponse | synAck | datagram => exact ih later _ _

/-- The first data segment already repeats the sequence number of the SYN-ACK. -/
theorem segmentsConform_iff {isn : UInt32} {contents : List Content}
    (fixed : ∀ connection responseData packet, .data connection responseData packet ∈ contents →
      tcpSequence packet = 1) (received : Nat) :
    SegmentsConform isn 1 0 received contents ↔ ∀ content ∈ contents, isData content = false := by
  refine ⟨fun conform => ?_, fun none => segmentsConform_of_no_data none 0 received⟩
  induction contents generalizing received with
  | nil => exact List.forall_mem_nil _
  | cons content rest ih =>
      have laterFixed : ∀ connection responseData packet,
          .data connection responseData packet ∈ rest → tcpSequence packet = 1 :=
        fun connection responseData packet member =>
          fixed connection responseData packet (List.mem_cons_of_mem _ member)
      refine List.forall_mem_cons.mpr ?_
      cases content with
      | data connection responseData packet =>
          obtain ⟨sequence, -⟩ := conform
          rw [fixed connection responseData packet List.mem_cons_self] at sequence
          exact absurd sequence (by decide)
      | upstream connection payload => exact ⟨rfl, ih laterFixed _ conform⟩
      | passThrough | udpResponse | synAck | datagram => exact ⟨rfl, ih laterFixed _ conform⟩

/-- A data segment of this socket has been written. -/
def HasData (socket : Nat) (forwarder : Forwarder) : Prop :=
  ∃ content ∈ connectionContents socket forwarder.outputs, isData content

private theorem JobStep.data {pcpp : PcapPlusPlus} {forwarder : Forwarder} {call : ForwardCall}
    {job next : Job} {answer : Answer} {effect : Effect}
    (stepped : JobStep pcpp forwarder call job answer effect next) (socket : Nat) :
    (∃ content, effect = .output content ∧ onSocket socket content ∧ isData content) ↔
      answer = .returns ∧ ∃ connection responseData responsePacket,
        job = .reader connection (.write responseData responsePacket) ∧
          connection.socket = socket := by
  cases stepped with
  | udp stepped => cases stepped <;> simp [isData]
  | tcp stepped => cases stepped <;> simp [isData]
  | reader stepped => cases stepped <;> simp [isData, onSocket]

private theorem writesChunk_iff {socket index : Nat} {forwarder : Forwarder} {task : Task}
    {answer : Answer} (located : forwarder.tasks[index]? = some task) :
    writesChunk socket forwarder (.task index answer) ↔
      answer = .returns ∧ ∃ connection responseData responsePacket,
        task.job = .reader connection (.write responseData responsePacket) ∧
          connection.socket = socket := by
  obtain ⟨call, job⟩ := task
  cases answer with
  | returns =>
      cases job with
      | udp stage => simp [writesChunk, located]
      | tcp stage => simp [writesChunk, located]
      | reader connection stage => cases stage <;> simp [writesChunk, located]
  | throws | throwsAfter | timesOut | datagram | chunk | endOfStream => simp [writesChunk]

theorem hasData_step {pcpp : PcapPlusPlus} {socket : Nat} {forwarder next : Forwarder}
    {label : Label} (taken : step pcpp forwarder label = some next) :
    HasData socket next ↔ HasData socket forwarder ∨ writesChunk socket forwarder label := by
  cases step_forwarder taken with
  | overwritten fits => simp [HasData, writesChunk]
  | launched held first => simp [HasData, writesChunk, launch]
  | passedThrough held other => simp [HasData, connectionContents, onSocket, writesChunk]
  | passThroughFailed other => simp [writesChunk]
  | closedAll => simp [HasData, writesChunk, closeAll]
  | cleared pending => simp [HasData, writesChunk]
  | resumed located stepped =>
      rw [writesChunk_iff located, ← stepped.data socket]
      simp only [HasData, resume, perform_outputs]
      split
      · next content =>
          simp only [connectionContents, List.map_append, List.filter_append, List.mem_append,
            or_and_right, exists_or]
          simp
      · next other =>
          refine ⟨.inl, fun either => either.resolve_right ?_⟩
          rintro ⟨content, rfl, -⟩
          exact other content rfl

/-- The numbers of a connection whose SYN has been answered are right exactly
when the client's initial sequence number is 0 and no chunk is written to it. -/
theorem sequence_numbers_conform_iff {pcpp : PcapPlusPlus} {labels : List Label}
    {final : Forwarder} (ran : Transition.run (step pcpp) initial labels = some final)
    {output : Output} (written : output ∈ final.outputs) {connection : TcpConnection}
    {synAckPacket : List UInt8} (synAck : output.content = .synAck connection synAckPacket) :
    (tcpAcknowledgement synAckPacket = tcpSequence output.call.packet + 1 ∧
      SegmentsConform (tcpSequence output.call.packet) (tcpSequence synAckPacket) 0 0
        (connectionContents connection.socket final.outputs)) ↔
    tcpSequence output.call.packet = 0 ∧
      ¬ Transition.Occurs (step pcpp)
        (fun forwarder label => writesChunk connection.socket forwarder label) initial labels := by
  have built := ((builtInvariant pcpp).run ran).2
  have numbered : tcpSequence synAckPacket = 1 ∧ tcpAcknowledgement synAckPacket = 1 := by
    obtain ⟨-, packet⟩ := built output written
    rw [synAck] at packet
    exact (buildTcpPacket_read pcpp packet).2.2.2.2
  have fixed : ∀ other responseData packet,
      .data other responseData packet ∈ connectionContents connection.socket final.outputs →
        tcpSequence packet = 1 := by
    intro other responseData packet member
    obtain ⟨segment, segmentWritten, same⟩ := List.mem_map.mp (List.mem_filter.mp member).1
    obtain ⟨-, packetBuilt⟩ := built segment segmentWritten
    rw [same] at packetBuilt
    exact (buildTcpResponsePacket_read pcpp packetBuilt).2.2.2.2.1
  have recorded : HasData connection.socket final ↔ HasData connection.socket initial ∨ _ :=
    (Transition.guarded_true initial labels).latch (HasData connection.socket)
      (fun _ _ _ _ taken => hasData_step taken) ran
  have unwritten : ¬ HasData connection.socket initial := by
    rintro ⟨content, member, -⟩
    cases member
  have shifted : (1 : UInt32) = tcpSequence output.call.packet + 1 ↔
      tcpSequence output.call.packet = 0 := by
    rw [eq_comm, UInt32.add_eq_right]
  have silent : (∀ content ∈ connectionContents connection.socket final.outputs,
      isData content = false) ↔ ¬ HasData connection.socket final := by
    simp [HasData]
  rw [numbered.1, numbered.2, segmentsConform_iff fixed, shifted, silent, recorded,
    or_iff_right unwritten]

/-- What the app gets in answer to its SYN. -/
def synAckOutput (isn : UInt32) : Output where
  task := some 0
  call := callOf (synPacket isn).bytes
  content := .synAck (newTcpConnection 0 (callOf (synPacket isn).bytes).key)
    ((PcapPlusPlus.tcpBytes .headerRules (newIPv4Layer vpnAddress vpnAddress 6)
      { newTcpLayer 443 40000 with
        synFlag := true, ackFlag := true, sequenceNumber := 1, ackNumber := 1, windowSize := 65535 }
      []))

theorem handshake_from_zero_conforms :
    ∃ final, Transition.run (step .headerRules) initial (handshake 0) = some final ∧
      SegmentsConform 0 1 0 0 (connectionContents 0 final.outputs) := by
  have outputs : (Transition.run (step .headerRules) initial (handshake 0)).map Forwarder.outputs =
      some [synAckOutput 0] := by
    decide +kernel
  obtain ⟨final, ran, written⟩ := Option.map_eq_some_iff.mp outputs
  have conform := (sequence_numbers_conform_iff ran (by rw [written]; exact List.mem_cons_self)
    (rfl : (synAckOutput 0).content = _)).mpr ⟨by decide +kernel, by decide +kernel⟩
  exact ⟨final, ran, conform.2⟩

theorem handshake_from_seven_differs :
    ¬ ∀ (pcpp : PcapPlusPlus) (labels : List Label) (final : Forwarder) (output : Output)
        (connection : TcpConnection) (synAckPacket : List UInt8),
      Transition.run (step pcpp) initial labels = some final → output ∈ final.outputs →
      output.content = .synAck connection synAckPacket →
      tcpAcknowledgement synAckPacket = tcpSequence output.call.packet + 1 ∧
        SegmentsConform (tcpSequence output.call.packet) (tcpSequence synAckPacket) 0 0
          (connectionContents connection.socket final.outputs) := by
  intro conforms
  have outputs : (Transition.run (step .headerRules) initial (handshake 7)).map Forwarder.outputs =
      some [synAckOutput 7] := by
    decide +kernel
  obtain ⟨final, ran, written⟩ := Option.map_eq_some_iff.mp outputs
  obtain ⟨acknowledged, -⟩ := conforms .headerRules _ final (synAckOutput 7) _ _ ran
    (by rw [written]; exact List.mem_cons_self) rfl
  exact absurd acknowledged (by decide +kernel)

end Forwarder

end FirewallVpn
