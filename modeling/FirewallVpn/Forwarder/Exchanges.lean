import FirewallVpn.Forwarder.Datagrams
import FirewallVpn.Forwarder.Shutdown
import FirewallVpn.Forwarder.RemoteStream
import Mathlib.Data.List.Forall2

/-! What one coroutine puts out between its start and its end, whatever its statements
meet with. Nothing is sent twice, nothing is made up, and at most the last thing
received is not passed on. -/

set_option autoImplicit false

namespace FirewallVpn

namespace Forwarder

/-- As `receive` leaves it in a buffer of 2048 bytes. -/
def ReceivedDatagram.cut (received : ReceivedDatagram) : ReceivedDatagram :=
  { received with data := received.data.take 2048 }

def chunk? : Answer → Option (List UInt8)
  | .chunk bytes => some bytes
  | .returns | .throws | .throwsAfter _ | .timesOut | .datagram _ | .endOfStream => none

def chunks (history : List Answer) : List (List UInt8) := history.filterMap chunk?

/-- A packet that carries the bytes of one read to the app. -/
structure Carries (pcpp : PcapPlusPlus) (call : ForwardCall) (connection : TcpConnection)
    (bytes : List UInt8) (content : Content) : Prop where
  nonempty : bytes ≠ []
  fits : bytes.length ≤ 4096
  packet : ∃ packet, content = .data connection bytes packet ∧ BuiltPacket pcpp call content

def Relayed (pcpp : PcapPlusPlus) (call : ForwardCall) (connection : TcpConnection) :
    List (List UInt8) → List Content → Prop :=
  List.Forall₂ (Carries pcpp call connection)

/-- What a coroutine may have put out after these answers. -/
inductive Conforms (pcpp : PcapPlusPlus) (call : ForwardCall) :
    Job → List Answer → List Content → Prop where
  | udpSilent {stage history} (none : receivedDatagrams history = []) :
      Conforms pcpp call (.udp stage) history []
  | udpSent {stage history socket payload} (few : (receivedDatagrams history).length ≤ 1) :
      Conforms pcpp call (.udp stage) history [.datagram socket payload]
  | udpAnswered {stage history socket payload packet received}
      (one : receivedDatagrams history = [received])
      (built : BuiltPacket pcpp call (.udpResponse (ReceivedDatagram.cut received) packet)) :
      Conforms pcpp call (.udp stage) history
        [.datagram socket payload, .udpResponse (ReceivedDatagram.cut received) packet]
  | tcpSilent {stage history} : Conforms pcpp call (.tcp stage) history []
  | tcpAccepted {stage history connection packet}
      (built : BuiltPacket pcpp call (.synAck connection packet)) :
      Conforms pcpp call (.tcp stage) history [.synAck connection packet]
  | tcpPassedOn {stage history connection payload} :
      Conforms pcpp call (.tcp stage) history [.upstream connection payload]
  | relayed {connection stage history written} (passed pending : List (List UInt8))
      (read : chunks history = passed ++ pending) (last : pending.length ≤ 1)
      (inOrder : Relayed pcpp call connection passed written) :
      Conforms pcpp call (.reader connection stage) history written

end Forwarder

def TcpStage.beforeWrite : TcpStage → Bool
  | .getTcpFlags | .extractTcpPayload _ | .create | .protect _ | .soTimeout _ | .connect _
  | .register _ | .buildSynAck _ | .writeSynAck _ _ | .lookup _ _ | .write _ _ _ => true
  | .startReader _ | .remove _ | .close _ _ | .done => false

namespace Forwarder

variable {pcpp : PcapPlusPlus} {call : ForwardCall}

private theorem receivedDatagrams_snoc (history : List Answer) (answer : Answer) :
    receivedDatagrams (history ++ [answer]) =
      receivedDatagrams history ++ (receivedDatagram answer).toList := by
  cases answer <;> simp [receivedDatagrams, receivedDatagram]

private theorem chunks_snoc (history : List Answer) (answer : Answer) :
    chunks (history ++ [answer]) = chunks history ++ (chunk? answer).toList := by
  cases answer <;> simp [chunks, chunk?]

private theorem over_not_abandons {stage : UdpStage} (past : stage.isOver) : ¬ stage.abandons := by
  cases stage with
  | close | done => exact Bool.false_ne_true
  | extractUdpPayload | create | protect | soTimeout | getByName | send | receive | build | write =>
      cases past

private theorem past_not_abandons {stage : TcpStage} (past : stage.beforeWrite = false) :
    ¬ stage.abandons := by
  cases stage with
  | startReader | remove | close | done => exact Bool.false_ne_true
  | getTcpFlags | extractTcpPayload | create | protect | soTimeout | connect | register
  | buildSynAck | writeSynAck | lookup | write => cases past

/-! One statement at a time. -/

/-- What a request has put out, with the place its coroutine has reached. -/
inductive UdpExchange (pcpp : PcapPlusPlus) (call : ForwardCall) :
    UdpStage → List Answer → List Content → Prop where
  | unsent {stage history} (early : stage.beforeReceive ∨ stage = .done)
      (none : receivedDatagrams history = []) : UdpExchange pcpp call stage history []
  | sent {socket payload history} (none : receivedDatagrams history = []) :
      UdpExchange pcpp call (.receive socket) history [.datagram socket payload]
  | received {socket payload history received} (one : receivedDatagrams history = [received]) :
      UdpExchange pcpp call (.build socket (ReceivedDatagram.cut received)) history
        [.datagram socket payload]
  | built {socket payload history packet received} (one : receivedDatagrams history = [received])
      (built : BuiltPacket pcpp call (.udpResponse (ReceivedDatagram.cut received) packet)) :
      UdpExchange pcpp call (.write socket (ReceivedDatagram.cut received) packet) history
        [.datagram socket payload]
  | unanswered {stage socket payload history} (past : stage.isOver)
      (few : (receivedDatagrams history).length ≤ 1) :
      UdpExchange pcpp call stage history [.datagram socket payload]
  | answered {stage socket payload history packet received} (past : stage.isOver)
      (one : receivedDatagrams history = [received])
      (built : BuiltPacket pcpp call (.udpResponse (ReceivedDatagram.cut received) packet)) :
      UdpExchange pcpp call stage history
        [.datagram socket payload, .udpResponse (ReceivedDatagram.cut received) packet]

theorem UdpExchange.step {forwarder : Forwarder} {stage next : UdpStage} {answer : Answer}
    {effect : Effect} {history : List Answer} {written : List Content}
    (exchange : UdpExchange pcpp call stage history written)
    (stepped : UdpStep pcpp forwarder call stage answer effect next) :
    UdpExchange pcpp call next (history ++ [answer]) (written ++ effect.contents) := by
  have appended := receivedDatagrams_snoc history answer
  cases exchange with
  | unsent early none =>
      have still : receivedDatagram answer = .none →
          receivedDatagrams (history ++ [answer]) = [] := by
        intro nothing
        rw [appended, none, nothing]
        rfl
      rcases early with early | rfl
      · cases stepped with
        | noPayload | abandoned => exact .unsent (.inr rfl) (still rfl)
        | extracted | created | shielded | timed | resolved => exact .unsent (.inl rfl) (still rfl)
        | sent => exact .sent (still rfl)
        | received | timedOut | receiveFailed | buildFailed | built | buildThrew | written
        | writeFailed | closed => cases early
      · cases stepped with
        | abandoned abandons => cases abandons
  | sent none =>
      cases stepped with
      | received => exact .received (by rw [appended, none]; rfl)
      | timedOut | receiveFailed => exact .unanswered rfl (by rw [appended, none]; exact Nat.zero_le 1)
      | abandoned abandons => cases abandons
  | received one =>
      cases stepped with
      | built packet => exact .built (by rw [appended, one]; rfl) packet
      | buildFailed | buildThrew => exact .unanswered rfl (by rw [appended, one]; exact Nat.le_refl 1)
      | abandoned abandons => cases abandons
  | built one built =>
      cases stepped with
      | written => exact .answered rfl (by rw [appended, one]; rfl) built
      | writeFailed => exact .unanswered rfl (by rw [appended, one]; exact Nat.le_refl 1)
      | abandoned abandons => cases abandons
  | unanswered past few =>
      cases stepped with
      | closed => exact .unanswered rfl (by rw [appended]; simpa [receivedDatagram] using few)
      | abandoned abandons => exact absurd abandons (over_not_abandons past)
      | noPayload | extracted | created | shielded | timed | resolved | sent | received | timedOut
      | receiveFailed | buildFailed | built | buildThrew | written | writeFailed => cases past
  | answered past one built =>
      cases stepped with
      | closed => exact .answered rfl (by rw [appended, one]; rfl) built
      | abandoned abandons => exact absurd abandons (over_not_abandons past)
      | noPayload | extracted | created | shielded | timed | resolved | sent | received | timedOut
      | receiveFailed | buildFailed | built | buildThrew | written | writeFailed => cases past

theorem UdpExchange.conforms {stage : UdpStage} {history : List Answer} {written : List Content}
    (exchange : UdpExchange pcpp call stage history written) :
    Conforms pcpp call (.udp stage) history written := by
  cases exchange with
  | unsent early none => exact .udpSilent none
  | sent none => exact .udpSent (by rw [none]; exact Nat.zero_le 1)
  | received one | built one => exact .udpSent (by rw [one]; exact Nat.le_refl 1)
  | unanswered past few => exact .udpSent few
  | answered past one built => exact .udpAnswered one built

/-- What the coroutine of a segment has put out: one thing at most, and nothing before
the statement that writes it. -/
inductive TcpExchange (pcpp : PcapPlusPlus) (call : ForwardCall) :
    TcpStage → List Content → Prop where
  | unwritten {stage} (holds : HoldsPacket pcpp call (.tcp stage)) : TcpExchange pcpp call stage []
  | accepted {stage connection packet} (past : stage.beforeWrite = false)
      (built : BuiltPacket pcpp call (.synAck connection packet)) :
      TcpExchange pcpp call stage [.synAck connection packet]
  | passedOn {stage connection payload} (past : stage.beforeWrite = false) :
      TcpExchange pcpp call stage [.upstream connection payload]

private theorem finTest_past (finFollows : Bool) :
    (finTest finFollows).beforeWrite = false := by
  cases finFollows <;> rfl

private theorem finTest_holds (finFollows : Bool) :
    HoldsPacket pcpp call (.tcp (finTest finFollows)) := by
  cases finFollows <;> exact True.intro

/-- Behind the statement that writes nothing is written any more. -/
theorem TcpStep.past {forwarder : Forwarder} {stage next : TcpStage} {answer : Answer}
    {effect : Effect} (stepped : TcpStep pcpp forwarder call stage answer effect next)
    (past : stage.beforeWrite = false) : next.beforeWrite = false ∧ effect.contents = [] := by
  cases stepped with
  | readerStarted | removed => exact ⟨rfl, rfl⟩
  | nothingToRemove | closed => exact ⟨finTest_past _, rfl⟩
  | abandoned abandons => exact absurd abandons (past_not_abandons past)
  | flagsRead | synSeen | extracted | created | shielded | timed | connected | registered | buildFailed
  | built | synAckWritten | found | nothingToWrite | written | writeInterrupted | writeFailed =>
      cases past

theorem TcpExchange.step {forwarder : Forwarder} {stage next : TcpStage} {answer : Answer}
    {effect : Effect} {written : List Content} (exchange : TcpExchange pcpp call stage written)
    (stepped : TcpStep pcpp forwarder call stage answer effect next) :
    TcpExchange pcpp call next (written ++ effect.contents) := by
  cases exchange with
  | unwritten holds =>
      cases stepped with
      | synAckWritten => exact .accepted rfl holds
      | written => exact .passedOn (finTest_past _)
      | writeInterrupted => exact .passedOn rfl
      | built packet => exact .unwritten packet
      | nothingToWrite | nothingToRemove | closed => exact .unwritten (finTest_holds _)
      | flagsRead | synSeen | extracted | created | shielded | timed | connected | registered
      | buildFailed | readerStarted | found | writeFailed | removed | abandoned =>
          exact .unwritten True.intro
  | accepted past built =>
      obtain ⟨stays, silent⟩ := stepped.past past
      rw [silent]
      exact .accepted stays built
  | passedOn past =>
      obtain ⟨stays, silent⟩ := stepped.past past
      rw [silent]
      exact .passedOn stays

theorem TcpExchange.conforms {stage : TcpStage} {history : List Answer} {written : List Content}
    (exchange : TcpExchange pcpp call stage written) :
    Conforms pcpp call (.tcp stage) history written := by
  cases exchange with
  | unwritten => exact .tcpSilent
  | accepted past built => exact .tcpAccepted built
  | passedOn => exact .tcpPassedOn

/-- What a reader has passed on, with what it holds at the moment. -/
inductive ReaderExchange (pcpp : PcapPlusPlus) (call : ForwardCall) (connection : TcpConnection) :
    ReaderStage → List Answer → List Content → Prop where
  | between {stage history written} (idle : stage = .isClosed ∨ stage = .read)
      (inOrder : Relayed pcpp call connection (chunks history) written) :
      ReaderExchange pcpp call connection stage history written
  | holding {stage bytes history written} {passed : List (List UInt8)}
      (holds : stage = .build bytes ∨ ∃ packet, stage = .write bytes packet ∧
        BuiltPacket pcpp call (.data connection bytes packet))
      (nonempty : bytes ≠ []) (fits : bytes.length ≤ 4096) (read : chunks history = passed ++ [bytes])
      (inOrder : Relayed pcpp call connection passed written) :
      ReaderExchange pcpp call connection stage history written
  | left {stage history written} (past : stage.inLoop = false) (passed pending : List (List UInt8))
      (read : chunks history = passed ++ pending) (last : pending.length ≤ 1)
      (inOrder : Relayed pcpp call connection passed written) :
      ReaderExchange pcpp call connection stage history written

theorem ReaderExchange.step {forwarder : Forwarder} {connection : TcpConnection}
    {stage next : ReaderStage} {answer : Answer} {effect : Effect} {history : List Answer}
    {written : List Content} (exchange : ReaderExchange pcpp call connection stage history written)
    (stepped : ReaderStep pcpp forwarder call connection stage answer effect next) :
    ReaderExchange pcpp call connection next (history ++ [answer]) (written ++ effect.contents) := by
  have appended := chunks_snoc history answer
  cases exchange with
  | between idle inOrder =>
      cases stepped with
      | foundClosed =>
          exact .left rfl (chunks history) [] (by rw [appended]; rfl) (Nat.zero_le 1)
            (by simpa [Effect.contents])
      | foundOpen =>
          exact .between (.inr rfl) (by simpa [appended, chunk?, Effect.contents])
      | chunkRead opened nonempty fits =>
          exact .holding (.inl rfl) nonempty fits (by rw [appended]; rfl)
            (by simpa [Effect.contents])
      | ended ends =>
          refine .left rfl (chunks history) [] ?_ (Nat.zero_le 1) (by simpa [Effect.contents])
          rw [appended]
          rcases ends with rfl | rfl | rfl <;> rfl
      | buildFailed | built | buildThrew | written | writeFailed | removed | nothingToRemove | closed =>
          rcases idle with idle | idle <;> cases idle
  | @holding bytes _ _ passed holds nonempty fits read inOrder =>
      have same : chunk? answer = none → chunks (history ++ [answer]) = passed ++ [bytes] := by
        intro nothing
        rw [appended, read, nothing]
        exact List.append_nil _
      rcases holds with rfl | ⟨packet, rfl, built⟩
      · cases stepped with
        | built packet =>
            exact .holding (.inr ⟨_, rfl, packet⟩) nonempty fits (same rfl) (by simpa [Effect.contents])
        | buildFailed | buildThrew =>
            exact .left rfl passed [bytes] (same rfl) (Nat.le_refl 1) (by simpa [Effect.contents])
      · cases stepped with
        | written =>
            refine .between (.inl rfl) ?_
            rw [same rfl]
            exact List.rel_append inOrder (.cons ⟨nonempty, fits, packet, rfl, built⟩ .nil)
        | writeFailed =>
            exact .left rfl passed [bytes] (same rfl) (Nat.le_refl 1) (by simpa [Effect.contents])
  | left past passed pending read last inOrder =>
      have same : chunk? answer = none → chunks (history ++ [answer]) = passed ++ pending := by
        intro nothing
        rw [appended, read, nothing]
        exact List.append_nil _
      cases stepped with
      | removed | nothingToRemove | closed =>
          exact .left rfl passed pending (same rfl) last (by simpa [Effect.contents])
      | foundClosed | foundOpen | chunkRead | ended | buildFailed | built | buildThrew | written
      | writeFailed => cases past

theorem ReaderExchange.conforms {connection : TcpConnection} {stage : ReaderStage}
    {history : List Answer} {written : List Content}
    (exchange : ReaderExchange pcpp call connection stage history written) :
    Conforms pcpp call (.reader connection stage) history written := by
  cases exchange with
  | between idle inOrder => exact .relayed _ [] (List.append_nil _).symm (Nat.zero_le 1) inOrder
  | holding holds nonempty fits read inOrder => exact .relayed _ _ read (Nat.le_refl 1) inOrder
  | left past passed pending read last inOrder => exact .relayed passed pending read last inOrder

/-! Over whole runs. -/

def Exchange (pcpp : PcapPlusPlus) (call : ForwardCall) (job : Job) (history : List Answer)
    (written : List Content) : Prop :=
  match job with
  | .udp stage => UdpExchange pcpp call stage history written
  | .tcp stage => TcpExchange pcpp call stage written
  | .reader connection stage => ReaderExchange pcpp call connection stage history written

/-- Every coroutine of every run puts out what its kind may: a request one datagram and
then the reply to it, a segment a SYN-ACK or what it carries, a reader what it reads. -/
theorem conforms_of_run {index : Nat} {labels : List Label} {final : Forwarder}
    (ran : Transition.run (step pcpp) initial labels = some final) {task : Task}
    (located : final.tasks[index]? = some task) :
    Conforms pcpp task.call task.job (answers index labels) (contents index final) := by
  have share : Share (Exchange pcpp) index labels final := by
    refine share_of_run index ?_ ?_ (Transition.guarded_true initial labels) ran
    · intro call job first
      cases first with
      | udp => exact .unsent (.inl rfl) rfl
      | tcp => exact .unwritten True.intro
      | reader => exact .between (.inl rfl) .nil
    · intro forwarder call job answer effect next history written _ _ stepped exchange
      cases stepped with
      | udp stepped => exact UdpExchange.step exchange stepped
      | tcp stepped => exact TcpExchange.step exchange stepped
      | reader stepped => exact ReaderExchange.step exchange stepped
  have exchange := share.started task located
  obtain ⟨call, job⟩ := task
  cases job with
  | udp => exact UdpExchange.conforms exchange
  | tcp => exact TcpExchange.conforms exchange
  | reader => exact ReaderExchange.conforms exchange

theorem handshake_conforms :
    ∃ final, Transition.run (step .headerRules) initial (handshake 0 ++ readChunk [0x48, 0x69]) =
        some final ∧
      Conforms .headerRules (callOf (synPacket 0).bytes) (.reader webConnection .isClosed)
        (answers 1 (handshake 0 ++ readChunk [0x48, 0x69])) (contents 1 final) := by
  have seen : (Transition.run (step .headerRules) initial
      (handshake 0 ++ readChunk [0x48, 0x69])).map (fun final => final.tasks[1]?) =
        some (some ⟨callOf (synPacket 0).bytes, .reader webConnection .isClosed⟩) := by
    decide +kernel
  obtain ⟨final, ran, located⟩ := Option.map_eq_some_iff.mp seen
  exact ⟨final, ran, conforms_of_run ran located⟩

end Forwarder

end FirewallVpn
