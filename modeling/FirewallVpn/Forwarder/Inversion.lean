import FirewallVpn.Forwarder.Step

/-! What one statement of a coroutine can do, as a relation with one rule for
each statement and outcome, and the step of the forwarder in terms of it. -/

set_option autoImplicit false

namespace FirewallVpn

/-- The statements that give up without an effect when they throw. -/
def UdpStage.abandons : UdpStage → Bool
  | .create _ | .protect _ _ | .soTimeout _ _ | .getByName _ _ | .send _ _ => true
  | _ => false

/-- The statements of `handleTcpSyn` whose exception leads to its cleanup. -/
def TcpStage.abandons : TcpStage → Bool
  | .create | .protect _ | .soTimeout _ | .connect _ | .buildSynAck _ | .writeSynAck _ _ => true
  | _ => false

namespace Forwarder

inductive UdpStep (pcpp : PcapPlusPlus) (forwarder : Forwarder) (call : ForwardCall) :
    UdpStage → Answer → Effect → UdpStage → Prop where
  | noPayload (absent : extractUdpPayload pcpp forwarder.byteArray call.length = none) :
      UdpStep pcpp forwarder call .extractUdpPayload .returns .none .done
  | extracted {payload : List UInt8}
      (found : extractUdpPayload pcpp forwarder.byteArray call.length = some payload) :
      UdpStep pcpp forwarder call .extractUdpPayload .returns .none (.create payload)
  | created {payload : List UInt8} :
      UdpStep pcpp forwarder call (.create payload) .returns .newDatagramSocket
        (.protect forwarder.datagramSockets.length payload)
  | shielded {socket : Nat} {payload : List UInt8} :
      UdpStep pcpp forwarder call (.protect socket payload) .returns .none
        (.soTimeout socket payload)
  | timed {socket : Nat} {payload : List UInt8} :
      UdpStep pcpp forwarder call (.soTimeout socket payload) .returns .none
        (.getByName socket payload)
  | resolved {socket : Nat} {payload : List UInt8} :
      UdpStep pcpp forwarder call (.getByName socket payload) .returns .none (.send socket payload)
  | sent {socket : Nat} {payload : List UInt8} :
      UdpStep pcpp forwarder call (.send socket payload) .returns
        (.output (.datagram socket payload)) (.receive socket)
  | abandoned {stage : UdpStage} (abandons : stage.abandons) :
      UdpStep pcpp forwarder call stage .throws .none .done
  | received {socket : Nat} {response : ReceivedDatagram} :
      UdpStep pcpp forwarder call (.receive socket) (.datagram response) .none
        (.build socket { response with data := response.data.take 2048 })
  | timedOut {socket : Nat} :
      UdpStep pcpp forwarder call (.receive socket) .timesOut .none (.close socket)
  | receiveFailed {socket : Nat} :
      UdpStep pcpp forwarder call (.receive socket) .throws .none (.close socket)
  | buildFailed {socket : Nat} {response : ReceivedDatagram}
      (invalid : buildUdpResponsePacket pcpp response.data (response.hostAddress.getD "0.0.0.0")
        response.port "10.0.0.2" call.traffic.srcPort = none) :
      UdpStep pcpp forwarder call (.build socket response) .returns .none (.close socket)
  | built {socket : Nat} {response : ReceivedDatagram} {responsePacket : List UInt8}
      (packet : buildUdpResponsePacket pcpp response.data (response.hostAddress.getD "0.0.0.0")
        response.port "10.0.0.2" call.traffic.srcPort = some responsePacket) :
      UdpStep pcpp forwarder call (.build socket response) .returns .none
        (.write socket response responsePacket)
  | buildThrew {socket : Nat} {response : ReceivedDatagram} :
      UdpStep pcpp forwarder call (.build socket response) .throws .none (.close socket)
  | written {socket : Nat} {response : ReceivedDatagram} {responsePacket : List UInt8} :
      UdpStep pcpp forwarder call (.write socket response responsePacket) .returns
        (.output (.udpResponse response responsePacket)) (.close socket)
  | writeFailed {socket : Nat} {response : ReceivedDatagram} {responsePacket : List UInt8} :
      UdpStep pcpp forwarder call (.write socket response responsePacket) .throws .none
        (.close socket)
  | closed {socket : Nat} :
      UdpStep pcpp forwarder call (.close socket) .returns (.closeDatagramSocket socket) .done

inductive TcpStep (pcpp : PcapPlusPlus) (forwarder : Forwarder) (call : ForwardCall) :
    TcpStage → Answer → Effect → TcpStage → Prop where
  | flagsRead :
      TcpStep pcpp forwarder call .getTcpFlags .returns .none
        (.extractTcpPayload (getTcpFlags pcpp forwarder.byteArray call.length))
  | synSeen {flags : Nat} (syn : hasSyn flags) :
      TcpStep pcpp forwarder call (.extractTcpPayload flags) .returns .none .create
  | extracted {flags : Nat} (noSyn : hasSyn flags = false) :
      TcpStep pcpp forwarder call (.extractTcpPayload flags) .returns .none
        (.lookup flags (extractTcpPayload pcpp forwarder.byteArray call.length))
  | created :
      TcpStep pcpp forwarder call .create .returns .newSocket (.protect forwarder.sockets.length)
  | shielded {socket : Nat} :
      TcpStep pcpp forwarder call (.protect socket) .returns .none (.soTimeout socket)
  | timed {socket : Nat} :
      TcpStep pcpp forwarder call (.soTimeout socket) .returns .none (.connect socket)
  | connected {socket : Nat} :
      TcpStep pcpp forwarder call (.connect socket) .returns (.connect socket) (.register socket)
  | registered {socket : Nat} :
      TcpStep pcpp forwarder call (.register socket) .returns
        (.register call.key (newTcpConnection socket call.key))
        (.buildSynAck (newTcpConnection socket call.key))
  | buildFailed {connection : TcpConnection}
      (invalid : buildTcpPacket pcpp "10.0.0.2" call.traffic.srcIp call.traffic.dstPort
        call.traffic.srcPort 0x12 1 1 none = none) :
      TcpStep pcpp forwarder call (.buildSynAck connection) .returns .none (.remove false)
  | built {connection : TcpConnection} {synAckPacket : List UInt8}
      (packet : buildTcpPacket pcpp "10.0.0.2" call.traffic.srcIp call.traffic.dstPort
        call.traffic.srcPort 0x12 1 1 none = some synAckPacket) :
      TcpStep pcpp forwarder call (.buildSynAck connection) .returns .none
        (.writeSynAck connection synAckPacket)
  | synAckWritten {connection : TcpConnection} {synAckPacket : List UInt8} :
      TcpStep pcpp forwarder call (.writeSynAck connection synAckPacket) .returns
        (.output (.synAck connection synAckPacket)) (.startReader connection)
  | abandoned {stage : TcpStage} (abandons : stage.abandons) :
      TcpStep pcpp forwarder call stage .throws .none (.remove false)
  | readerStarted {connection : TcpConnection} :
      TcpStep pcpp forwarder call (.startReader connection) .returns
        (.launch (.reader connection .isClosed)) .done
  | found {flags : Nat} {payload : List UInt8} {connection : TcpConnection}
      (located : forwarder.tcpConnections.lookup call.key = some connection)
      (nonempty : payload ≠ []) :
      TcpStep pcpp forwarder call (.lookup flags (some payload)) .returns .none
        (.write connection payload flags)
  | nothingToWrite {flags : Nat} {payload : Option (List UInt8)}
      (idle : forwarder.tcpConnections.lookup call.key = none ∨ payload.getD [] = []) :
      TcpStep pcpp forwarder call (.lookup flags payload) .returns .none (finTest (hasFin flags))
  | written {connection : TcpConnection} {payload : List UInt8} {flags : Nat}
      (opened : forwarder.isClosed connection.socket = false) :
      TcpStep pcpp forwarder call (.write connection payload flags) .returns
        (.output (.upstream connection payload)) (finTest (hasFin flags))
  | writeInterrupted {connection : TcpConnection} {payload : List UInt8} {flags count : Nat}
      (opened : forwarder.isClosed connection.socket = false) :
      TcpStep pcpp forwarder call (.write connection payload flags) (.throwsAfter count)
        (.output (.upstream connection (payload.take count))) (.remove (hasFin flags))
  | writeFailed {connection : TcpConnection} {payload : List UInt8} {flags : Nat} :
      TcpStep pcpp forwarder call (.write connection payload flags) .throws .none
        (.remove (hasFin flags))
  | removed {connection : TcpConnection} {finFollows : Bool}
      (located : forwarder.tcpConnections.lookup call.key = some connection) :
      TcpStep pcpp forwarder call (.remove finFollows) .returns (.remove call.key)
        (.close connection finFollows)
  | nothingToRemove {finFollows : Bool}
      (absent : forwarder.tcpConnections.lookup call.key = none) :
      TcpStep pcpp forwarder call (.remove finFollows) .returns .none (finTest finFollows)
  | closed {connection : TcpConnection} {finFollows : Bool} :
      TcpStep pcpp forwarder call (.close connection finFollows) .returns (.close connection.socket)
        (finTest finFollows)

inductive ReaderStep (pcpp : PcapPlusPlus) (forwarder : Forwarder) (call : ForwardCall)
    (connection : TcpConnection) : ReaderStage → Answer → Effect → ReaderStage → Prop where
  | foundClosed (closed : forwarder.isClosed connection.socket) :
      ReaderStep pcpp forwarder call connection .isClosed .returns .none .remove
  | foundOpen (opened : forwarder.isClosed connection.socket = false) :
      ReaderStep pcpp forwarder call connection .isClosed .returns .none .read
  | chunkRead {bytes : List UInt8} (opened : forwarder.isClosed connection.socket = false)
      (nonempty : bytes ≠ []) (fits : bytes.length ≤ 4096) :
      ReaderStep pcpp forwarder call connection .read (.chunk bytes) .none (.build bytes)
  | ended {answer : Answer} (ends : answer = .endOfStream ∨ answer = .timesOut ∨ answer = .throws) :
      ReaderStep pcpp forwarder call connection .read answer .none .remove
  | buildFailed {responseData : List UInt8}
      (invalid : buildTcpResponsePacket pcpp responseData call.traffic.dstIp call.traffic.dstPort
        "10.0.0.2" call.traffic.srcPort = none) :
      ReaderStep pcpp forwarder call connection (.build responseData) .returns .none .remove
  | built {responseData responsePacket : List UInt8}
      (packet : buildTcpResponsePacket pcpp responseData call.traffic.dstIp call.traffic.dstPort
        "10.0.0.2" call.traffic.srcPort = some responsePacket) :
      ReaderStep pcpp forwarder call connection (.build responseData) .returns .none
        (.write responseData responsePacket)
  | buildThrew {responseData : List UInt8} :
      ReaderStep pcpp forwarder call connection (.build responseData) .throws .none .remove
  | written {responseData responsePacket : List UInt8} :
      ReaderStep pcpp forwarder call connection (.write responseData responsePacket) .returns
        (.output (.data connection responseData responsePacket)) .isClosed
  | writeFailed {responseData responsePacket : List UInt8} :
      ReaderStep pcpp forwarder call connection (.write responseData responsePacket) .throws .none
        .remove
  | removed {registered : TcpConnection}
      (located : forwarder.tcpConnections.lookup connection.key = some registered) :
      ReaderStep pcpp forwarder call connection .remove .returns (.remove connection.key)
        (.close registered)
  | nothingToRemove (absent : forwarder.tcpConnections.lookup connection.key = none) :
      ReaderStep pcpp forwarder call connection .remove .returns .none .done
  | closed {registered : TcpConnection} :
      ReaderStep pcpp forwarder call connection (.close registered) .returns
        (.close registered.socket) .done

inductive JobStep (pcpp : PcapPlusPlus) (forwarder : Forwarder) (call : ForwardCall) :
    Job → Answer → Effect → Job → Prop where
  | udp {stage next : UdpStage} {answer : Answer} {effect : Effect}
      (stepped : UdpStep pcpp forwarder call stage answer effect next) :
      JobStep pcpp forwarder call (.udp stage) answer effect (.udp next)
  | tcp {stage next : TcpStage} {answer : Answer} {effect : Effect}
      (stepped : TcpStep pcpp forwarder call stage answer effect next) :
      JobStep pcpp forwarder call (.tcp stage) answer effect (.tcp next)
  | reader {connection : TcpConnection} {stage next : ReaderStage} {answer : Answer}
      {effect : Effect} (stepped : ReaderStep pcpp forwarder call connection stage answer effect next) :
      JobStep pcpp forwarder call (.reader connection stage) answer effect (.reader connection next)

variable {pcpp : PcapPlusPlus} {forwarder : Forwarder} {call : ForwardCall}

theorem udpNext_step {stage next : UdpStage} {answer : Answer} {effect : Effect}
    (taken : udpNext pcpp forwarder call stage answer = some (effect, next)) :
    UdpStep pcpp forwarder call stage answer effect next := by
  cases stage with
  | extractUdpPayload =>
      cases answer <;> simp only [udpNext, reduceCtorEq] at taken
      split at taken <;> cases taken
      · next absent => exact .noPayload absent
      · next found => exact .extracted found
  | create payload =>
      cases answer <;> cases taken
      · exact .created
      · exact .abandoned rfl
  | protect socket payload =>
      cases answer <;> cases taken
      · exact .shielded
      · exact .abandoned rfl
  | soTimeout socket payload =>
      cases answer <;> cases taken
      · exact .timed
      · exact .abandoned rfl
  | getByName socket payload =>
      cases answer <;> cases taken
      · exact .resolved
      · exact .abandoned rfl
  | send socket payload =>
      cases answer <;> cases taken
      · exact .sent
      · exact .abandoned rfl
  | receive socket =>
      cases answer <;> cases taken
      · exact .receiveFailed
      · exact .timedOut
      · exact .received
  | build socket response =>
      cases answer with
      | returns =>
          simp only [udpNext] at taken
          split at taken <;> cases taken
          · next invalid => exact .buildFailed invalid
          · next packet => exact .built packet
      | throws =>
          cases taken
          exact .buildThrew
      | throwsAfter | timesOut | datagram | chunk | endOfStream => cases taken
  | write socket response responsePacket =>
      cases answer <;> cases taken
      · exact .written
      · exact .writeFailed
  | close socket =>
      cases answer <;> cases taken
      exact .closed
  | done => cases answer <;> cases taken

theorem tcpNext_step {stage next : TcpStage} {answer : Answer} {effect : Effect}
    (taken : tcpNext pcpp forwarder call stage answer = some (effect, next)) :
    TcpStep pcpp forwarder call stage answer effect next := by
  cases stage with
  | getTcpFlags =>
      cases answer <;> cases taken
      exact .flagsRead
  | extractTcpPayload flags =>
      cases answer <;> cases taken
      by_cases syn : hasSyn flags = true
      · rw [if_pos syn]
        exact .synSeen syn
      · rw [if_neg syn]
        exact .extracted (Bool.eq_false_iff.mpr syn)
  | create =>
      cases answer <;> cases taken
      · exact .created
      · exact .abandoned rfl
  | protect socket =>
      cases answer <;> cases taken
      · exact .shielded
      · exact .abandoned rfl
  | soTimeout socket =>
      cases answer <;> cases taken
      · exact .timed
      · exact .abandoned rfl
  | connect socket =>
      cases answer <;> cases taken
      · exact .connected
      · exact .abandoned rfl
  | register socket =>
      cases answer <;> cases taken
      exact .registered
  | buildSynAck connection =>
      cases answer with
      | returns =>
          simp only [tcpNext] at taken
          split at taken <;> cases taken
          · next invalid => exact .buildFailed invalid
          · next packet => exact .built packet
      | throws =>
          cases taken
          exact .abandoned rfl
      | throwsAfter | timesOut | datagram | chunk | endOfStream => cases taken
  | writeSynAck connection synAckPacket =>
      cases answer <;> cases taken
      · exact .synAckWritten
      · exact .abandoned rfl
  | startReader connection =>
      cases answer <;> cases taken
      exact .readerStarted
  | lookup flags payload =>
      cases answer <;> simp only [tcpNext, reduceCtorEq] at taken
      cases located : forwarder.tcpConnections.lookup call.key with
      | none =>
          simp only [located] at taken
          cases taken
          exact .nothingToWrite (.inl located)
      | some connection =>
          cases payload with
          | none =>
              simp only [located] at taken
              cases taken
              exact .nothingToWrite (.inr rfl)
          | some bytes =>
              simp only [located] at taken
              split at taken <;> cases taken
              · next empty => exact .nothingToWrite (.inr empty)
              · next nonempty => exact .found located nonempty
  | write connection payload flags =>
      cases answer with
      | returns =>
          simp only [tcpNext] at taken
          split at taken <;> cases taken
          next opened => exact .written (Bool.eq_false_iff.mpr opened)
      | throws =>
          cases taken
          exact .writeFailed
      | throwsAfter count =>
          simp only [tcpNext] at taken
          split at taken <;> cases taken
          next opened => exact .writeInterrupted (Bool.eq_false_iff.mpr opened)
      | timesOut | datagram | chunk | endOfStream => cases taken
  | remove finFollows =>
      cases answer <;> simp only [tcpNext, reduceCtorEq] at taken
      split at taken <;> cases taken
      · next located => exact .removed located
      · next absent => exact .nothingToRemove absent
  | close connection finFollows =>
      cases answer <;> cases taken
      exact .closed
  | done => cases answer <;> cases taken

theorem readerNext_step {connection : TcpConnection} {stage next : ReaderStage} {answer : Answer}
    {effect : Effect}
    (taken : readerNext pcpp forwarder call connection stage answer = some (effect, next)) :
    ReaderStep pcpp forwarder call connection stage answer effect next := by
  cases stage with
  | isClosed =>
      cases answer <;> cases taken
      by_cases closed : forwarder.isClosed connection.socket = true
      · rw [if_pos closed]
        exact .foundClosed closed
      · rw [if_neg closed]
        exact .foundOpen (Bool.eq_false_iff.mpr closed)
  | read =>
      cases answer with
      | chunk bytes =>
          simp only [readerNext] at taken
          split at taken <;> cases taken
          next readable =>
            simp only [not_or, Nat.not_lt] at readable
            exact .chunkRead (Bool.eq_false_iff.mpr readable.1) readable.2.1 readable.2.2
      | endOfStream =>
          cases taken
          exact .ended (.inl rfl)
      | timesOut =>
          cases taken
          exact .ended (.inr (.inl rfl))
      | throws =>
          cases taken
          exact .ended (.inr (.inr rfl))
      | returns | throwsAfter | datagram => cases taken
  | build responseData =>
      cases answer with
      | returns =>
          simp only [readerNext] at taken
          split at taken <;> cases taken
          · next invalid => exact .buildFailed invalid
          · next packet => exact .built packet
      | throws =>
          cases taken
          exact .buildThrew
      | throwsAfter | timesOut | datagram | chunk | endOfStream => cases taken
  | write responseData responsePacket =>
      cases answer <;> cases taken
      · exact .written
      · exact .writeFailed
  | remove =>
      cases answer <;> simp only [readerNext, reduceCtorEq] at taken
      split at taken <;> cases taken
      · next located => exact .removed located
      · next absent => exact .nothingToRemove absent
  | close registered =>
      cases answer <;> cases taken
      exact .closed
  | done => cases answer <;> cases taken

theorem jobNext_step {job next : Job} {answer : Answer} {effect : Effect}
    (taken : jobNext pcpp forwarder call job answer = some (effect, next)) :
    JobStep pcpp forwarder call job answer effect next := by
  cases job with
  | udp stage =>
      obtain ⟨⟨produced, reached⟩, stepped, same⟩ := Option.map_eq_some_iff.mp taken
      cases same
      exact .udp (udpNext_step stepped)
  | tcp stage =>
      obtain ⟨⟨produced, reached⟩, stepped, same⟩ := Option.map_eq_some_iff.mp taken
      cases same
      exact .tcp (tcpNext_step stepped)
  | reader connection stage =>
      obtain ⟨⟨produced, reached⟩, stepped, same⟩ := Option.map_eq_some_iff.mp taken
      cases same
      exact .reader (readerNext_step stepped)

/-- The only coroutine a coroutine launches is the reader of its connection. -/
theorem JobStep.launched {job next : Job} {answer : Answer} {effect : Effect}
    (stepped : JobStep pcpp forwarder call job answer effect next) :
    ∀ task ∈ effect.launched call, ∃ connection, task = ⟨call, .reader connection .isClosed⟩ := by
  intro task member
  cases stepped with
  | udp stepped => cases stepped <;> cases member
  | tcp stepped =>
      cases stepped with
      | readerStarted => exact ⟨_, List.mem_singleton.mp member⟩
      | _ => cases member
  | reader stepped => cases stepped <;> cases member

/-- The steps of the forwarder. -/
inductive ForwarderStep (pcpp : PcapPlusPlus) (forwarder : Forwarder) : Label → Forwarder → Prop where
  | overwritten {packet : List UInt8} (fits : packet.length ≤ bufferSize) :
      ForwarderStep pcpp forwarder (.overwrite packet)
        { forwarder with byteArray := packet ++ forwarder.byteArray.drop packet.length }
  | launched {call : ForwardCall} {job : Job} (held : call.packet <+: forwarder.byteArray)
      (first : call.traffic.protocolByte = .udp ∧ job = .udp .extractUdpPayload ∨
        call.traffic.protocolByte = .tcp ∧ job = .tcp .getTcpFlags) :
      ForwarderStep pcpp forwarder (.forwardPacket call .returns) (forwarder.launch call job)
  | passedThrough {call : ForwardCall} (held : call.packet <+: forwarder.byteArray)
      (other : call.traffic.protocolByte = .unknown) :
      ForwarderStep pcpp forwarder (.forwardPacket call .returns) { forwarder with
        outputs := forwarder.outputs ++ [⟨none, call, .passThrough call.packet⟩] }
  | passThroughFailed {call : ForwardCall} (other : call.traffic.protocolByte = .unknown) :
      ForwarderStep pcpp forwarder (.forwardPacket call .throws) forwarder
  | resumed {index : Nat} {task : Task} {answer : Answer} {effect : Effect} {job : Job}
      (located : forwarder.tasks[index]? = some task)
      (stepped : JobStep pcpp forwarder task.call task.job answer effect job) :
      ForwarderStep pcpp forwarder (.task index answer)
        (forwarder.resume task.call index effect job)
  | closedAll : ForwarderStep pcpp forwarder .cleanup forwarder.closeAll
  | cleared (pending : 0 < forwarder.pendingClears) :
      ForwarderStep pcpp forwarder .clear { forwarder with
        tcpConnections := ∅, pendingClears := forwarder.pendingClears - 1 }

theorem step_forwarder {next : Forwarder} {label : Label}
    (taken : step pcpp forwarder label = some next) : ForwarderStep pcpp forwarder label next := by
  cases label with
  | overwrite packet =>
      simp only [step] at taken
      split at taken <;> cases taken
      next fits => exact .overwritten fits
  | forwardPacket call answer =>
      simp only [step] at taken
      split at taken
      · next held =>
          simp only [forwardPacket] at taken
          split at taken <;> cases taken
          · next protocol => exact .launched held (.inl ⟨protocol, rfl⟩)
          · next protocol => exact .launched held (.inr ⟨protocol, rfl⟩)
          · next protocol => exact .passedThrough held protocol
          · next protocol => exact .passThroughFailed protocol
      · cases taken
  | task index answer =>
      simp only [step] at taken
      split at taken
      · cases taken
      · next task located =>
          obtain ⟨⟨effect, job⟩, stepped, same⟩ := Option.map_eq_some_iff.mp taken
          cases same
          exact .resumed located (jobNext_step stepped)
  | cleanup =>
      cases taken
      exact .closedAll
  | clear =>
      simp only [step] at taken
      split at taken <;> cases taken
      next pending => exact .cleared (Nat.pos_of_ne_zero pending)

end Forwarder

end FirewallVpn
