import FirewallVpn.Forwarder.State
import FirewallVpn.Library.Transition

/-! The coroutines of `PacketForwarder`, one statement at a time. Whatever the
remote side, the TUN or a socket does is the answer a statement gets; an answer
a statement cannot get disables the step. -/

set_option autoImplicit false

namespace FirewallVpn

inductive Answer where
  | returns
  | throws
  /-- A socket write that fails after `count` bytes. -/
  | throwsAfter (count : Nat)
  | timesOut
  | datagram (response : ReceivedDatagram)
  | chunk (bytes : List UInt8)
  | endOfStream
  deriving DecidableEq

namespace Forwarder

variable (pcpp : PcapPlusPlus) (forwarder : Forwarder) (call : ForwardCall)

/-- An exception after the socket exists leaves it open up to `receive`. The buffer has 2048
bytes; the rest of a longer datagram is lost. -/
def udpNext : UdpStage → Answer → Option (Effect × UdpStage)
  | .extractUdpPayload, .returns =>
      match extractUdpPayload pcpp forwarder.byteArray call.length with
      | none => some (.none, .done)
      | some payload => some (.none, .create payload)
  | .create payload, .returns =>
      some (.newDatagramSocket, .protect forwarder.datagramSockets.length payload)
  | .create _, .throws => some (.none, .done)
  | .protect socket payload, .returns => some (.none, .soTimeout socket payload)
  | .protect _ _, .throws => some (.none, .done)
  | .soTimeout socket payload, .returns => some (.none, .getByName socket payload)
  | .soTimeout _ _, .throws => some (.none, .done)
  | .getByName socket payload, .returns => some (.none, .send socket payload)
  | .getByName _ _, .throws => some (.none, .done)
  | .send socket payload, .returns => some (.output (.datagram socket payload), .receive socket)
  | .send _ _, .throws => some (.none, .done)
  | .receive socket, .datagram response =>
      some (.none, .build socket { response with data := response.data.take 2048 })
  | .receive socket, .timesOut => some (.none, .close socket)
  | .receive socket, .throws => some (.none, .close socket)
  | .build socket response, .returns =>
      match buildUdpResponsePacket pcpp response.data (response.hostAddress.getD "0.0.0.0")
          response.port "10.0.0.2" call.traffic.srcPort with
      | none => some (.none, .close socket)
      | some responsePacket => some (.none, .write socket response responsePacket)
  | .build socket _, .throws => some (.none, .close socket)
  | .write socket response responsePacket, .returns =>
      some (.output (.udpResponse response responsePacket), .close socket)
  | .write socket _ _, .throws => some (.none, .close socket)
  | .close socket, .returns => some (.closeDatagramSocket socket, .done)
  | _, _ => none

def hasFin (flags : Nat) : Bool := flags &&& TCP_FIN ≠ 0

def hasSyn (flags : Nat) : Bool := flags &&& TCP_SYN ≠ 0

/-- The test for FIN at the end of the coroutine. -/
def finTest (finFollows : Bool) : TcpStage := if finFollows then .remove false else .done

def tcpNext : TcpStage → Answer → Option (Effect × TcpStage)
  | .getTcpFlags, .returns =>
      some (.none, .extractTcpPayload (getTcpFlags pcpp forwarder.byteArray call.length))
  | .extractTcpPayload flags, .returns =>
      let payload := extractTcpPayload pcpp forwarder.byteArray call.length
      some (.none, if hasSyn flags then .create else .lookup flags payload)
  | .create, .returns => some (.newSocket, .protect forwarder.sockets.length)
  | .create, .throws => some (.none, .remove false)
  | .protect socket, .returns => some (.none, .soTimeout socket)
  | .protect _, .throws => some (.none, .remove false)
  | .soTimeout socket, .returns => some (.none, .connect socket)
  | .soTimeout _, .throws => some (.none, .remove false)
  | .connect socket, .returns => some (.connect socket, .register socket)
  | .connect _, .throws => some (.none, .remove false)
  | .register socket, .returns =>
      let connection := newTcpConnection socket call.key
      some (.register call.key connection, .buildSynAck connection)
  | .buildSynAck connection, .returns =>
      match buildTcpPacket pcpp "10.0.0.2" call.traffic.srcIp call.traffic.dstPort
          call.traffic.srcPort 0x12 1 1 none with
      | none => some (.none, .remove false)
      | some synAckPacket => some (.none, .writeSynAck connection synAckPacket)
  | .buildSynAck _, .throws => some (.none, .remove false)
  | .writeSynAck connection synAckPacket, .returns =>
      some (.output (.synAck connection synAckPacket), .startReader connection)
  | .writeSynAck _ _, .throws => some (.none, .remove false)
  | .startReader connection, .returns => some (.launch (.reader connection .isClosed), .done)
  | .lookup flags payload, .returns =>
      match forwarder.tcpConnections.lookup call.key, payload with
      | some connection, some bytes =>
          if bytes = [] then some (.none, finTest (hasFin flags))
          else some (.none, .write connection bytes flags)
      | _, _ => some (.none, finTest (hasFin flags))
  | .write connection payload flags, .returns =>
      if forwarder.isClosed connection.socket then none
      else some (.output (.upstream connection payload), finTest (hasFin flags))
  | .write connection payload flags, .throwsAfter count =>
      if forwarder.isClosed connection.socket then none
      else some (.output (.upstream connection (payload.take count)), .remove (hasFin flags))
  | .write _ _ flags, .throws => some (.none, .remove (hasFin flags))
  | .remove finFollows, .returns =>
      match forwarder.tcpConnections.lookup call.key with
      | some connection => some (.remove call.key, .close connection finFollows)
      | none => some (.none, finTest finFollows)
  | .close connection finFollows, .returns =>
      some (.close connection.socket, finTest finFollows)
  | _, _ => none

/-- An expired `soTimeout` is an exception like any other here. -/
def readerNext (connection : TcpConnection) : ReaderStage → Answer → Option (Effect × ReaderStage)
  | .isClosed, .returns =>
      some (.none, if forwarder.isClosed connection.socket then .remove else .read)
  | .read, .chunk bytes =>
      if forwarder.isClosed connection.socket ∨ bytes = [] ∨ 4096 < bytes.length then none
      else some (.none, .build bytes)
  | .read, .endOfStream => some (.none, .remove)
  | .read, .timesOut => some (.none, .remove)
  | .read, .throws => some (.none, .remove)
  | .build responseData, .returns =>
      match buildTcpResponsePacket pcpp responseData call.traffic.dstIp call.traffic.dstPort
          "10.0.0.2" call.traffic.srcPort with
      | none => some (.none, .remove)
      | some responsePacket => some (.none, .write responseData responsePacket)
  | .build _, .throws => some (.none, .remove)
  | .write responseData responsePacket, .returns =>
      some (.output (.data connection responseData responsePacket), .isClosed)
  | .write _ _, .throws => some (.none, .remove)
  | .remove, .returns =>
      match forwarder.tcpConnections.lookup connection.key with
      | some registered => some (.remove connection.key, .close registered)
      | none => some (.none, .done)
  | .close registered, .returns => some (.close registered.socket, .done)
  | _, _ => none

def jobNext : Job → Answer → Option (Effect × Job)
  | .udp stage, answer => (udpNext pcpp forwarder call stage answer).map (Prod.map id Job.udp)
  | .tcp stage, answer => (tcpNext pcpp forwarder call stage answer).map (Prod.map id Job.tcp)
  | .reader connection stage, answer =>
      (readerNext pcpp forwarder call connection stage answer).map
        (Prod.map id (Job.reader connection))

inductive Label where
  /-- `inputStream.read(byteArray)` in the loop of `readPackets`. -/
  | overwrite (packet : List UInt8)
  | forwardPacket (call : ForwardCall) (answer : Answer)
  | task (index : Nat) (answer : Answer)
  /-- The closing pass of `cleanup()`, before its `clear()`. -/
  | cleanup
  | clear
  deriving DecidableEq

def launch (job : Job) : Forwarder :=
  { forwarder with tasks := forwarder.tasks ++ [{ call, job }] }

def forwardPacket (answer : Answer) : Option Forwarder :=
  match call.traffic.protocolByte, answer with
  | .udp, .returns => some (forwarder.launch call (.udp .extractUdpPayload))
  | .tcp, .returns => some (forwarder.launch call (.tcp .getTcpFlags))
  | .unknown, .returns =>
      some { forwarder with
        outputs := forwarder.outputs ++ [⟨none, call, .passThrough call.packet⟩] }
  | .unknown, .throws => some forwarder
  | _, _ => none

/-- The coroutine at `index` continues with `job` after `effect`. -/
def resume (index : Nat) (effect : Effect) (job : Job) : Forwarder :=
  { forwarder.perform index call effect with
    tasks := TaskPool.advance forwarder.tasks index { call, job } (effect.launched call) }

/-- The sockets of the connections registered at the moment are closed. -/
def closeAll : Forwarder :=
  { forwarder with
    sockets := forwarder.tcpConnections.entries.foldl
      (fun sockets entry => closeSocket sockets entry.snd.socket) forwarder.sockets
    pendingClears := forwarder.pendingClears + 1 }

def step : Label → Option Forwarder
  | .overwrite packet =>
      if packet.length ≤ bufferSize then
        some { forwarder with byteArray := packet ++ forwarder.byteArray.drop packet.length }
      else none
  | .forwardPacket call answer =>
      if call.packet <+: forwarder.byteArray then forwarder.forwardPacket call answer else none
  | .task index answer =>
      match forwarder.tasks[index]? with
      | none => none
      | some task =>
          (jobNext pcpp forwarder task.call task.job answer).map fun (effect, job) =>
            forwarder.resume task.call index effect job
  | .cleanup => some forwarder.closeAll
  | .clear =>
      if forwarder.pendingClears = 0 then none
      else some { forwarder with
        tcpConnections := ∅
        pendingClears := forwarder.pendingClears - 1 }

end Forwarder

end FirewallVpn
