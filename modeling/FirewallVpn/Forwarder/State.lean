import FirewallVpn.Library.TaskPool
import FirewallVpn.Native.Builder
import Mathlib.Data.List.AList

/-! The state of `PacketForwarder`: the map of connections, the sockets, and
every coroutine it has launched, with the place each of them has reached. The
packet buffer is the one array `readPackets` hands to every call. -/

set_option autoImplicit false

namespace FirewallVpn

/-- The arguments of one call of `forwardPacket`. `packet` is what the buffer
holds in its first `length` bytes when the call is made. -/
structure ForwardCall where
  packet : List UInt8
  traffic : TrafficLogResponse
  sourcePackageName : Option String
  deriving DecidableEq

def ForwardCall.length (call : ForwardCall) : Nat := call.packet.length

def ForwardCall.key (call : ForwardCall) : String :=
  call.traffic.srcIp ++ ":" ++ toString call.traffic.srcPort ++ "->" ++
    call.traffic.dstIp ++ ":" ++ toString call.traffic.dstPort

/-- `socket` indexes the sockets opened so far. -/
structure TcpConnection where
  socket : Nat
  key : String
  seqNum : Int
  ackNum : Int
  deriving DecidableEq

def newTcpConnection (socket : Nat) (key : String) : TcpConnection where
  socket := socket
  key := key
  seqNum := 0
  ackNum := 0

/-- `openedFor` is the key of the flow whose SYN created the socket. -/
structure TcpSocket where
  openedFor : String
  remote : Option (String × Int)
  closed : Bool
  deriving DecidableEq

structure DatagramSocket where
  closed : Bool
  deriving DecidableEq

/-- A datagram as `DatagramSocket.receive` returns it. -/
structure ReceivedDatagram where
  data : List UInt8
  hostAddress : Option String
  port : Int
  deriving DecidableEq

/-- The statements of the coroutine in `forwardUdpPacket`, each with the local
variables it still needs. -/
inductive UdpStage where
  | extractUdpPayload
  | create (payload : List UInt8)
  | protect (socket : Nat) (payload : List UInt8)
  | soTimeout (socket : Nat) (payload : List UInt8)
  | getByName (socket : Nat) (payload : List UInt8)
  | send (socket : Nat) (payload : List UInt8)
  | receive (socket : Nat)
  | build (socket : Nat) (response : ReceivedDatagram)
  | write (socket : Nat) (response : ReceivedDatagram) (responsePacket : List UInt8)
  | close (socket : Nat)
  | done
  deriving DecidableEq

/-- The statements of the coroutine in `forwardTcpPacket` and of `handleTcpSyn`.
The flag of `remove` and `close` tells that the test for FIN comes afterwards
and will succeed. -/
inductive TcpStage where
  | getTcpFlags
  | extractTcpPayload (flags : Nat)
  | create
  | protect (socket : Nat)
  | soTimeout (socket : Nat)
  | connect (socket : Nat)
  | register (socket : Nat)
  | buildSynAck (connection : TcpConnection)
  | writeSynAck (connection : TcpConnection) (synAckPacket : List UInt8)
  | startReader (connection : TcpConnection)
  | lookup (flags : Nat) (payload : Option (List UInt8))
  | write (connection : TcpConnection) (payload : List UInt8) (flags : Nat)
  | remove (finFollows : Bool)
  | close (connection : TcpConnection) (finFollows : Bool)
  | done
  deriving DecidableEq

/-- The loop of `startTcpReader` and its `finally`. -/
inductive ReaderStage where
  | isClosed
  | read
  | build (responseData : List UInt8)
  | write (responseData responsePacket : List UInt8)
  | remove
  | close (connection : TcpConnection)
  | done
  deriving DecidableEq

inductive Job where
  | udp (stage : UdpStage)
  | tcp (stage : TcpStage)
  | reader (connection : TcpConnection) (stage : ReaderStage)
  deriving DecidableEq

structure Task where
  call : ForwardCall
  job : Job
  deriving DecidableEq

/-- What leaves the forwarder: packets for the TUN and bytes for a remote
socket, each with the data it was made from. -/
inductive Content where
  | passThrough (packet : List UInt8)
  | udpResponse (response : ReceivedDatagram) (packet : List UInt8)
  | synAck (connection : TcpConnection) (packet : List UInt8)
  | data (connection : TcpConnection) (responseData packet : List UInt8)
  | upstream (connection : TcpConnection) (payload : List UInt8)
  | datagram (socket : Nat) (payload : List UInt8)
  deriving DecidableEq

/-- `task` is the index of the coroutine; a pass-through has none. -/
structure Output where
  task : Option Nat
  call : ForwardCall
  content : Content
  deriving DecidableEq

structure Forwarder where
  byteArray : List UInt8
  tcpConnections : AList fun _ : String => TcpConnection
  sockets : List TcpSocket
  datagramSockets : List DatagramSocket
  tasks : List Task
  outputs : List Output
  pendingClears : Nat

namespace Forwarder

/-- The size of the array `readPackets` reads into. -/
def bufferSize : Nat := 32767

def initial : Forwarder where
  byteArray := List.replicate bufferSize 0
  tcpConnections := ∅
  sockets := []
  datagramSockets := []
  tasks := []
  outputs := []
  pendingClears := 0

/-- A socket that does not exist counts as closed. -/
def isClosed (forwarder : Forwarder) (socket : Nat) : Bool :=
  (forwarder.sockets[socket]?).elim true TcpSocket.closed

/-- What one statement of a coroutine does to the shared state. -/
inductive Effect where
  | none
  | newDatagramSocket
  | closeDatagramSocket (socket : Nat)
  | newSocket
  | connect (socket : Nat)
  | close (socket : Nat)
  | register (key : String) (connection : TcpConnection)
  | remove (key : String)
  | output (content : Content)
  | launch (job : Job)
  deriving DecidableEq

def closeSocket (sockets : List TcpSocket) (socket : Nat) : List TcpSocket :=
  sockets.modify socket fun opened => { opened with closed := true }

/-- Carry out the effect of the coroutine at `index`, which works for `call`. -/
def perform (forwarder : Forwarder) (index : Nat) (call : ForwardCall) : Effect → Forwarder
  | .none | .launch _ => forwarder
  | .newDatagramSocket =>
      { forwarder with datagramSockets := forwarder.datagramSockets ++ [{ closed := false }] }
  | .closeDatagramSocket socket =>
      { forwarder with
        datagramSockets := forwarder.datagramSockets.modify socket fun _ => { closed := true } }
  | .newSocket =>
      { forwarder with
        sockets := forwarder.sockets ++ [{ openedFor := call.key, remote := none, closed := false }] }
  | .connect socket =>
      { forwarder with
        sockets := forwarder.sockets.modify socket fun opened =>
          { opened with remote := some (call.traffic.dstIp, call.traffic.dstPort) } }
  | .close socket => { forwarder with sockets := closeSocket forwarder.sockets socket }
  | .register key connection =>
      { forwarder with tcpConnections := forwarder.tcpConnections.insert key connection }
  | .remove key => { forwarder with tcpConnections := forwarder.tcpConnections.erase key }
  | .output content =>
      { forwarder with outputs := forwarder.outputs ++ [{ task := some index, call, content }] }

/-- The coroutine an effect launches; it works for the same call. -/
def Effect.launched (call : ForwardCall) : Effect → List Task
  | .launch job => [{ call, job }]
  | _ => []

end Forwarder

end FirewallVpn
