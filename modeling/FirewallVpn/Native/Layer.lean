import FirewallVpn.Native.Header

/-! The decoding half of `firewallapp.cpp`. Only the headers of PcapPlusPlus are
part of the repository, so the parsed layer chain is a parameter here; what its
headers say about UDP and TCP packets is collected in `Documented`. -/

set_option autoImplicit false

namespace FirewallVpn

open NetworkOrder

/-- One layer of a parsed packet, with the bytes from its header to the end. -/
inductive Layer where
  | ipv4 (data : List UInt8)
  | tcp (data : List UInt8)
  | udp (data : List UInt8)
  | payload (data : List UInt8)
  | other (protocol : Nat) (data : List UInt8)
  deriving DecidableEq, Repr

/-! `dynamic_cast` to the layer classes the native code asks for. -/

def Layer.asIPv4 : Layer → Option (List UInt8)
  | .ipv4 data => some data
  | _ => none

def Layer.asTcp : Layer → Option (List UInt8)
  | .tcp data => some data
  | _ => none

def Layer.asUdp : Layer → Option (List UInt8)
  | .udp data => some data
  | _ => none

def Layer.asPayload : Layer → Option (List UInt8)
  | .payload data => some data
  | _ => none

/-- The packet library: the layers of a raw packet of link type `LINKTYPE_RAW`,
the application protocols it recognises behind UDP and TCP by ports and content,
and the checksums `computeCalculateFields` writes. -/
structure PcapPlusPlus where
  layers : List UInt8 → List Layer
  recognizesUdp : UInt16 → UInt16 → List UInt8 → Bool
  recognizesTcp : UInt16 → UInt16 → List UInt8 → Bool
  headerChecksum : IPv4Header → UInt16
  transportChecksum : IPv4Header → List UInt8 → UInt16

/-- `Packet::getLayerOfType`, together with the layers that follow the one found. -/
def getLayerOfType (cast : Layer → Option (List UInt8)) :
    List Layer → Option (List UInt8 × List Layer)
  | [] => none
  | layer :: next =>
      match cast layer with
      | some data => some (data, next)
      | none => getLayerOfType cast next

namespace DnsLayer

def isDnsPort (port : UInt16) : Bool := port == 53 || port == 5353 || port == 5355

/-- `sizeof(dnshdr)` is 12. -/
def isDataValid (data : List UInt8) : Bool := 12 ≤ data.length

end DnsLayer

/-- The layers behind UDP or TCP: none for an empty payload, and a `PayloadLayer`
exactly when no protocol is recognised. -/
def ApplicationLayers (payload : List UInt8) (recognised : Bool) (application : List Layer) : Prop :=
  if payload = [] then application = []
  else if recognised then application.head?.bind Layer.asPayload = none
  else application = [.payload payload]

/-- What the headers of the library state about the packets at hand. A UDP
payload with a DNS port and room for a DNS header is recognised. -/
structure PcapPlusPlus.Documented (pcpp : PcapPlusPlus) : Prop where
  udpLayers : ∀ packet : UdpPacket, ∃ application,
    pcpp.layers packet.bytes = .ipv4 packet.bytes :: .udp packet.body :: application ∧
      ApplicationLayers packet.payload
        (pcpp.recognizesUdp packet.udp.portSrc packet.udp.portDst packet.payload) application
  tcpLayers : ∀ packet : TcpPacket, ∃ application,
    pcpp.layers packet.bytes = .ipv4 packet.bytes :: .tcp packet.body :: application ∧
      ApplicationLayers packet.payload
        (pcpp.recognizesTcp packet.tcp.portSrc packet.tcp.portDst packet.payload) application
  dns : ∀ portSrc portDst payload, DnsLayer.isDnsPort portSrc ∨ DnsLayer.isDnsPort portDst →
    DnsLayer.isDataValid payload → pcpp.recognizesUdp portSrc portDst payload

inductive Protocol where
  | ipv4
  | unknown
  deriving DecidableEq, Repr

inductive ProtocolByte where
  | tcp
  | udp
  | unknown
  deriving DecidableEq, Repr

/-- The JSON object `parseRealPacket` prints and `Gson` reads back. -/
structure TrafficLogResponse where
  appName : String
  protocol : Protocol
  protocolByte : ProtocolByte
  srcIp : String
  srcPort : Int
  dstIp : String
  dstPort : Int
  timeStamp : String
  deriving DecidableEq, Repr

def TCP_FIN : Nat := 0x01
def TCP_SYN : Nat := 0x02
def TCP_RST : Nat := 0x04
def TCP_PSH : Nat := 0x08
def TCP_ACK : Nat := 0x10
def TCP_URG : Nat := 0x20

/-- The flags of a header, each under its mask. -/
def TcpHeader.flags (tcpHeader : TcpHeader) : Nat :=
  (if tcpHeader.finFlag then TCP_FIN else 0) ||| (if tcpHeader.synFlag then TCP_SYN else 0) |||
    (if tcpHeader.rstFlag then TCP_RST else 0) ||| (if tcpHeader.pshFlag then TCP_PSH else 0) |||
    (if tcpHeader.ackFlag then TCP_ACK else 0) ||| (if tcpHeader.urgFlag then TCP_URG else 0)

section NativeBridge

variable (pcpp : PcapPlusPlus) (packetData : List UInt8) (length : Nat)

def parseRealPacket (timeStamp : String) : TrafficLogResponse :=
  let layers := pcpp.layers (packetData.take length)
  let (srcIp, dstIp, protocol) :=
    match getLayerOfType Layer.asIPv4 layers with
    | some (data, _) =>
        ((IPv4Header.decode data).ipSrc.toString, (IPv4Header.decode data).ipDst.toString,
          Protocol.ipv4)
    | none => ("Unknown", "Unknown", Protocol.unknown)
  let (srcPort, dstPort, protocolByte) :=
    match getLayerOfType Layer.asTcp layers, getLayerOfType Layer.asUdp layers with
    | some (data, _), _ =>
        (((TcpHeader.decode data).portSrc.toNat : Int), ((TcpHeader.decode data).portDst.toNat : Int),
          ProtocolByte.tcp)
    | none, some (data, _) =>
        (((UdpHeader.decode data).portSrc.toNat : Int), ((UdpHeader.decode data).portDst.toNat : Int),
          ProtocolByte.udp)
    | none, none => (-1, -1, ProtocolByte.unknown)
  { appName := "Unknown", protocol, protocolByte, srcIp, srcPort, dstIp, dstPort, timeStamp }

theorem parseRealPacket_printed {timeStamp : String}
    (ip : (parseRealPacket pcpp packetData length timeStamp).protocol = .ipv4) :
    ∃ src dst : IPv4Address,
      (parseRealPacket pcpp packetData length timeStamp).srcIp = src.toString ∧
      (parseRealPacket pcpp packetData length timeStamp).dstIp = dst.toString := by
  cases layer : getLayerOfType Layer.asIPv4 (pcpp.layers (packetData.take length)) with
  | none => simp [parseRealPacket, layer] at ip
  | some found =>
      refine ⟨(IPv4Header.decode found.1).ipSrc, (IPv4Header.decode found.1).ipDst, ?_, ?_⟩
      · simp [parseRealPacket, layer]
      · simp [parseRealPacket, layer]

/-- The body `extractUdpPayload` and `extractTcpPayload` share: the next layer
counts only when it is a non-empty `PayloadLayer`. -/
def extractPayload (cast : Layer → Option (List UInt8)) : Option (List UInt8) :=
  match getLayerOfType cast (pcpp.layers (packetData.take length)) with
  | none => none
  | some (_, next) =>
      match next.head?.bind Layer.asPayload with
      | none => none
      | some payload => if payload.length = 0 then none else some payload

def extractUdpPayload : Option (List UInt8) := extractPayload pcpp packetData length Layer.asUdp

def extractTcpPayload : Option (List UInt8) := extractPayload pcpp packetData length Layer.asTcp

def getTcpFlags : Nat :=
  match getLayerOfType Layer.asTcp (pcpp.layers (packetData.take length)) with
  | none => 0
  | some (data, _) => (TcpHeader.decode data).flags

end NativeBridge

/-! The native functions look at the first `length` bytes only: what they return
is what they would return for these bytes by themselves. -/

theorem parseRealPacket_take (pcpp : PcapPlusPlus) (packetData : List UInt8) (length : Nat)
    (timeStamp : String) :
    parseRealPacket pcpp (packetData.take length) (packetData.take length).length timeStamp =
      parseRealPacket pcpp packetData length timeStamp := by
  rw [parseRealPacket, List.take_length, parseRealPacket]

theorem extractPayload_take (pcpp : PcapPlusPlus) (packetData : List UInt8) (length : Nat)
    (cast : Layer → Option (List UInt8)) :
    extractPayload pcpp (packetData.take length) (packetData.take length).length cast =
      extractPayload pcpp packetData length cast := by
  rw [extractPayload, List.take_length, extractPayload]

theorem getTcpFlags_take (pcpp : PcapPlusPlus) (packetData : List UInt8) (length : Nat) :
    getTcpFlags pcpp (packetData.take length) (packetData.take length).length =
      getTcpFlags pcpp packetData length := by
  rw [getTcpFlags, List.take_length, getTcpFlags]

end FirewallVpn
