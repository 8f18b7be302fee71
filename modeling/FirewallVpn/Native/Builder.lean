import FirewallVpn.Native.Layer
import Mathlib.Algebra.Group.Int.Defs
import Mathlib.Algebra.Group.Nat.Defs

/-! The encoding half of `firewallapp.cpp`. A new layer has zero in every field
its constructor is not given; `computeCalculateFields` fills in the lengths, the
version, the header length and the checksums. -/

set_option autoImplicit false

namespace FirewallVpn

open NetworkOrder

/-- `IPv4Layer(src, dst)` with the two fields every builder sets. -/
def newIPv4Layer (src dst : IPv4Address) (protocol : UInt8) : IPv4Header where
  ipVersion := 0
  internetHeaderLength := 0
  typeOfService := 0
  totalLength := 0
  ipId := 0
  fragmentOffset := 0
  timeToLive := 64
  protocol := protocol
  headerChecksum := 0
  ipSrc := src
  ipDst := dst

/-- `TcpLayer(portSrc, portDst)`; the ports arrive as `jint` and are cut to 16 bits. -/
def newTcpLayer (portSrc portDst : Int) : TcpHeader where
  portSrc := UInt16.ofInt portSrc
  portDst := UInt16.ofInt portDst
  sequenceNumber := 0
  ackNumber := 0
  reserved := 0
  dataOffset := 5
  finFlag := false
  synFlag := false
  rstFlag := false
  pshFlag := false
  ackFlag := false
  urgFlag := false
  eceFlag := false
  cwrFlag := false
  windowSize := 0
  headerChecksum := 0
  urgentPointer := 0

/-- `UdpLayer(portSrc, portDst)`. -/
def newUdpLayer (portSrc portDst : Int) : UdpHeader where
  portSrc := UInt16.ofInt portSrc
  portDst := UInt16.ofInt portDst
  length := 0
  headerChecksum := 0

namespace PcapPlusPlus

variable (pcpp : PcapPlusPlus)

/-! `computeCalculateFields` of the three layer classes. -/

def computeIPv4 (header : IPv4Header) (bodyLength : Nat) : IPv4Header :=
  let sized := { header with
    ipVersion := 4, internetHeaderLength := 5, totalLength := UInt16.ofNat (20 + bodyLength) }
  { sized with headerChecksum := pcpp.headerChecksum sized }

def computeTcp (ip : IPv4Header) (header : TcpHeader) (payload : List UInt8) : TcpHeader :=
  { header with headerChecksum := pcpp.transportChecksum ip (header.encode ++ payload) }

def computeUdp (ip : IPv4Header) (header : UdpHeader) (payload : List UInt8) : UdpHeader :=
  let sized := { header with length := UInt16.ofNat (8 + payload.length) }
  { sized with headerChecksum := pcpp.transportChecksum ip (sized.encode ++ payload) }

/-- The bytes of a packet of an IPv4, a TCP and a payload layer. -/
def tcpBytes (ip : IPv4Header) (tcp : TcpHeader) (payload : List UInt8) : List UInt8 :=
  (pcpp.computeIPv4 ip (20 + payload.length)).encode ++
    ((pcpp.computeTcp ip tcp payload).encode ++ payload)

def udpBytes (ip : IPv4Header) (udp : UdpHeader) (payload : List UInt8) : List UInt8 :=
  (pcpp.computeIPv4 ip (8 + payload.length)).encode ++
    ((pcpp.computeUdp ip udp payload).encode ++ payload)

end PcapPlusPlus

/-- The ports in a report are cut to 16 bits by the builders, which loses nothing. -/
theorem port_ofInt (port : UInt16) : UInt16.ofInt (port.toNat : Int) = port := by
  have bound : port.toNat < 65536 := port.toNat_lt
  have small : ((port.toNat : Int) % 65536).toNat = port.toNat := by omega
  simp [UInt16.ofInt, small]

theorem number_ofInt (number : Int) : ((UInt32.ofInt number).toNat : Int) = number % 2 ^ 32 := by
  simp only [UInt32.ofInt, UInt32.toNat_ofNat']
  omega

/-- A flag argument is a `jint`, tested bit by bit. -/
def hasFlag (flags : Int) (mask : UInt32) : Bool := UInt32.ofInt flags &&& mask ≠ 0

section NativeBridge

variable (pcpp : PcapPlusPlus)

/-! `none` is the exception of an `IPv4Address` that is given an invalid text. -/

def buildUdpResponsePacket (payload : List UInt8) (srcIp : String) (srcPort : Int) (dstIp : String)
    (dstPort : Int) : Option (List UInt8) := do
  let ipSrc ← IPv4Address.ofString srcIp
  let ipDst ← IPv4Address.ofString dstIp
  return pcpp.udpBytes (newIPv4Layer ipSrc ipDst 17) (newUdpLayer srcPort dstPort) payload

def buildTcpResponsePacket (payload : List UInt8) (srcIp : String) (srcPort : Int) (dstIp : String)
    (dstPort : Int) : Option (List UInt8) := do
  let ipSrc ← IPv4Address.ofString srcIp
  let ipDst ← IPv4Address.ofString dstIp
  let tcpLayer := { newTcpLayer srcPort dstPort with
    ackFlag := true, pshFlag := true, ackNumber := 1, sequenceNumber := 1 }
  return pcpp.tcpBytes (newIPv4Layer ipSrc ipDst 6) tcpLayer payload

def buildTcpPacket (srcIp dstIp : String) (srcPort dstPort flags seqNum ackNum : Int)
    (payload : Option (List UInt8)) : Option (List UInt8) := do
  let ipSrc ← IPv4Address.ofString srcIp
  let ipDst ← IPv4Address.ofString dstIp
  let tcpHeader := { newTcpLayer srcPort dstPort with
    finFlag := hasFlag flags 0x01, synFlag := hasFlag flags 0x02, rstFlag := hasFlag flags 0x04
    pshFlag := hasFlag flags 0x08, ackFlag := hasFlag flags 0x10, urgFlag := hasFlag flags 0x20
    sequenceNumber := UInt32.ofInt seqNum, ackNumber := UInt32.ofInt ackNum, windowSize := 65535 }
  return pcpp.tcpBytes (newIPv4Layer ipSrc ipDst 6) tcpHeader (payload.getD [])

end NativeBridge

/-! Reading a packet on the TUN: the IPv4 header and what it carries. -/

def ipBody (packet : List UInt8) : List UInt8 :=
  packet.drop (4 * (IPv4Header.decode packet).internetHeaderLength.val)

def ipSource (packet : List UInt8) : IPv4Address := (IPv4Header.decode packet).ipSrc

def ipDestination (packet : List UInt8) : IPv4Address := (IPv4Header.decode packet).ipDst

/-- Source and destination port stand in the same place in UDP and TCP. -/
def sourcePort (packet : List UInt8) : UInt16 := read16 (ipBody packet) 0

def destinationPort (packet : List UInt8) : UInt16 := read16 (ipBody packet) 2

def tcpSequence (packet : List UInt8) : UInt32 := (TcpHeader.decode (ipBody packet)).sequenceNumber

def tcpAcknowledgement (packet : List UInt8) : UInt32 := (TcpHeader.decode (ipBody packet)).ackNumber

def tcpFlags (packet : List UInt8) : Nat := (TcpHeader.decode (ipBody packet)).flags

/-- What stands behind the UDP header. -/
def udpPayload (packet : List UInt8) : List UInt8 := (ipBody packet).drop 8

/-- What stands behind the TCP header and its options. -/
def tcpPayload (packet : List UInt8) : List UInt8 :=
  (ipBody packet).drop (4 * (TcpHeader.decode (ipBody packet)).dataOffset.val)

section Reading

variable (pcpp : PcapPlusPlus) (header : IPv4Header)

private theorem decode_computed (bodyLength : Nat) (body : List UInt8) :
    IPv4Header.decode ((pcpp.computeIPv4 header bodyLength).encode ++ body) =
      pcpp.computeIPv4 header bodyLength :=
  IPv4Header.decode_encode _ body

private theorem ipBody_computed (bodyLength : Nat) (body : List UInt8) :
    ipBody ((pcpp.computeIPv4 header bodyLength).encode ++ body) = body := by
  rw [ipBody, decode_computed]
  exact List.drop_left' rfl

theorem ipHeader_tcpBytes (tcp : TcpHeader) (payload : List UInt8) :
    IPv4Header.decode (pcpp.tcpBytes header tcp payload) =
      pcpp.computeIPv4 header (20 + payload.length) :=
  decode_computed pcpp header _ _

theorem tcpHeader_tcpBytes (tcp : TcpHeader) (payload : List UInt8) :
    TcpHeader.decode (ipBody (pcpp.tcpBytes header tcp payload)) =
      pcpp.computeTcp header tcp payload := by
  have body : ipBody (pcpp.tcpBytes header tcp payload) =
      (pcpp.computeTcp header tcp payload).encode ++ payload := ipBody_computed pcpp header _ _
  rw [body, TcpHeader.decode_encode]

theorem tcpBytes_read (tcp : TcpHeader) (payload : List UInt8) :
    ipSource (pcpp.tcpBytes header tcp payload) = header.ipSrc ∧
      ipDestination (pcpp.tcpBytes header tcp payload) = header.ipDst ∧
      sourcePort (pcpp.tcpBytes header tcp payload) = tcp.portSrc ∧
      destinationPort (pcpp.tcpBytes header tcp payload) = tcp.portDst ∧
      tcpSequence (pcpp.tcpBytes header tcp payload) = tcp.sequenceNumber ∧
      tcpAcknowledgement (pcpp.tcpBytes header tcp payload) = tcp.ackNumber := by
  have decoded := tcpHeader_tcpBytes pcpp header tcp payload
  refine ⟨?_, ?_, congrArg TcpHeader.portSrc decoded, congrArg TcpHeader.portDst decoded, ?_, ?_⟩
  · rw [ipSource, ipHeader_tcpBytes]
    rfl
  · rw [ipDestination, ipHeader_tcpBytes]
    rfl
  · rw [tcpSequence, decoded]
    rfl
  · rw [tcpAcknowledgement, decoded]
    rfl

theorem udpBytes_read (udp : UdpHeader) (payload : List UInt8) :
    ipSource (pcpp.udpBytes header udp payload) = header.ipSrc ∧
      ipDestination (pcpp.udpBytes header udp payload) = header.ipDst ∧
      sourcePort (pcpp.udpBytes header udp payload) = udp.portSrc ∧
      destinationPort (pcpp.udpBytes header udp payload) = udp.portDst := by
  have body : ipBody (pcpp.udpBytes header udp payload) =
      (pcpp.computeUdp header udp payload).encode ++ payload := ipBody_computed pcpp header _ _
  have decoded : UdpHeader.decode (ipBody (pcpp.udpBytes header udp payload)) =
      pcpp.computeUdp header udp payload := by
    rw [body, UdpHeader.decode_encode]
  refine ⟨?_, ?_, congrArg UdpHeader.portSrc decoded, congrArg UdpHeader.portDst decoded⟩
  · rw [ipSource, PcapPlusPlus.udpBytes, decode_computed]
    rfl
  · rw [ipDestination, PcapPlusPlus.udpBytes, decode_computed]
    rfl

theorem buildUdpResponsePacket_read {payload packet : List UInt8} {srcIp dstIp : String}
    {srcPort dstPort : Int}
    (built : buildUdpResponsePacket pcpp payload srcIp srcPort dstIp dstPort = some packet) :
    IPv4Address.ofString srcIp = some (ipSource packet) ∧
      IPv4Address.ofString dstIp = some (ipDestination packet) ∧
      sourcePort packet = UInt16.ofInt srcPort ∧ destinationPort packet = UInt16.ofInt dstPort := by
  simp only [buildUdpResponsePacket, Option.bind_eq_bind, Option.bind_eq_some_iff, Option.pure_def,
    Option.some.injEq] at built
  obtain ⟨src, srcParsed, dst, dstParsed, rfl⟩ := built
  obtain ⟨srcRead, dstRead, srcPortRead, dstPortRead⟩ := udpBytes_read pcpp (newIPv4Layer src dst 17)
    (newUdpLayer srcPort dstPort) payload
  exact ⟨by rw [srcParsed, srcRead]; rfl, by rw [dstParsed, dstRead]; rfl, srcPortRead, dstPortRead⟩

theorem buildTcpResponsePacket_read {payload packet : List UInt8} {srcIp dstIp : String}
    {srcPort dstPort : Int}
    (built : buildTcpResponsePacket pcpp payload srcIp srcPort dstIp dstPort = some packet) :
    IPv4Address.ofString srcIp = some (ipSource packet) ∧
      IPv4Address.ofString dstIp = some (ipDestination packet) ∧
      sourcePort packet = UInt16.ofInt srcPort ∧ destinationPort packet = UInt16.ofInt dstPort ∧
      tcpSequence packet = 1 ∧ tcpAcknowledgement packet = 1 := by
  simp only [buildTcpResponsePacket, Option.bind_eq_bind, Option.bind_eq_some_iff, Option.pure_def,
    Option.some.injEq] at built
  obtain ⟨src, srcParsed, dst, dstParsed, rfl⟩ := built
  obtain ⟨srcRead, dstRead, rest⟩ := tcpBytes_read pcpp (newIPv4Layer src dst 6)
    { newTcpLayer srcPort dstPort with
      ackFlag := true, pshFlag := true, ackNumber := 1, sequenceNumber := 1 } payload
  exact ⟨by rw [srcParsed, srcRead]; rfl, by rw [dstParsed, dstRead]; rfl, rest⟩

theorem buildTcpPacket_read {payload : Option (List UInt8)} {packet : List UInt8}
    {srcIp dstIp : String} {srcPort dstPort flags seqNum ackNum : Int}
    (built : buildTcpPacket pcpp srcIp dstIp srcPort dstPort flags seqNum ackNum payload =
      some packet) :
    IPv4Address.ofString srcIp = some (ipSource packet) ∧
      IPv4Address.ofString dstIp = some (ipDestination packet) ∧
      sourcePort packet = UInt16.ofInt srcPort ∧ destinationPort packet = UInt16.ofInt dstPort ∧
      tcpSequence packet = UInt32.ofInt seqNum ∧ tcpAcknowledgement packet = UInt32.ofInt ackNum := by
  simp only [buildTcpPacket, Option.bind_eq_bind, Option.bind_eq_some_iff, Option.pure_def,
    Option.some.injEq] at built
  obtain ⟨src, srcParsed, dst, dstParsed, rfl⟩ := built
  obtain ⟨srcRead, dstRead, rest⟩ := tcpBytes_read pcpp (newIPv4Layer src dst 6) _ (payload.getD [])
  exact ⟨by rw [srcParsed, srcRead]; rfl, by rw [dstParsed, dstRead]; rfl, rest⟩

theorem udpPayload_udpBytes (udp : UdpHeader) (payload : List UInt8) :
    udpPayload (pcpp.udpBytes header udp payload) = payload := by
  have body : ipBody (pcpp.udpBytes header udp payload) =
      (pcpp.computeUdp header udp payload).encode ++ payload := ipBody_computed pcpp header _ _
  rw [udpPayload, body]
  exact List.drop_left' rfl

theorem tcpPayload_tcpBytes {tcp : TcpHeader} (noOptions : tcp.dataOffset = 5) (payload : List UInt8) :
    tcpPayload (pcpp.tcpBytes header tcp payload) = payload := by
  have body : ipBody (pcpp.tcpBytes header tcp payload) =
      (pcpp.computeTcp header tcp payload).encode ++ payload := ipBody_computed pcpp header _ _
  have offset : (pcpp.computeTcp header tcp payload).dataOffset = 5 := noOptions
  rw [tcpPayload, body, TcpHeader.decode_encode, offset]
  exact List.drop_left' rfl

theorem tcpFlags_tcpBytes (tcp : TcpHeader) (payload : List UInt8) :
    tcpFlags (pcpp.tcpBytes header tcp payload) = tcp.flags := by
  rw [tcpFlags, tcpHeader_tcpBytes]
  rfl

theorem buildUdpResponsePacket_payload {payload packet : List UInt8} {srcIp dstIp : String}
    {srcPort dstPort : Int}
    (built : buildUdpResponsePacket pcpp payload srcIp srcPort dstIp dstPort = some packet) :
    udpPayload packet = payload := by
  simp only [buildUdpResponsePacket, Option.bind_eq_bind, Option.bind_eq_some_iff, Option.pure_def,
    Option.some.injEq] at built
  obtain ⟨src, -, dst, -, rfl⟩ := built
  exact udpPayload_udpBytes pcpp _ _ payload

theorem buildTcpResponsePacket_payload {payload packet : List UInt8} {srcIp dstIp : String}
    {srcPort dstPort : Int}
    (built : buildTcpResponsePacket pcpp payload srcIp srcPort dstIp dstPort = some packet) :
    tcpPayload packet = payload := by
  simp only [buildTcpResponsePacket, Option.bind_eq_bind, Option.bind_eq_some_iff, Option.pure_def,
    Option.some.injEq] at built
  obtain ⟨src, -, dst, -, rfl⟩ := built
  exact tcpPayload_tcpBytes pcpp _ rfl payload

theorem buildTcpResponsePacket_flags {payload packet : List UInt8} {srcIp dstIp : String}
    {srcPort dstPort : Int}
    (built : buildTcpResponsePacket pcpp payload srcIp srcPort dstIp dstPort = some packet) :
    tcpFlags packet = TCP_PSH ||| TCP_ACK := by
  simp only [buildTcpResponsePacket, Option.bind_eq_bind, Option.bind_eq_some_iff, Option.pure_def,
    Option.some.injEq] at built
  obtain ⟨src, -, dst, -, rfl⟩ := built
  rw [tcpFlags_tcpBytes]
  simp [TcpHeader.flags, newTcpLayer, TCP_PSH, TCP_ACK]

end Reading

end FirewallVpn
