import FirewallVpn.Library.NetworkOrder
import FirewallVpn.Native.Address

/-! The packed header structs of the packet library (`iphdr`, `udphdr`,
`tcphdr`), with the values that `ntohs` and `ntohl` read from them, and the
packets an app can put on the TUN: unfragmented IPv4 carrying UDP or TCP. -/

set_option autoImplicit false

namespace FirewallVpn

open NetworkOrder

/-- `iphdr`. `fragmentOffset` holds the flags in its three upper bits. -/
structure IPv4Header where
  ipVersion : Fin 16
  internetHeaderLength : Fin 16
  typeOfService : UInt8
  totalLength : UInt16
  ipId : UInt16
  fragmentOffset : UInt16
  timeToLive : UInt8
  protocol : UInt8
  headerChecksum : UInt16
  ipSrc : IPv4Address
  ipDst : IPv4Address
  deriving DecidableEq, Repr

namespace IPv4Header

def encode (header : IPv4Header) : List UInt8 :=
  [nibbles header.ipVersion header.internetHeaderLength, header.typeOfService] ++
    word16 header.totalLength ++ word16 header.ipId ++ word16 header.fragmentOffset ++
    [header.timeToLive, header.protocol] ++ word16 header.headerChecksum ++
    header.ipSrc.bytes ++ header.ipDst.bytes

def decode (data : List UInt8) : IPv4Header where
  ipVersion := highNibble (byteAt data 0)
  internetHeaderLength := lowNibble (byteAt data 0)
  typeOfService := byteAt data 1
  totalLength := read16 data 2
  ipId := read16 data 4
  fragmentOffset := read16 data 6
  timeToLive := byteAt data 8
  protocol := byteAt data 9
  headerChecksum := read16 data 10
  ipSrc := ⟨byteAt data 12, byteAt data 13, byteAt data 14, byteAt data 15⟩
  ipDst := ⟨byteAt data 16, byteAt data 17, byteAt data 18, byteAt data 19⟩

@[simp] theorem encode_length (header : IPv4Header) : header.encode.length = 20 := rfl

theorem decode_encode (header : IPv4Header) (rest : List UInt8) :
    decode (header.encode ++ rest) = header := by
  simp [decode, encode, IPv4Address.bytes, List.append_assoc]

end IPv4Header

/-- `udphdr`. -/
structure UdpHeader where
  portSrc : UInt16
  portDst : UInt16
  length : UInt16
  headerChecksum : UInt16
  deriving DecidableEq, Repr

namespace UdpHeader

def encode (header : UdpHeader) : List UInt8 :=
  word16 header.portSrc ++ word16 header.portDst ++ word16 header.length ++
    word16 header.headerChecksum

def decode (data : List UInt8) : UdpHeader where
  portSrc := read16 data 0
  portDst := read16 data 2
  length := read16 data 4
  headerChecksum := read16 data 6

@[simp] theorem encode_length (header : UdpHeader) : header.encode.length = 8 := rfl

theorem decode_encode (header : UdpHeader) (rest : List UInt8) :
    decode (header.encode ++ rest) = header := by
  simp [decode, encode, List.append_assoc]

end UdpHeader

/-- `tcphdr`, one field for each flag bit. -/
structure TcpHeader where
  portSrc : UInt16
  portDst : UInt16
  sequenceNumber : UInt32
  ackNumber : UInt32
  reserved : Fin 16
  dataOffset : Fin 16
  finFlag : Bool
  synFlag : Bool
  rstFlag : Bool
  pshFlag : Bool
  ackFlag : Bool
  urgFlag : Bool
  eceFlag : Bool
  cwrFlag : Bool
  windowSize : UInt16
  headerChecksum : UInt16
  urgentPointer : UInt16
  deriving DecidableEq, Repr

namespace TcpHeader

/-- The byte the eight flag bits share, `finFlag` lowest. -/
def flagByte (header : TcpHeader) : UInt8 :=
  UInt8.ofNat (header.finFlag.toNat + header.synFlag.toNat * 2 + header.rstFlag.toNat * 4 +
    header.pshFlag.toNat * 8 + header.ackFlag.toNat * 16 + header.urgFlag.toNat * 32 +
    header.eceFlag.toNat * 64 + header.cwrFlag.toNat * 128)

def encode (header : TcpHeader) : List UInt8 :=
  word16 header.portSrc ++ word16 header.portDst ++ word32 header.sequenceNumber ++
    word32 header.ackNumber ++
    [nibbles header.dataOffset header.reserved, header.flagByte] ++
    word16 header.windowSize ++ word16 header.headerChecksum ++ word16 header.urgentPointer

def decode (data : List UInt8) : TcpHeader where
  portSrc := read16 data 0
  portDst := read16 data 2
  sequenceNumber := read32 data 4
  ackNumber := read32 data 8
  reserved := lowNibble (byteAt data 12)
  dataOffset := highNibble (byteAt data 12)
  finFlag := (byteAt data 13).toNat.testBit 0
  synFlag := (byteAt data 13).toNat.testBit 1
  rstFlag := (byteAt data 13).toNat.testBit 2
  pshFlag := (byteAt data 13).toNat.testBit 3
  ackFlag := (byteAt data 13).toNat.testBit 4
  urgFlag := (byteAt data 13).toNat.testBit 5
  eceFlag := (byteAt data 13).toNat.testBit 6
  cwrFlag := (byteAt data 13).toNat.testBit 7
  windowSize := read16 data 14
  headerChecksum := read16 data 16
  urgentPointer := read16 data 18

@[simp] theorem encode_length (header : TcpHeader) : header.encode.length = 20 := rfl

private theorem flags_read (header : TcpHeader) :
    header.flagByte.toNat.testBit 0 = header.finFlag ∧
      header.flagByte.toNat.testBit 1 = header.synFlag ∧
      header.flagByte.toNat.testBit 2 = header.rstFlag ∧
      header.flagByte.toNat.testBit 3 = header.pshFlag ∧
      header.flagByte.toNat.testBit 4 = header.ackFlag ∧
      header.flagByte.toNat.testBit 5 = header.urgFlag ∧
      header.flagByte.toNat.testBit 6 = header.eceFlag ∧
      header.flagByte.toNat.testBit 7 = header.cwrFlag := by
  have allFlags : ∀ fin syn rst psh ack urg ece cwr : Bool,
      let byte := UInt8.ofNat (fin.toNat + syn.toNat * 2 + rst.toNat * 4 + psh.toNat * 8 +
        ack.toNat * 16 + urg.toNat * 32 + ece.toNat * 64 + cwr.toNat * 128)
      byte.toNat.testBit 0 = fin ∧ byte.toNat.testBit 1 = syn ∧ byte.toNat.testBit 2 = rst ∧
        byte.toNat.testBit 3 = psh ∧ byte.toNat.testBit 4 = ack ∧ byte.toNat.testBit 5 = urg ∧
        byte.toNat.testBit 6 = ece ∧ byte.toNat.testBit 7 = cwr := by
    decide
  exact allFlags _ _ _ _ _ _ _ _

theorem decode_encode (header : TcpHeader) (rest : List UInt8) :
    decode (header.encode ++ rest) = header := by
  obtain ⟨finRead, synRead, rstRead, pshRead, ackRead, urgRead, eceRead, cwrRead⟩ :=
    flags_read header
  simp [decode, encode, List.append_assoc, -Nat.testBit_zero, finRead, synRead, rstRead, pshRead,
    ackRead, urgRead, eceRead, cwrRead]

end TcpHeader

/-- A well-formed IPv4 packet that is not a fragment: neither the
more-fragments bit nor an offset is set, and the header's lengths are those of
the bytes. -/
structure IPv4Packet where
  header : IPv4Header
  options : List UInt8
  body : List UInt8
  version : header.ipVersion = 4
  headerLength : 20 + options.length = 4 * header.internetHeaderLength.val
  totalLength : header.totalLength.toNat = 20 + options.length + body.length
  unfragmented : header.fragmentOffset.toNat % 0x4000 = 0

def IPv4Packet.bytes (packet : IPv4Packet) : List UInt8 :=
  packet.header.encode ++ packet.options ++ packet.body

theorem IPv4Packet.decode_bytes (packet : IPv4Packet) :
    IPv4Header.decode packet.bytes = packet.header := by
  rw [bytes, List.append_assoc, IPv4Header.decode_encode]

/-- The header's own length field tells where the body begins. -/
theorem IPv4Packet.drop_header (packet : IPv4Packet) :
    packet.bytes.drop (4 * packet.header.internetHeaderLength.val) = packet.body := by
  rw [← packet.headerLength]
  exact List.drop_left' (by simp)

/-- An IPv4 packet whose body is a UDP header and its payload. -/
structure UdpPacket extends IPv4Packet where
  udp : UdpHeader
  payload : List UInt8
  carriesUdp : header.protocol = 17
  udpBody : body = udp.encode ++ payload
  udpLength : udp.length.toNat = 8 + payload.length

/-- An IPv4 packet whose body is a TCP header, its options and its payload. -/
structure TcpPacket extends IPv4Packet where
  tcp : TcpHeader
  tcpOptions : List UInt8
  payload : List UInt8
  carriesTcp : header.protocol = 6
  tcpBody : body = tcp.encode ++ tcpOptions ++ payload
  tcpOffset : 20 + tcpOptions.length = 4 * tcp.dataOffset.val

theorem UdpPacket.decode_body (packet : UdpPacket) : UdpHeader.decode packet.body = packet.udp := by
  rw [packet.udpBody, UdpHeader.decode_encode]

theorem UdpPacket.drop_udpHeader (packet : UdpPacket) : packet.body.drop 8 = packet.payload := by
  rw [packet.udpBody]
  exact List.drop_left' (by simp)

theorem TcpPacket.decode_body (packet : TcpPacket) : TcpHeader.decode packet.body = packet.tcp := by
  rw [packet.tcpBody, List.append_assoc, TcpHeader.decode_encode]

theorem TcpPacket.drop_tcpHeader (packet : TcpPacket) :
    packet.body.drop (4 * packet.tcp.dataOffset.val) = packet.payload := by
  rw [packet.tcpBody, ← packet.tcpOffset]
  exact List.drop_left' (by simp)

/-! Packets as a kernel sends them: no options, not to be fragmented. -/

def IPv4Header.plain (protocol : UInt8) (src dst : IPv4Address) (bodyLength : Nat) : IPv4Header where
  ipVersion := 4
  internetHeaderLength := 5
  typeOfService := 0
  totalLength := UInt16.ofNat (20 + bodyLength)
  ipId := 0
  fragmentOffset := 0x4000
  timeToLive := 64
  protocol := protocol
  headerChecksum := 0
  ipSrc := src
  ipDst := dst

theorem IPv4Header.plain_unfragmented (protocol : UInt8) (src dst : IPv4Address) (bodyLength : Nat) :
    (plain protocol src dst bodyLength).fragmentOffset.toNat % 0x4000 = 0 := by
  change (0x4000 : UInt16).toNat % 0x4000 = 0
  decide

def UdpHeader.plain (portSrc portDst : UInt16) (payloadLength : Nat) : UdpHeader where
  portSrc := portSrc
  portDst := portDst
  length := UInt16.ofNat (8 + payloadLength)
  headerChecksum := 0

def UdpPacket.plain (src : IPv4Address) (portSrc : UInt16) (dst : IPv4Address) (portDst : UInt16)
    (payload : List UInt8) (fits : payload.length ≤ 65507) : UdpPacket where
  header := .plain 17 src dst (8 + payload.length)
  options := []
  udp := .plain portSrc portDst payload.length
  payload := payload
  body := (UdpHeader.plain portSrc portDst payload.length).encode ++ payload
  version := rfl
  headerLength := rfl
  totalLength := by
    simp only [IPv4Header.plain, UInt16.toNat_ofNat', List.length_append, List.length_nil,
      UdpHeader.encode_length]
    omega
  unfragmented := IPv4Header.plain_unfragmented _ _ _ _
  carriesUdp := rfl
  udpBody := rfl
  udpLength := by
    simp only [UdpHeader.plain, UInt16.toNat_ofNat']
    omega

/-- A TCP packet with the given numbers and the flags the forwarder looks at. -/
def TcpHeader.plain (portSrc portDst : UInt16) (sequenceNumber ackNumber : UInt32)
    (synFlag ackFlag finFlag : Bool) : TcpHeader where
  portSrc := portSrc
  portDst := portDst
  sequenceNumber := sequenceNumber
  ackNumber := ackNumber
  reserved := 0
  dataOffset := 5
  finFlag := finFlag
  synFlag := synFlag
  rstFlag := false
  pshFlag := false
  ackFlag := ackFlag
  urgFlag := false
  eceFlag := false
  cwrFlag := false
  windowSize := 65535
  headerChecksum := 0
  urgentPointer := 0

def TcpPacket.plain (src dst : IPv4Address) (tcp : TcpHeader) (payload : List UInt8)
    (offset : tcp.dataOffset = 5) (fits : payload.length ≤ 65495) : TcpPacket where
  header := .plain 6 src dst (20 + payload.length)
  options := []
  tcp := tcp
  tcpOptions := []
  payload := payload
  body := tcp.encode ++ [] ++ payload
  version := rfl
  headerLength := rfl
  totalLength := by
    simp only [IPv4Header.plain, UInt16.toNat_ofNat', List.length_append, List.length_nil,
      TcpHeader.encode_length]
    omega
  unfragmented := IPv4Header.plain_unfragmented _ _ _ _
  carriesTcp := rfl
  tcpBody := rfl
  tcpOffset := by
    rw [offset]
    rfl

end FirewallVpn
