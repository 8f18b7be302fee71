import FirewallVpn.Native.Builder
import FirewallVpn.Native.Extraction

/-! The two halves of `firewallapp.cpp` meet in the bytes of a packet: what
`buildTcpPacket` lays out is a well-formed TCP packet, and the decoding functions
read the arguments back from it. -/

set_option autoImplicit false

namespace FirewallVpn

/-!
## Decoding a well-formed TCP packet
-/

/-- What `parseRealPacket` says of a TCP packet, whatever follows it in the buffer. -/
theorem parseRealPacket_eq {pcpp : PcapPlusPlus} (documented : pcpp.Documented) (packet : TcpPacket)
    (trailing : List UInt8) (timeStamp : String) :
    parseRealPacket pcpp (packet.bytes ++ trailing) packet.bytes.length timeStamp =
      { appName := "Unknown", protocol := .ipv4, protocolByte := .tcp
        srcIp := packet.header.ipSrc.toString, srcPort := packet.tcp.portSrc.toNat
        dstIp := packet.header.ipDst.toString, dstPort := packet.tcp.portDst.toNat, timeStamp } := by
  obtain ⟨application, chain, -⟩ := documented.tcpLayers packet
  simp only [parseRealPacket, List.take_left, chain, getLayerOfType, Layer.asIPv4, Layer.asTcp,
    packet.decode_bytes, packet.decode_body]

theorem ipBody_bytes (packet : IPv4Packet) : ipBody packet.bytes = packet.body := by
  rw [ipBody, packet.decode_bytes, packet.drop_header]

/-!
## The packet a builder lays out
-/

section Layout

variable (pcpp : PcapPlusPlus) (ip : IPv4Header) (tcp : TcpHeader) (payload : List UInt8)

theorem computeIPv4_withoutOptions (bodyLength : Nat) :
    20 + ([] : List UInt8).length = 4 * (pcpp.computeIPv4 ip bodyLength).internetHeaderLength.val := rfl

theorem computeIPv4_totalLength (fits : payload.length ≤ 65495) :
    (pcpp.computeIPv4 ip (20 + payload.length)).totalLength.toNat =
      20 + ([] : List UInt8).length +
        ((pcpp.computeTcp ip tcp payload).encode ++ [] ++ payload).length := by
  simp only [PcapPlusPlus.computeIPv4, UInt16.toNat_ofNat', List.length_append, List.length_nil,
    TcpHeader.encode_length]
  omega

theorem computeTcp_withoutOptions (noOptions : tcp.dataOffset = 5) :
    20 + ([] : List UInt8).length = 4 * (pcpp.computeTcp ip tcp payload).dataOffset.val := by
  simp only [PcapPlusPlus.computeTcp, noOptions]
  rfl

/-- The packet of an IPv4 layer just made, a TCP layer without options and a payload. -/
def PcapPlusPlus.tcpPacket (carriesTcp : ip.protocol = 6) (unfragmented : ip.fragmentOffset = 0)
    (noOptions : tcp.dataOffset = 5) (fits : payload.length ≤ 65495) : TcpPacket where
  header := pcpp.computeIPv4 ip (20 + payload.length)
  options := []
  tcp := pcpp.computeTcp ip tcp payload
  tcpOptions := []
  payload := payload
  body := (pcpp.computeTcp ip tcp payload).encode ++ [] ++ payload
  version := rfl
  headerLength := computeIPv4_withoutOptions pcpp ip (20 + payload.length)
  totalLength := computeIPv4_totalLength pcpp ip tcp payload fits
  unfragmented := by
    simp only [PcapPlusPlus.computeIPv4, unfragmented]
    rfl
  carriesTcp := carriesTcp
  tcpBody := rfl
  tcpOffset := computeTcp_withoutOptions pcpp ip tcp payload noOptions

theorem PcapPlusPlus.tcpPacket_bytes (carriesTcp : ip.protocol = 6)
    (unfragmented : ip.fragmentOffset = 0) (noOptions : tcp.dataOffset = 5)
    (fits : payload.length ≤ 65495) :
    (pcpp.tcpPacket ip tcp payload carriesTcp unfragmented noOptions fits).bytes =
      pcpp.tcpBytes ip tcp payload := by
  simp only [IPv4Packet.bytes, tcpPacket, tcpBytes, List.append_nil]

end Layout

/-!
## Flags
-/

private theorem hasFlag_low (flags : Int) {mask : UInt32} (inside : 0x3F &&& mask = mask) :
    hasFlag flags mask = decide ((UInt32.ofInt flags &&& 0x3F) &&& mask ≠ 0) := by
  rw [hasFlag, UInt32.and_assoc, inside]

/-- The six bits that one side sets one by one and the other collects one by one. -/
theorem flags_of_hasFlag (flags : Int) {tcp : TcpHeader} (fin : tcp.finFlag = hasFlag flags 0x01)
    (syn : tcp.synFlag = hasFlag flags 0x02) (rst : tcp.rstFlag = hasFlag flags 0x04)
    (psh : tcp.pshFlag = hasFlag flags 0x08) (ack : tcp.ackFlag = hasFlag flags 0x10)
    (urg : tcp.urgFlag = hasFlag flags 0x20) :
    tcp.flags = (UInt32.ofInt flags &&& 0x3F).toNat := by
  have collected : ∀ low : Fin 64,
      let bits := UInt32.ofNat low.val
      (if decide (bits &&& 0x01 ≠ 0) then TCP_FIN else 0) |||
        (if decide (bits &&& 0x02 ≠ 0) then TCP_SYN else 0) |||
        (if decide (bits &&& 0x04 ≠ 0) then TCP_RST else 0) |||
        (if decide (bits &&& 0x08 ≠ 0) then TCP_PSH else 0) |||
        (if decide (bits &&& 0x10 ≠ 0) then TCP_ACK else 0) |||
        (if decide (bits &&& 0x20 ≠ 0) then TCP_URG else 0) = bits.toNat := by
    decide +kernel
  have small : (UInt32.ofInt flags &&& 0x3F).toNat < 64 := by
    rw [UInt32.toNat_and]
    exact Nat.lt_of_le_of_lt Nat.and_le_right (by decide)
  have bits := collected ⟨(UInt32.ofInt flags &&& 0x3F).toNat, small⟩
  simp only [UInt32.ofNat_toNat] at bits
  rw [TcpHeader.flags, fin, syn, rst, psh, ack, urg, hasFlag_low flags (by decide),
    hasFlag_low flags (by decide), hasFlag_low flags (by decide), hasFlag_low flags (by decide),
    hasFlag_low flags (by decide), hasFlag_low flags (by decide)]
  exact bits

/-!
## The round trip
-/

/-- The header `buildTcpPacket` fills in. -/
def filledHeader (srcPort dstPort : UInt16) (flags seqNum ackNum : Int) : TcpHeader :=
  { newTcpLayer srcPort.toNat dstPort.toNat with
    finFlag := hasFlag flags 0x01, synFlag := hasFlag flags 0x02, rstFlag := hasFlag flags 0x04
    pshFlag := hasFlag flags 0x08, ackFlag := hasFlag flags 0x10, urgFlag := hasFlag flags 0x20
    sequenceNumber := UInt32.ofInt seqNum, ackNumber := UInt32.ofInt ackNum, windowSize := 65535 }

/-- Addresses, ports, flags and numbers survive the way through the bytes: the
flags but for the bits above URG, the numbers as 32-bit words. -/
theorem buildTcpPacket_roundTrip {pcpp : PcapPlusPlus} (documented : pcpp.Documented)
    (src dst : IPv4Address) (srcPort dstPort : UInt16) (flags seqNum ackNum : Int)
    (payload : Option (List UInt8)) (fits : (payload.getD []).length ≤ 65495)
    (trailing : List UInt8) (timeStamp : String) :
    ∃ packet, buildTcpPacket pcpp src.toString dst.toString srcPort.toNat dstPort.toNat flags seqNum
        ackNum payload = some packet ∧
      parseRealPacket pcpp (packet ++ trailing) packet.length timeStamp =
        { appName := "Unknown", protocol := .ipv4, protocolByte := .tcp
          srcIp := src.toString, srcPort := srcPort.toNat
          dstIp := dst.toString, dstPort := dstPort.toNat, timeStamp } ∧
      getTcpFlags pcpp (packet ++ trailing) packet.length = (UInt32.ofInt flags &&& 0x3F).toNat ∧
      ((tcpSequence packet).toNat : Int) = seqNum % 2 ^ 32 ∧
      ((tcpAcknowledgement packet).toNat : Int) = ackNum % 2 ^ 32 := by
  let built := pcpp.tcpPacket (newIPv4Layer src dst 6)
    (filledHeader srcPort dstPort flags seqNum ackNum) (payload.getD []) rfl rfl rfl fits
  have laidOut : buildTcpPacket pcpp src.toString dst.toString srcPort.toNat dstPort.toNat flags
      seqNum ackNum payload = some built.bytes := by
    rw [show built.bytes = _ from PcapPlusPlus.tcpPacket_bytes ..]
    simp only [buildTcpPacket, IPv4Address.ofString_toString, Option.bind_eq_bind, Option.bind_some]
    rfl
  have portSrc : built.tcp.portSrc = srcPort := port_ofInt srcPort
  have portDst : built.tcp.portDst = dstPort := port_ofInt dstPort
  have numbers : (TcpHeader.decode (ipBody built.bytes)) = built.tcp := by
    rw [ipBody_bytes, built.decode_body]
  refine ⟨built.bytes, laidOut, ?_, ?_, ?_, ?_⟩
  · rw [parseRealPacket_eq documented, portSrc, portDst]
    rfl
  · rw [getTcpFlags_eq documented]
    exact flags_of_hasFlag flags rfl rfl rfl rfl rfl rfl
  · rw [tcpSequence, numbers]
    exact number_ofInt seqNum
  · rw [tcpAcknowledgement, numbers]
    exact number_ofInt ackNum

/-- A flag argument with a bit above URG, and numbers outside the 32-bit range. -/
theorem buildTcpPacket_roundTrip_wrapped :
    ∃ packet, buildTcpPacket .headerRules (IPv4Address.toString ⟨93, 184, 216, 34⟩)
        (IPv4Address.toString ⟨10, 0, 0, 2⟩) (443 : UInt16).toNat (40000 : UInt16).toNat 0x112
        4294967297 (-1) (some [0x68, 0x69]) = some packet ∧
      parseRealPacket .headerRules (packet ++ [0]) packet.length "01/01/2025 00:00:00" =
        { appName := "Unknown", protocol := .ipv4, protocolByte := .tcp
          srcIp := IPv4Address.toString ⟨93, 184, 216, 34⟩, srcPort := (443 : UInt16).toNat
          dstIp := IPv4Address.toString ⟨10, 0, 0, 2⟩, dstPort := (40000 : UInt16).toNat
          timeStamp := "01/01/2025 00:00:00" } ∧
      getTcpFlags .headerRules (packet ++ [0]) packet.length =
        (UInt32.ofInt 0x112 &&& 0x3F).toNat ∧
      ((tcpSequence packet).toNat : Int) = 4294967297 % 2 ^ 32 ∧
      ((tcpAcknowledgement packet).toNat : Int) = -1 % 2 ^ 32 :=
  buildTcpPacket_roundTrip PcapPlusPlus.headerRules_documented ⟨93, 184, 216, 34⟩ ⟨10, 0, 0, 2⟩ 443
    40000 0x112 4294967297 (-1) (some [0x68, 0x69]) (by decide) [0] "01/01/2025 00:00:00"

end FirewallVpn
