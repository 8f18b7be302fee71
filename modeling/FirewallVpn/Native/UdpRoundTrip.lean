import FirewallVpn.Native.RoundTrip

/-! The UDP builders of `firewallapp.cpp`, and when the bytes of a builder are a
packet at all: the length fields have 16 bits. -/

set_option autoImplicit false

namespace FirewallVpn

/-- The builder without a declaration on the Kotlin side. -/
def buildIpv4UdpPacketNative (pcpp : PcapPlusPlus) (srcIp dstIp : String) (srcPort dstPort : Int)
    (payload : List UInt8) : Option (List UInt8) := do
  let srcAdd ← IPv4Address.ofString srcIp
  let dstAdd ← IPv4Address.ofString dstIp
  return pcpp.udpBytes (newIPv4Layer srcAdd dstAdd 17) (newUdpLayer srcPort dstPort) payload

/-!
## The packet a UDP builder lays out
-/

section Layout

variable (pcpp : PcapPlusPlus) (ip : IPv4Header) (udp : UdpHeader) (payload : List UInt8)

theorem computeIPv4_udpLength (fits : payload.length ≤ 65507) :
    (pcpp.computeIPv4 ip (8 + payload.length)).totalLength.toNat =
      20 + ([] : List UInt8).length + ((pcpp.computeUdp ip udp payload).encode ++ payload).length := by
  simp only [PcapPlusPlus.computeIPv4, UInt16.toNat_ofNat', List.length_append, List.length_nil,
    UdpHeader.encode_length]
  omega

theorem computeUdp_length (fits : payload.length ≤ 65507) :
    (pcpp.computeUdp ip udp payload).length.toNat = 8 + payload.length := by
  simp only [PcapPlusPlus.computeUdp, UInt16.toNat_ofNat']
  omega

def PcapPlusPlus.udpPacket (carriesUdp : ip.protocol = 17) (unfragmented : ip.fragmentOffset = 0)
    (fits : payload.length ≤ 65507) : UdpPacket where
  header := pcpp.computeIPv4 ip (8 + payload.length)
  options := []
  udp := pcpp.computeUdp ip udp payload
  payload := payload
  body := (pcpp.computeUdp ip udp payload).encode ++ payload
  version := rfl
  headerLength := computeIPv4_withoutOptions pcpp ip (8 + payload.length)
  totalLength := computeIPv4_udpLength pcpp ip udp payload fits
  unfragmented := by
    simp only [PcapPlusPlus.computeIPv4, unfragmented]
    rfl
  carriesUdp := carriesUdp
  udpBody := rfl
  udpLength := computeUdp_length pcpp ip udp payload fits

theorem PcapPlusPlus.udpPacket_bytes (carriesUdp : ip.protocol = 17)
    (unfragmented : ip.fragmentOffset = 0) (fits : payload.length ≤ 65507) :
    (pcpp.udpPacket ip udp payload carriesUdp unfragmented fits).bytes = pcpp.udpBytes ip udp payload := by
  simp only [IPv4Packet.bytes, udpPacket, udpBytes, List.append_nil]

end Layout

theorem IPv4Packet.length_bytes (packet : IPv4Packet) :
    packet.bytes.length = packet.header.totalLength.toNat := by
  simp only [bytes, List.length_append, IPv4Header.encode_length, packet.totalLength]

private theorem udpBytes_totalLength {pcpp : PcapPlusPlus} {ip : IPv4Header} {udp : UdpHeader}
    {payload : List UInt8} {packet : IPv4Packet} (same : packet.bytes = pcpp.udpBytes ip udp payload) :
    payload.length ≤ 65507 := by
  have long := packet.length_bytes
  have small := packet.header.totalLength.toNat_lt
  rw [same] at long
  simp only [PcapPlusPlus.udpBytes, List.length_append, IPv4Header.encode_length,
    UdpHeader.encode_length] at long
  omega

private theorem tcpBytes_totalLength {pcpp : PcapPlusPlus} {ip : IPv4Header} {tcp : TcpHeader}
    {payload : List UInt8} {packet : IPv4Packet} (same : packet.bytes = pcpp.tcpBytes ip tcp payload) :
    payload.length ≤ 65495 := by
  have long := packet.length_bytes
  have small := packet.header.totalLength.toNat_lt
  rw [same] at long
  simp only [PcapPlusPlus.tcpBytes, List.length_append, IPv4Header.encode_length,
    TcpHeader.encode_length] at long
  omega

/-!
## What the builders return
-/

theorem buildUdpResponsePacket_eq {pcpp : PcapPlusPlus} {payload packet : List UInt8}
    {srcIp dstIp : String} {srcPort dstPort : Int}
    (built : buildUdpResponsePacket pcpp payload srcIp srcPort dstIp dstPort = some packet) :
    ∃ src dst, packet = pcpp.udpBytes (newIPv4Layer src dst 17) (newUdpLayer srcPort dstPort) payload := by
  simp only [buildUdpResponsePacket, Option.bind_eq_bind, Option.bind_eq_some_iff, Option.pure_def,
    Option.some.injEq] at built
  obtain ⟨src, -, dst, -, rfl⟩ := built
  exact ⟨src, dst, rfl⟩

theorem buildTcpResponsePacket_eq {pcpp : PcapPlusPlus} {payload packet : List UInt8}
    {srcIp dstIp : String} {srcPort dstPort : Int}
    (built : buildTcpResponsePacket pcpp payload srcIp srcPort dstIp dstPort = some packet) :
    ∃ src dst tcp, tcp.dataOffset = 5 ∧ tcp.flags = TCP_PSH ||| TCP_ACK ∧
      packet = pcpp.tcpBytes (newIPv4Layer src dst 6) tcp payload := by
  simp only [buildTcpResponsePacket, Option.bind_eq_bind, Option.bind_eq_some_iff, Option.pure_def,
    Option.some.injEq] at built
  obtain ⟨src, -, dst, -, rfl⟩ := built
  exact ⟨src, dst, _, rfl, by simp [TcpHeader.flags, newTcpLayer, TCP_PSH, TCP_ACK], rfl⟩

theorem buildTcpPacket_eq {pcpp : PcapPlusPlus} {payload : Option (List UInt8)} {packet : List UInt8}
    {srcIp dstIp : String} {srcPort dstPort flags seqNum ackNum : Int}
    (built : buildTcpPacket pcpp srcIp dstIp srcPort dstPort flags seqNum ackNum payload = some packet) :
    ∃ src dst tcp, tcp.dataOffset = 5 ∧ tcp.flags = (UInt32.ofInt flags &&& 0x3F).toNat ∧
      packet = pcpp.tcpBytes (newIPv4Layer src dst 6) tcp (payload.getD []) := by
  simp only [buildTcpPacket, Option.bind_eq_bind, Option.bind_eq_some_iff, Option.pure_def,
    Option.some.injEq] at built
  obtain ⟨src, -, dst, -, rfl⟩ := built
  exact ⟨src, dst, _, rfl, flags_of_hasFlag flags rfl rfl rfl rfl rfl rfl, rfl⟩

/-- What a builder returns is a well-formed packet exactly as long as its length fits
the field of the IPv4 header; nothing checks it. -/
theorem built_wellFormed_iff (pcpp : PcapPlusPlus) (payload packet : List UInt8) (srcIp dstIp : String)
    (srcPort dstPort : Int) :
    (buildUdpResponsePacket pcpp payload srcIp srcPort dstIp dstPort = some packet →
      ((∃ udp : UdpPacket, udp.bytes = packet ∧ udp.payload = payload) ↔ payload.length ≤ 65507)) ∧
    (buildTcpResponsePacket pcpp payload srcIp srcPort dstIp dstPort = some packet →
      ((∃ tcp : TcpPacket, tcp.bytes = packet ∧ tcp.payload = payload) ↔ payload.length ≤ 65495)) ∧
    ∀ flags seqNum ackNum,
      buildTcpPacket pcpp srcIp dstIp srcPort dstPort flags seqNum ackNum (some payload) = some packet →
      ((∃ tcp : TcpPacket, tcp.bytes = packet ∧ tcp.payload = payload) ↔ payload.length ≤ 65495) := by
  refine ⟨fun built => ?_, fun built => ?_, fun flags seqNum ackNum built => ?_⟩
  · obtain ⟨src, dst, rfl⟩ := buildUdpResponsePacket_eq built
    constructor
    · intro built
      obtain ⟨udp, same, -⟩ := built
      exact udpBytes_totalLength same
    · intro fits
      exact ⟨_, PcapPlusPlus.udpPacket_bytes pcpp _ _ _ rfl rfl fits, rfl⟩
  · obtain ⟨src, dst, tcp, offset, -, rfl⟩ := buildTcpResponsePacket_eq built
    constructor
    · intro built
      obtain ⟨tcp, same, -⟩ := built
      exact tcpBytes_totalLength same
    · intro fits
      exact ⟨_, PcapPlusPlus.tcpPacket_bytes pcpp _ _ _ rfl rfl offset fits, rfl⟩
  · obtain ⟨src, dst, tcp, offset, -, rfl⟩ := buildTcpPacket_eq built
    constructor
    · intro built
      obtain ⟨tcp, same, -⟩ := built
      exact tcpBytes_totalLength same
    · intro fits
      exact ⟨_, PcapPlusPlus.tcpPacket_bytes pcpp _ _ _ rfl rfl offset fits, rfl⟩

theorem reply_wellFormed :
    (∃ udp : UdpPacket, buildUdpResponsePacket .headerRules [0x6F, 0x6B] "93.184.216.34" 9000 "10.0.0.2"
        40000 = some udp.bytes ∧ udp.payload = [0x6F, 0x6B]) ∧
    (∃ tcp : TcpPacket, buildTcpResponsePacket .headerRules [0x6F, 0x6B] "93.184.216.34" 443 "10.0.0.2"
        40000 = some tcp.bytes ∧ tcp.payload = [0x6F, 0x6B]) ∧
    ∃ tcp : TcpPacket, buildTcpPacket .headerRules "93.184.216.34" "10.0.0.2" 443 40000 0x18 1 1
        (some [0x6F, 0x6B]) = some tcp.bytes ∧ tcp.payload = [0x6F, 0x6B] := by
  have udpBuilt : (buildUdpResponsePacket .headerRules [0x6F, 0x6B] "93.184.216.34" 9000 "10.0.0.2"
      40000).isSome := by decide +kernel
  have dataBuilt : (buildTcpResponsePacket .headerRules [0x6F, 0x6B] "93.184.216.34" 443 "10.0.0.2"
      40000).isSome := by decide +kernel
  have tcpBuilt : (buildTcpPacket .headerRules "93.184.216.34" "10.0.0.2" 443 40000 0x18 1 1
      (some [0x6F, 0x6B])).isSome := by decide +kernel
  obtain ⟨udpBytes, udpBuilt⟩ := Option.isSome_iff_exists.mp udpBuilt
  obtain ⟨dataBytes, dataBuilt⟩ := Option.isSome_iff_exists.mp dataBuilt
  obtain ⟨tcpBytes, tcpBuilt⟩ := Option.isSome_iff_exists.mp tcpBuilt
  obtain ⟨udp, rfl, carried⟩ :=
    ((built_wellFormed_iff .headerRules _ udpBytes _ _ _ _).1 udpBuilt).mpr (by decide)
  obtain ⟨data, rfl, dataCarried⟩ :=
    ((built_wellFormed_iff .headerRules _ dataBytes _ _ _ _).2.1 dataBuilt).mpr (by decide)
  obtain ⟨tcp, rfl, tcpCarried⟩ :=
    ((built_wellFormed_iff .headerRules _ tcpBytes _ _ _ _).2.2 _ _ _ tcpBuilt).mpr (by decide)
  exact ⟨⟨udp, udpBuilt, carried⟩, ⟨data, dataBuilt, dataCarried⟩, tcp, tcpBuilt, tcpCarried⟩

/-!
## Decoding what a UDP builder has made
-/

theorem parseRealPacket_udp {pcpp : PcapPlusPlus} (documented : pcpp.Documented) (packet : UdpPacket)
    (unrecognised : pcpp.recognizesUdp packet.udp.portSrc packet.udp.portDst packet.payload = false)
    (trailing : List UInt8) (timeStamp : String) :
    parseRealPacket pcpp (packet.bytes ++ trailing) packet.bytes.length timeStamp =
      { appName := "Unknown", protocol := .ipv4, protocolByte := .udp
        srcIp := packet.header.ipSrc.toString, srcPort := packet.udp.portSrc.toNat
        dstIp := packet.header.ipDst.toString, dstPort := packet.udp.portDst.toNat, timeStamp } := by
  obtain ⟨application, chain, next⟩ := documented.udpLayers packet
  have noTcp : getLayerOfType Layer.asTcp application = none := by
    rw [unrecognised] at next
    unfold ApplicationLayers at next
    split at next
    · rw [next]
      rfl
    · simp only [Bool.false_eq_true, if_false] at next
      rw [next]
      rfl
  simp only [parseRealPacket, List.take_left, chain, getLayerOfType, Layer.asIPv4, Layer.asTcp, noTcp,
    Layer.asUdp, packet.decode_bytes, packet.decode_body]

/-- Addresses, ports and payload survive the way through the bytes, unless the library
takes the payload for that of a protocol it knows; both UDP builders make the same
packet. -/
theorem buildUdpResponsePacket_roundTrip {pcpp : PcapPlusPlus} (documented : pcpp.Documented)
    (src dst : IPv4Address) (srcPort dstPort : UInt16) (payload : List UInt8)
    (fits : payload.length ≤ 65507) (trailing : List UInt8) (timeStamp : String) :
    ∃ packet, buildUdpResponsePacket pcpp payload src.toString srcPort.toNat dst.toString
        dstPort.toNat = some packet ∧
      buildIpv4UdpPacketNative pcpp src.toString dst.toString srcPort.toNat dstPort.toNat payload =
        some packet ∧
      extractUdpPayload pcpp (packet ++ trailing) packet.length =
        (if payload = [] ∨ pcpp.recognizesUdp srcPort dstPort payload then none else some payload) ∧
      (pcpp.recognizesUdp srcPort dstPort payload = false →
        parseRealPacket pcpp (packet ++ trailing) packet.length timeStamp =
          { appName := "Unknown", protocol := .ipv4, protocolByte := .udp
            srcIp := src.toString, srcPort := srcPort.toNat
            dstIp := dst.toString, dstPort := dstPort.toNat, timeStamp }) := by
  let built := pcpp.udpPacket (newIPv4Layer src dst 17) (newUdpLayer srcPort.toNat dstPort.toNat) payload
    rfl rfl fits
  have laidOut : built.bytes = pcpp.udpBytes (newIPv4Layer src dst 17)
      (newUdpLayer srcPort.toNat dstPort.toNat) payload := PcapPlusPlus.udpPacket_bytes ..
  have portSrc : built.udp.portSrc = srcPort := port_ofInt srcPort
  have portDst : built.udp.portDst = dstPort := port_ofInt dstPort
  refine ⟨built.bytes, ?_, ?_, ?_, fun unrecognised => ?_⟩
  · rw [laidOut]
    simp only [buildUdpResponsePacket, IPv4Address.ofString_toString, Option.bind_eq_bind,
      Option.bind_some]
    rfl
  · rw [laidOut]
    simp only [buildIpv4UdpPacketNative, IPv4Address.ofString_toString, Option.bind_eq_bind,
      Option.bind_some]
    rfl
  · rw [extractUdpPayload_eq documented, portSrc, portDst]
    rfl
  · rw [parseRealPacket_udp documented _ (by rw [portSrc, portDst]; exact unrecognised), portSrc, portDst]
    rfl

theorem buildUdpResponsePacket_roundTrip_reply :
    ∃ packet, buildUdpResponsePacket .headerRules [0x6F, 0x6B] (IPv4Address.toString ⟨93, 184, 216, 34⟩)
        (9000 : UInt16).toNat (IPv4Address.toString ⟨10, 0, 0, 2⟩) (40000 : UInt16).toNat = some packet ∧
      extractUdpPayload .headerRules (packet ++ [0]) packet.length = some [0x6F, 0x6B] := by
  obtain ⟨packet, built, -, extracted, -⟩ :=
    buildUdpResponsePacket_roundTrip PcapPlusPlus.headerRules_documented ⟨93, 184, 216, 34⟩
      ⟨10, 0, 0, 2⟩ 9000 40000 [0x6F, 0x6B] (by decide) [0] "01/01/2025 00:00:00"
  exact ⟨packet, built, extracted.trans (by decide)⟩

end FirewallVpn
