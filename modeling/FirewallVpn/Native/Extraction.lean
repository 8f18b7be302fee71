import FirewallVpn.Native.Layer

/-! Which payloads the extraction functions hand to the forwarder. The result
hangs on the dynamic type of the layer behind UDP or TCP, that is on whether the
library recognises an application protocol there. -/

set_option autoImplicit false

namespace FirewallVpn

open NetworkOrder

private theorem getLayerOfType_append {cast : Layer → Option (List UInt8)}
    {leading next : List Layer} {layer : Layer} {data : List UInt8}
    (skipped : ∀ before ∈ leading, cast before = none) (found : cast layer = some data) :
    getLayerOfType cast (leading ++ layer :: next) = some (data, next) := by
  induction leading with
  | nil => simp only [List.nil_append, getLayerOfType, found]
  | cons before leading ih =>
      have absent := skipped before List.mem_cons_self
      simp only [List.cons_append, getLayerOfType, absent]
      exact ih fun other member => skipped other (List.mem_cons_of_mem _ member)

/-- A recognised protocol hides the payload; otherwise it is handed on whole. -/
private theorem extractPayload_of_layers {pcpp : PcapPlusPlus} {bytes data payload : List UInt8}
    {cast : Layer → Option (List UInt8)} {outer layer : Layer} {application : List Layer}
    {recognised : Bool} (trailing : List UInt8)
    (chain : pcpp.layers bytes = outer :: layer :: application)
    (skipped : cast outer = none) (found : cast layer = some data)
    (next : ApplicationLayers payload recognised application) :
    extractPayload pcpp (bytes ++ trailing) bytes.length cast =
      if payload = [] ∨ recognised then none else some payload := by
  have located : getLayerOfType cast (outer :: layer :: application) = some (data, application) :=
    getLayerOfType_append (List.forall_mem_singleton.mpr skipped) found
  simp only [extractPayload, List.take_left, chain, located]
  unfold ApplicationLayers at next
  split at next
  · next empty => simp [next, empty]
  · next nonempty =>
      cases recognised with
      | true =>
          simp only [if_true] at next
          simp [next]
      | false =>
          simp only [Bool.false_eq_true, if_false] at next
          simp [next, nonempty, Layer.asPayload]

theorem extractUdpPayload_eq {pcpp : PcapPlusPlus} (documented : pcpp.Documented)
    (packet : UdpPacket) (trailing : List UInt8) :
    extractUdpPayload pcpp (packet.bytes ++ trailing) packet.bytes.length =
      if packet.payload = [] ∨ pcpp.recognizesUdp packet.udp.portSrc packet.udp.portDst packet.payload
      then none else some packet.payload := by
  obtain ⟨application, chain, next⟩ := documented.udpLayers packet
  exact extractPayload_of_layers trailing chain rfl rfl next

theorem extractTcpPayload_eq {pcpp : PcapPlusPlus} (documented : pcpp.Documented)
    (packet : TcpPacket) (trailing : List UInt8) :
    extractTcpPayload pcpp (packet.bytes ++ trailing) packet.bytes.length =
      if packet.payload = [] ∨ pcpp.recognizesTcp packet.tcp.portSrc packet.tcp.portDst packet.payload
      then none else some packet.payload := by
  obtain ⟨application, chain, next⟩ := documented.tcpLayers packet
  exact extractPayload_of_layers trailing chain rfl rfl next

theorem getTcpFlags_eq {pcpp : PcapPlusPlus} (documented : pcpp.Documented) (packet : TcpPacket)
    (trailing : List UInt8) :
    getTcpFlags pcpp (packet.bytes ++ trailing) packet.bytes.length = packet.tcp.flags := by
  obtain ⟨application, chain, -⟩ := documented.tcpLayers packet
  have located : getLayerOfType Layer.asTcp (.ipv4 packet.bytes :: .tcp packet.body :: application) =
      some (packet.body, application) := rfl
  simp only [getTcpFlags, List.take_left, chain, located, packet.decode_body]

/-!
## The rules the headers print

The inline functions of the headers and nothing else: what `isDataValid` and
`getHeaderLen` decide for IPv4, UDP and TCP, and DNS as the one application
protocol. It stands in for the library where a concrete run is evaluated.
-/

namespace TcpLayer

def isDataValid (data : List UInt8) : Bool :=
  20 ≤ data.length ∧ 5 ≤ (TcpHeader.decode data).dataOffset.val ∧
    4 * (TcpHeader.decode data).dataOffset.val ≤ data.length

end TcpLayer

namespace HeaderRules

def recognizesUdp (portSrc portDst : UInt16) (payload : List UInt8) : Bool :=
  (DnsLayer.isDnsPort portSrc || DnsLayer.isDnsPort portDst) && DnsLayer.isDataValid payload

def afterUdp (data : List UInt8) : List Layer :=
  let payload := data.drop 8
  if payload = [] then []
  else if recognizesUdp (UdpHeader.decode data).portSrc (UdpHeader.decode data).portDst payload then
    [.other 13 payload]
  else [.payload payload]

def afterTcp (data : List UInt8) : List Layer :=
  let payload := data.drop (4 * (TcpHeader.decode data).dataOffset.val)
  if payload = [] then [] else [.payload payload]

def afterIPv4 (header : IPv4Header) (body : List UInt8) : List Layer :=
  if body = [] then []
  else if header.fragmentOffset.toNat % 0x4000 ≠ 0 then [.payload body]
  else if header.protocol = 17 ∧ 8 ≤ body.length then .udp body :: afterUdp body
  else if header.protocol = 6 ∧ TcpLayer.isDataValid body then .tcp body :: afterTcp body
  else [.payload body]

def layers (bytes : List UInt8) : List Layer :=
  let header := IPv4Header.decode bytes
  if 20 ≤ bytes.length ∧ header.ipVersion = 4 ∧ 5 ≤ header.internetHeaderLength.val then
    .ipv4 bytes :: afterIPv4 header (bytes.drop (4 * header.internetHeaderLength.val))
  else [.payload bytes]

private theorem layers_bytes (packet : IPv4Packet) :
    layers packet.bytes = .ipv4 packet.bytes :: afterIPv4 packet.header packet.body := by
  have headerLength := packet.headerLength
  have long : 20 ≤ packet.bytes.length := by
    simp only [IPv4Packet.bytes, List.length_append, IPv4Header.encode_length]
    omega
  have words : 5 ≤ packet.header.internetHeaderLength.val := by omega
  simp only [layers, packet.decode_bytes, packet.drop_header, long, packet.version, words, and_self,
    if_true]

private theorem udp_layers (packet : UdpPacket) :
    layers packet.bytes = .ipv4 packet.bytes :: .udp packet.body :: afterUdp packet.body := by
  have long : 8 ≤ packet.body.length := by
    rw [packet.udpBody, List.length_append, UdpHeader.encode_length]
    omega
  have bodyNonempty : packet.body ≠ [] := by
    intro empty
    rw [empty] at long
    contradiction
  rw [layers_bytes]
  simp only [afterIPv4, bodyNonempty, packet.unfragmented, packet.carriesUdp, long, ne_eq,
    not_true_eq_false, and_self, if_true, if_false]

private theorem afterUdp_body (packet : UdpPacket) :
    ApplicationLayers packet.payload
      (recognizesUdp packet.udp.portSrc packet.udp.portDst packet.payload) (afterUdp packet.body) := by
  simp only [afterUdp, packet.drop_udpHeader, packet.decode_body, ApplicationLayers]
  split
  · rfl
  · split <;> rfl

private theorem tcp_layers (packet : TcpPacket) :
    layers packet.bytes = .ipv4 packet.bytes :: .tcp packet.body :: afterTcp packet.body := by
  have offset := packet.tcpOffset
  have long : 4 * packet.tcp.dataOffset.val ≤ packet.body.length := by
    rw [packet.tcpBody, ← offset]
    simp
  have valid : TcpLayer.isDataValid packet.body = true := by
    simp only [TcpLayer.isDataValid, packet.decode_body, decide_eq_true_eq]
    omega
  have bodyNonempty : packet.body ≠ [] := by
    intro empty
    rw [empty, List.length_nil] at long
    omega
  have notUdp : ¬ (6 : UInt8) = 17 := by decide
  rw [layers_bytes]
  simp only [afterIPv4, bodyNonempty, packet.unfragmented, packet.carriesTcp, notUdp, valid, ne_eq,
    not_true_eq_false, false_and, and_self, if_true, if_false]

private theorem afterTcp_body (packet : TcpPacket) :
    ApplicationLayers packet.payload false (afterTcp packet.body) := by
  simp only [afterTcp, packet.decode_body, packet.drop_tcpHeader, ApplicationLayers]
  split <;> rfl

end HeaderRules

def PcapPlusPlus.headerRules : PcapPlusPlus where
  layers := HeaderRules.layers
  recognizesUdp := HeaderRules.recognizesUdp
  recognizesTcp := fun _ _ _ => false
  headerChecksum := fun _ => 0
  transportChecksum := fun _ _ => 0

theorem PcapPlusPlus.headerRules_layers : PcapPlusPlus.headerRules.layers = HeaderRules.layers := rfl

theorem PcapPlusPlus.headerRules_documented : PcapPlusPlus.headerRules.Documented where
  udpLayers packet := by
    rw [headerRules_layers]
    exact ⟨_, HeaderRules.udp_layers packet, HeaderRules.afterUdp_body packet⟩
  tcpLayers packet := by
    rw [headerRules_layers]
    exact ⟨_, HeaderRules.tcp_layers packet, HeaderRules.afterTcp_body packet⟩
  dns portSrc portDst payload port long := by
    simp only [headerRules, HeaderRules.recognizesUdp, long, Bool.and_true, Bool.or_eq_true]
    exact port

/-!
## What reaches the forwarder
-/

/-- The payload of an unfragmented UDP or TCP packet is returned, and returned
whole, exactly when the library recognises no application protocol in it. -/
theorem payload_extracted_iff_unrecognised {pcpp : PcapPlusPlus} (documented : pcpp.Documented) :
    (∀ (packet : UdpPacket) (trailing : List UInt8), packet.payload ≠ [] →
      (extractUdpPayload pcpp (packet.bytes ++ trailing) packet.bytes.length = some packet.payload ↔
        pcpp.recognizesUdp packet.udp.portSrc packet.udp.portDst packet.payload = false)) ∧
    (∀ (packet : TcpPacket) (trailing : List UInt8), packet.payload ≠ [] →
      (extractTcpPayload pcpp (packet.bytes ++ trailing) packet.bytes.length = some packet.payload ↔
        pcpp.recognizesTcp packet.tcp.portSrc packet.tcp.portDst packet.payload = false)) := by
  constructor
  · intro packet trailing nonempty
    rw [extractUdpPayload_eq documented packet trailing]
    cases pcpp.recognizesUdp packet.udp.portSrc packet.udp.portDst packet.payload <;> simp [nonempty]
  · intro packet trailing nonempty
    rw [extractTcpPayload_eq documented packet trailing]
    cases pcpp.recognizesTcp packet.tcp.portSrc packet.tcp.portDst packet.payload <;> simp [nonempty]

def datagramToPort9000 : UdpPacket :=
  .plain ⟨10, 0, 0, 2⟩ 40000 ⟨93, 184, 216, 34⟩ 9000 [0x68, 0x69] (by decide)

theorem datagramToPort9000_extracted :
    extractUdpPayload .headerRules (datagramToPort9000.bytes ++ [0]) datagramToPort9000.bytes.length =
      some [0x68, 0x69] :=
  ((payload_extracted_iff_unrecognised PcapPlusPlus.headerRules_documented).1 datagramToPort9000 [0]
    (by decide)).mpr (by decide)

/-- A DNS header asking for one name, sent to the resolver `startVpn` sets. -/
def dnsQuery : UdpPacket :=
  .plain ⟨10, 0, 0, 2⟩ 40000 ⟨8, 8, 8, 8⟩ 53 [0, 1, 1, 0, 0, 1, 0, 0, 0, 0, 0, 0] (by decide)

theorem dnsQuery_not_extracted :
    ¬ ∃ pcpp : PcapPlusPlus, pcpp.Documented ∧
      extractUdpPayload pcpp dnsQuery.bytes dnsQuery.bytes.length = some dnsQuery.payload := by
  rintro ⟨pcpp, documented, extracted⟩
  have recognised : pcpp.recognizesUdp dnsQuery.udp.portSrc dnsQuery.udp.portDst dnsQuery.payload :=
    documented.dns _ _ _ (.inr (by decide)) (by decide)
  have discarded := extractUdpPayload_eq documented dnsQuery []
  rw [List.append_nil, extracted, recognised, if_pos (.inr rfl)] at discarded
  cases discarded

end FirewallVpn
