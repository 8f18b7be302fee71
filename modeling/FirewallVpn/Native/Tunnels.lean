import FirewallVpn.Native.Extraction

/-! Packets inside packets. `parseRealPacket` searches the whole layer chain for
an IPv4, a TCP and a UDP layer one by one, so in a tunnel or in an ICMP error that
quotes a packet the three need not belong together. -/

set_option autoImplicit false

namespace FirewallVpn

def Layer.isTransport (layer : Layer) : Bool := layer.asTcp.isSome || layer.asUdp.isSome

/-- The report comes from the outer IPv4 header and from the TCP or UDP header
right behind it; where neither stands there, no port is reported. -/
structure TrafficLogResponse.FromOnePair (traffic : TrafficLogResponse) (outer : List UInt8)
    (next : List Layer) : Prop where
  addresses : traffic.srcIp = (IPv4Header.decode outer).ipSrc.toString ∧
    traffic.dstIp = (IPv4Header.decode outer).ipDst.toString
  tcp : traffic.protocolByte = .tcp → ∃ segment, next.head? = some (.tcp segment) ∧
    traffic.srcPort = (TcpHeader.decode segment).portSrc.toNat ∧
    traffic.dstPort = (TcpHeader.decode segment).portDst.toNat
  udp : traffic.protocolByte = .udp → ∃ datagram, next.head? = some (.udp datagram) ∧
    traffic.srcPort = (UdpHeader.decode datagram).portSrc.toNat ∧
    traffic.dstPort = (UdpHeader.decode datagram).portDst.toNat
  neither : (∀ layer, next.head? = some layer → layer.isTransport = false) →
    traffic.protocolByte = .unknown ∧ traffic.srcPort = -1 ∧ traffic.dstPort = -1

/-- The chains behind the outer IPv4 header in which the first TCP layer, or else
the first UDP layer, is the first layer of all. -/
inductive Paired : List Layer → Prop where
  | tcp {segment rest} : Paired (.tcp segment :: rest)
  | udp {datagram rest} : (∀ layer ∈ rest, layer.asTcp = none) → Paired (.udp datagram :: rest)
  | neither {next} : (∀ layer ∈ next, layer.isTransport = false) → Paired next

theorem getLayerOfType_eq_none_iff {cast : Layer → Option (List UInt8)} {layers : List Layer} :
    getLayerOfType cast layers = none ↔ ∀ layer ∈ layers, cast layer = none := by
  induction layers with
  | nil => simp [getLayerOfType]
  | cons layer next ih =>
      simp only [getLayerOfType, List.mem_cons, forall_eq_or_imp]
      cases found : cast layer with
      | none => simpa using ih
      | some data => simp

theorem Layer.isTransport_eq_false_iff {layer : Layer} :
    layer.isTransport = false ↔ layer.asTcp = none ∧ layer.asUdp = none := by
  simp [isTransport]

section Report

variable {pcpp : PcapPlusPlus} {packetData outer : List UInt8} {length : Nat} {next : List Layer}

/-- What `parseRealPacket` reports when the first layer is IPv4: its addresses,
and the ports of whichever transport layer it comes across. -/
private theorem parseRealPacket_behind (chain : pcpp.layers (packetData.take length) = .ipv4 outer :: next)
    (timeStamp : String) :
    parseRealPacket pcpp packetData length timeStamp =
      let ports : Int × Int × ProtocolByte :=
        match getLayerOfType Layer.asTcp next, getLayerOfType Layer.asUdp next with
        | some (data, _), _ =>
            ((TcpHeader.decode data).portSrc.toNat, (TcpHeader.decode data).portDst.toNat, .tcp)
        | none, some (data, _) =>
            ((UdpHeader.decode data).portSrc.toNat, (UdpHeader.decode data).portDst.toNat, .udp)
        | none, none => (-1, -1, .unknown)
      { appName := "Unknown", protocol := .ipv4, protocolByte := ports.2.2
        srcIp := (IPv4Header.decode outer).ipSrc.toString, srcPort := ports.1
        dstIp := (IPv4Header.decode outer).ipDst.toString, dstPort := ports.2.1, timeStamp } := by
  rw [parseRealPacket, chain]
  rfl

theorem fromOnePair_of_paired (chain : pcpp.layers (packetData.take length) = .ipv4 outer :: next)
    (paired : Paired next) (timeStamp : String) :
    (parseRealPacket pcpp packetData length timeStamp).FromOnePair outer next := by
  rw [parseRealPacket_behind chain]
  cases paired with
  | @tcp segment rest =>
      refine ⟨⟨rfl, rfl⟩, fun _ => ⟨segment, rfl, rfl, rfl⟩, nofun, fun absent => ?_⟩
      exact nomatch absent _ rfl
  | @udp datagram rest noTcp =>
      have notTcp : getLayerOfType Layer.asTcp (.udp datagram :: rest) = none :=
        getLayerOfType_eq_none_iff.mpr (List.forall_mem_cons.mpr ⟨rfl, noTcp⟩)
      rw [notTcp]
      refine ⟨⟨rfl, rfl⟩, nofun, fun _ => ⟨datagram, rfl, rfl, rfl⟩, fun absent => ?_⟩
      exact nomatch absent _ rfl
  | neither noTransport =>
      have notTcp : getLayerOfType Layer.asTcp next = none :=
        getLayerOfType_eq_none_iff.mpr fun layer member =>
          (Layer.isTransport_eq_false_iff.mp (noTransport layer member)).1
      have notUdp : getLayerOfType Layer.asUdp next = none :=
        getLayerOfType_eq_none_iff.mpr fun layer member =>
          (Layer.isTransport_eq_false_iff.mp (noTransport layer member)).2
      rw [notTcp, notUdp]
      exact ⟨⟨rfl, rfl⟩, nofun, nofun, fun _ => ⟨rfl, rfl, rfl⟩⟩

theorem paired_of_fromOnePair (chain : pcpp.layers (packetData.take length) = .ipv4 outer :: next)
    {timeStamp : String}
    (onePair : (parseRealPacket pcpp packetData length timeStamp).FromOnePair outer next) :
    Paired next := by
  rw [parseRealPacket_behind chain] at onePair
  cases tcpLayer : getLayerOfType Layer.asTcp next with
  | some found =>
      simp only [tcpLayer] at onePair
      obtain ⟨segment, first, -⟩ := onePair.tcp rfl
      obtain ⟨rest, rfl⟩ := List.head?_eq_some_iff.mp first
      exact .tcp
  | none =>
      have noTcp := getLayerOfType_eq_none_iff.mp tcpLayer
      cases udpLayer : getLayerOfType Layer.asUdp next with
      | some found =>
          simp only [tcpLayer, udpLayer] at onePair
          obtain ⟨datagram, first, -⟩ := onePair.udp rfl
          obtain ⟨rest, rfl⟩ := List.head?_eq_some_iff.mp first
          exact .udp fun layer member => noTcp layer (List.mem_cons_of_mem _ member)
      | none =>
          have noUdp := getLayerOfType_eq_none_iff.mp udpLayer
          exact .neither fun layer member =>
            Layer.isTransport_eq_false_iff.mpr ⟨noTcp layer member, noUdp layer member⟩

/-- The report is of one header pair exactly for the chains in which the
transport layer found first stands right behind the outer IPv4 header. -/
theorem fromOnePair_iff (chain : pcpp.layers (packetData.take length) = .ipv4 outer :: next)
    (timeStamp : String) :
    (parseRealPacket pcpp packetData length timeStamp).FromOnePair outer next ↔ Paired next :=
  ⟨paired_of_fromOnePair chain, fun paired => fromOnePair_of_paired chain paired timeStamp⟩

end Report

theorem datagramToPort9000_onePair :
    (parseRealPacket .headerRules datagramToPort9000.bytes datagramToPort9000.bytes.length
      "01/01/2025 00:00:00").FromOnePair datagramToPort9000.bytes
        [.udp datagramToPort9000.body, .payload datagramToPort9000.payload] :=
  (fromOnePair_iff (by decide) _).mpr (.udp (by decide))

/-!
## IP in IP

`IPv4Layer::parseNextLayer` names an IPv4 layer among the layers that can follow
one. `tunnelRules` adds this to `headerRules`: protocol 4 with an IPv4 header behind.
-/

namespace HeaderRules

/-- `depth` bounds the number of headers put before the innermost packet. -/
def tunnelLayers : Nat → List UInt8 → List Layer
  | 0, bytes => layers bytes
  | depth + 1, bytes =>
      match layers bytes with
      | [.ipv4 data, .payload body] =>
          let header := IPv4Header.decode data
          if header.protocol = 4 ∧ header.fragmentOffset.toNat % 0x4000 = 0 ∧
              (IPv4Header.decode body).ipVersion = 4 then
            .ipv4 data :: tunnelLayers depth body
          else [.ipv4 data, .payload body]
      | chain => chain

private theorem tunnelLayers_eq (depth : Nat) {bytes data : List UInt8} {layer : Layer}
    {rest : List Layer} (chain : layers bytes = .ipv4 data :: layer :: rest)
    (noPayload : layer.asPayload = none) : tunnelLayers depth bytes = .ipv4 data :: layer :: rest := by
  cases depth with
  | zero => exact chain
  | succ depth =>
      simp only [tunnelLayers, chain]
      split
      · next shape =>
          cases shape
          cases noPayload
      · rfl

end HeaderRules

def PcapPlusPlus.tunnelRules : PcapPlusPlus :=
  { PcapPlusPlus.headerRules with
    layers := fun bytes => HeaderRules.tunnelLayers (bytes.length / 20) bytes }

theorem PcapPlusPlus.tunnelRules_layers (bytes : List UInt8) :
    PcapPlusPlus.tunnelRules.layers bytes = HeaderRules.tunnelLayers (bytes.length / 20) bytes := rfl

theorem PcapPlusPlus.tunnelRules_documented : PcapPlusPlus.tunnelRules.Documented where
  udpLayers packet := by
    obtain ⟨application, chain, next⟩ := headerRules_documented.udpLayers packet
    rw [headerRules_layers] at chain
    rw [tunnelRules_layers]
    exact ⟨application, HeaderRules.tunnelLayers_eq _ chain rfl, next⟩
  tcpLayers packet := by
    obtain ⟨application, chain, next⟩ := headerRules_documented.tcpLayers packet
    rw [headerRules_layers] at chain
    rw [tunnelRules_layers]
    exact ⟨application, HeaderRules.tunnelLayers_eq _ chain rfl, next⟩
  dns := headerRules_documented.dns

/-- The datagram to port 9000 in a packet from 10.0.0.2 to 198.51.100.7. -/
def tunnelledDatagram : List UInt8 :=
  (IPv4Header.plain 4 ⟨10, 0, 0, 2⟩ ⟨198, 51, 100, 7⟩ datagramToPort9000.bytes.length).encode ++
    datagramToPort9000.bytes

/-- The inner ports are reported with the outer addresses. -/
theorem tunnelledDatagram_mixed :
    PcapPlusPlus.tunnelRules.Documented ∧
      ∃ next, PcapPlusPlus.tunnelRules.layers tunnelledDatagram = .ipv4 tunnelledDatagram :: next ∧
        ¬ (parseRealPacket .tunnelRules tunnelledDatagram tunnelledDatagram.length
          "01/01/2025 00:00:00").FromOnePair tunnelledDatagram next := by
  have chain : PcapPlusPlus.tunnelRules.layers tunnelledDatagram = .ipv4 tunnelledDatagram ::
      [.ipv4 datagramToPort9000.bytes, .udp datagramToPort9000.body,
        .payload datagramToPort9000.payload] := by
    decide
  refine ⟨PcapPlusPlus.tunnelRules_documented, _, chain, fun onePair => ?_⟩
  have reported : (parseRealPacket .tunnelRules tunnelledDatagram tunnelledDatagram.length
      "01/01/2025 00:00:00").protocolByte = .udp := by
    decide
  obtain ⟨datagram, first, -⟩ := onePair.udp reported
  cases first

end FirewallVpn
