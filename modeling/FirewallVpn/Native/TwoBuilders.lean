import FirewallVpn.Native.RoundTrip

/-! The two builders of the TCP packets of one connection. `buildTcpPacket` makes the
SYN-ACK, `buildTcpResponsePacket` the data packets; only the first sets a window. -/

set_option autoImplicit false

namespace FirewallVpn

/-- The window a packet advertises. -/
def tcpWindow (packet : List UInt8) : UInt16 := (TcpHeader.decode (ipBody packet)).windowSize

/-- The header `buildTcpResponsePacket` fills in. -/
def responseHeader (srcPort dstPort : UInt16) : TcpHeader :=
  { newTcpLayer srcPort.toNat dstPort.toNat with
    ackFlag := true, pshFlag := true, ackNumber := 1, sequenceNumber := 1 }

/-- PSH and ACK as the flag argument of `buildTcpPacket`. -/
def pushAck : Int := (TCP_PSH ||| TCP_ACK : Nat)

section Builders

variable (pcpp : PcapPlusPlus) (src dst : IPv4Address) (srcPort dstPort : UInt16)
  (payload : List UInt8)

theorem buildTcpResponsePacket_layout :
    buildTcpResponsePacket pcpp payload src.toString srcPort.toNat dst.toString dstPort.toNat =
      some (pcpp.tcpBytes (newIPv4Layer src dst 6) (responseHeader srcPort dstPort) payload) := by
  simp only [buildTcpResponsePacket, IPv4Address.ofString_toString, Option.bind_eq_bind,
    Option.bind_some]
  rfl

theorem buildTcpPacket_layout (flags seqNum ackNum : Int) :
    buildTcpPacket pcpp src.toString dst.toString srcPort.toNat dstPort.toNat flags seqNum ackNum
        (some payload) =
      some (pcpp.tcpBytes (newIPv4Layer src dst 6)
        (filledHeader srcPort dstPort flags seqNum ackNum) payload) := by
  simp only [buildTcpPacket, IPv4Address.ofString_toString, Option.bind_eq_bind, Option.bind_some]
  rfl

/-- Filled in for the same segment, the two headers differ in the window alone. -/
theorem filledHeader_pushAck :
    filledHeader srcPort dstPort pushAck 1 1 =
      { responseHeader srcPort dstPort with windowSize := 65535 } := by
  have fin : hasFlag pushAck 0x01 = false := by decide
  have syn : hasFlag pushAck 0x02 = false := by decide
  have rst : hasFlag pushAck 0x04 = false := by decide
  have psh : hasFlag pushAck 0x08 = true := by decide
  have ack : hasFlag pushAck 0x10 = true := by decide
  have urg : hasFlag pushAck 0x20 = false := by decide
  rw [filledHeader, fin, syn, rst, psh, ack, urg]
  rfl

/-- The builders never agree: the packets they make of one segment have the same
addresses, ports, flags, numbers and payload, and always another window. -/
theorem builders_never_agree :
    ∃ response packet,
      buildTcpResponsePacket pcpp payload src.toString srcPort.toNat dst.toString dstPort.toNat =
          some response ∧
        buildTcpPacket pcpp src.toString dst.toString srcPort.toNat dstPort.toNat pushAck 1 1
          (some payload) = some packet ∧
        IPv4Header.decode response = IPv4Header.decode packet ∧
        sourcePort response = sourcePort packet ∧ destinationPort response = destinationPort packet ∧
        tcpFlags response = tcpFlags packet ∧ tcpSequence response = tcpSequence packet ∧
        tcpAcknowledgement response = tcpAcknowledgement packet ∧
        tcpPayload response = tcpPayload packet ∧
        tcpWindow response = 0 ∧ tcpWindow packet = 65535 ∧ response ≠ packet := by
  refine ⟨_, _, buildTcpResponsePacket_layout pcpp src dst srcPort dstPort payload,
    buildTcpPacket_layout pcpp src dst srcPort dstPort payload pushAck 1 1, ?_⟩
  rw [filledHeader_pushAck]
  obtain ⟨-, -, portSrc, portDst, sequence, acknowledgement⟩ :=
    tcpBytes_read pcpp (newIPv4Layer src dst 6) (responseHeader srcPort dstPort) payload
  obtain ⟨-, -, otherPortSrc, otherPortDst, otherSequence, otherAcknowledgement⟩ :=
    tcpBytes_read pcpp (newIPv4Layer src dst 6)
      { responseHeader srcPort dstPort with windowSize := 65535 } payload
  have closed : tcpWindow (pcpp.tcpBytes (newIPv4Layer src dst 6) (responseHeader srcPort dstPort)
      payload) = 0 := by
    rw [tcpWindow, tcpHeader_tcpBytes]
    rfl
  have opened : tcpWindow (pcpp.tcpBytes (newIPv4Layer src dst 6)
      { responseHeader srcPort dstPort with windowSize := 65535 } payload) = 65535 := by
    rw [tcpWindow, tcpHeader_tcpBytes]
    rfl
  refine ⟨?_, portSrc.trans otherPortSrc.symm, portDst.trans otherPortDst.symm, ?_,
    sequence.trans otherSequence.symm, acknowledgement.trans otherAcknowledgement.symm, ?_,
    closed, opened, fun same => ?_⟩
  · rw [ipHeader_tcpBytes, ipHeader_tcpBytes]
  · rw [tcpFlags_tcpBytes, tcpFlags_tcpBytes]
    rfl
  · rw [tcpPayload_tcpBytes _ _ rfl, tcpPayload_tcpBytes _ _ rfl]
  · rw [same, opened] at closed
    cases closed

end Builders

/-- A data packet of the web server closes the window that its SYN-ACK has opened. -/
theorem greeting_packets_differ :
    ¬ ∀ (pcpp : PcapPlusPlus) (src dst : IPv4Address) (srcPort dstPort : UInt16)
        (payload : List UInt8), payload ≠ [] → payload.length ≤ 65495 →
      buildTcpResponsePacket pcpp payload src.toString srcPort.toNat dst.toString dstPort.toNat =
        buildTcpPacket pcpp src.toString dst.toString srcPort.toNat dstPort.toNat pushAck 1 1
          (some payload) := by
  intro all
  exact absurd (all .headerRules ⟨93, 184, 216, 34⟩ ⟨10, 0, 0, 2⟩ 443 40000 [0x68, 0x69] (by decide)
    (by decide)) (by decide +kernel)

end FirewallVpn
