import FirewallVpn.Forwarder.Addressing
import FirewallVpn.Library.Text

/-! The text under which a connection is registered. For the addresses that
`parseRealPacket` prints it names one flow. -/

set_option autoImplicit false

namespace FirewallVpn

namespace IPv4Address

theorem toString_injective {address other : IPv4Address} (same : address.toString = other.toString) :
    address = other := by
  have read := ofString_toString address
  rw [same, ofString_toString, Option.some.injEq] at read
  exact read.symm

theorem colon_not_mem_toString (address : IPv4Address) : ':' ∉ address.toString.toList := by
  have absent : ∀ octet, ':' ∉ octetText octet := fun octet =>
    Text.not_mem_toDigits (by decide) octet.toNat
  simp [toString, bytes, List.intercalate, absent]

end IPv4Address

/-- The key of the connection between two endpoints. -/
def Endpoints.key (endpoints : Endpoints) : String :=
  endpoints.src.toString ++ ":" ++ toString (endpoints.portSrc.toNat : Int) ++ "->" ++
    endpoints.dst.toString ++ ":" ++ toString (endpoints.portDst.toNat : Int)

private theorem toList_key (src dst : IPv4Address) (portSrc portDst : Int) :
    (src.toString ++ ":" ++ toString portSrc ++ "->" ++ dst.toString ++ ":" ++
        toString portDst).toList =
      src.toString.toList ++ ':' :: (Text.toDecimal portSrc ++ '-' :: '>' ::
        (dst.toString.toList ++ ':' :: Text.toDecimal portDst)) := by
  simp only [String.toList_append, Text.toList_toString, List.append_assoc]
  rfl

/-- No part of a key contains the separator behind it. -/
theorem eq_of_key_text {src dst otherSrc otherDst : IPv4Address}
    {portSrc portDst otherPortSrc otherPortDst : Int}
    (same : src.toString ++ ":" ++ toString portSrc ++ "->" ++ dst.toString ++ ":" ++ toString portDst =
      otherSrc.toString ++ ":" ++ toString otherPortSrc ++ "->" ++ otherDst.toString ++ ":" ++
        toString otherPortDst) :
    src = otherSrc ∧ portSrc = otherPortSrc ∧ dst = otherDst ∧ portDst = otherPortDst := by
  have texts := congrArg String.toList same
  rw [toList_key, toList_key] at texts
  obtain ⟨sameSrc, texts⟩ := Text.cut_unique (IPv4Address.colon_not_mem_toString _)
    (IPv4Address.colon_not_mem_toString _) texts
  obtain ⟨samePortSrc, texts⟩ := Text.cut_decimal texts
  obtain ⟨sameDst, texts⟩ := Text.cut_unique (IPv4Address.colon_not_mem_toString _)
    (IPv4Address.colon_not_mem_toString _) (List.tail_eq_of_cons_eq texts)
  exact ⟨IPv4Address.toString_injective (String.toList_inj.mp sameSrc), samePortSrc,
    IPv4Address.toString_injective (String.toList_inj.mp sameDst), Text.toDecimal_injective texts⟩

theorem Endpoints.eq_of_key_eq {endpoints other : Endpoints} (same : endpoints.key = other.key) :
    endpoints = other := by
  obtain ⟨sameSrc, samePortSrc, sameDst, samePortDst⟩ := eq_of_key_text same
  cases endpoints
  cases other
  rw [Endpoints.mk.injEq]
  exact ⟨sameSrc, UInt16.toNat_inj.mp (Int.ofNat.inj samePortSrc), sameDst,
    UInt16.toNat_inj.mp (Int.ofNat.inj samePortDst)⟩

/-- Calls for packets between printed addresses have one key exactly if they are
for one flow. -/
theorem key_eq_iff {call other : ForwardCall} {src dst otherSrc otherDst : IPv4Address}
    (srcIp : call.traffic.srcIp = src.toString) (dstIp : call.traffic.dstIp = dst.toString)
    (otherSrcIp : other.traffic.srcIp = otherSrc.toString)
    (otherDstIp : other.traffic.dstIp = otherDst.toString) :
    call.key = other.key ↔ src = otherSrc ∧ call.traffic.srcPort = other.traffic.srcPort ∧
      dst = otherDst ∧ call.traffic.dstPort = other.traffic.dstPort := by
  rw [ForwardCall.key, ForwardCall.key, srcIp, dstIp, otherSrcIp, otherDstIp]
  constructor
  · exact eq_of_key_text
  · rintro ⟨rfl, samePortSrc, rfl, samePortDst⟩
    rw [samePortSrc, samePortDst]

theorem retransmission_has_key :
    (Forwarder.callOf (Forwarder.synPacket 0).bytes).key =
      (Forwarder.callOf (Forwarder.synPacket 7).bytes).key := by
  refine (@key_eq_iff _ _ vpnAddress ⟨93, 184, 216, 34⟩ vpnAddress ⟨93, 184, 216, 34⟩ ?_ ?_ ?_ ?_).mpr ?_
  · decide +kernel
  · decide +kernel
  · decide +kernel
  · decide +kernel
  · decide +kernel

theorem TrafficLogResponse.Reports.key {call : ForwardCall} {endpoints : Endpoints}
    (reported : call.traffic.Reports endpoints) (known : call.traffic.protocolByte ≠ .unknown) :
    call.key = endpoints.key := by
  obtain ⟨src, dst, ports⟩ := reported
  obtain ⟨portSrc, portDst⟩ := ports known
  rw [ForwardCall.key, src, dst, portSrc, portDst, Endpoints.key]

end FirewallVpn
