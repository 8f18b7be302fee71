import FirewallVpn.Forwarder.Packets
import FirewallVpn.Native.Extraction

/-! How the packets written to the TUN are addressed, against the packet of the
app that each of them answers. -/

set_option autoImplicit false

namespace FirewallVpn

/-- The address `startVpn` gives the interface, and every builder call names. -/
def vpnAddress : IPv4Address := ⟨10, 0, 0, 2⟩

theorem vpnAddress_text : IPv4Address.ofString "10.0.0.2" = some vpnAddress := by decide

structure Endpoints where
  src : IPv4Address
  portSrc : UInt16
  dst : IPv4Address
  portDst : UInt16
  deriving DecidableEq

/-- What `parseRealPacket` says of a packet; only UDP and TCP have ports. -/
def TrafficLogResponse.Reports (traffic : TrafficLogResponse) (endpoints : Endpoints) : Prop :=
  traffic.srcIp = endpoints.src.toString ∧ traffic.dstIp = endpoints.dst.toString ∧
    (traffic.protocolByte ≠ .unknown →
      traffic.srcPort = endpoints.portSrc.toNat ∧ traffic.dstPort = endpoints.portDst.toNat)

instance (traffic : TrafficLogResponse) (endpoints : Endpoints) :
    Decidable (traffic.Reports endpoints) :=
  inferInstanceAs (Decidable (_ ∧ _ ∧ (_ → _ ∧ _)))

namespace Forwarder

/-- The addresses of a packet for the TUN, given the app's packet it answers.
Nothing is said about the source address of a SYN-ACK. -/
def Answers (endpoints : Endpoints) (call : ForwardCall) : Content → Prop
  | .data _ _ packet =>
      ipSource packet = endpoints.dst ∧ ipDestination packet = endpoints.src ∧
        sourcePort packet = endpoints.portDst ∧ destinationPort packet = endpoints.portSrc
  | .synAck _ packet =>
      ipDestination packet = endpoints.src ∧ sourcePort packet = endpoints.portDst ∧
        destinationPort packet = endpoints.portSrc
  | .udpResponse response packet =>
      IPv4Address.ofString (response.hostAddress.getD "0.0.0.0") = some (ipSource packet) ∧
        ipDestination packet = endpoints.src ∧ sourcePort packet = UInt16.ofInt response.port ∧
        destinationPort packet = endpoints.portSrc
  | .passThrough packet => packet = call.packet
  | .upstream _ _ => True
  | .datagram _ _ => True

theorem Built.data_addressed {pcpp : PcapPlusPlus} {call : ForwardCall} {connection : TcpConnection}
    {responseData packet : List UInt8} {endpoints : Endpoints}
    (built : Built pcpp call (.data connection responseData packet))
    (reported : call.traffic.Reports endpoints) :
    ipSource packet = endpoints.dst ∧ ipDestination packet = vpnAddress ∧
      sourcePort packet = endpoints.portDst ∧ destinationPort packet = endpoints.portSrc := by
  obtain ⟨srcIp, dstIp, ports⟩ := reported
  obtain ⟨protocol, returned⟩ := built
  rw [protocol] at ports
  obtain ⟨source, destination, fromPort, toPort, -⟩ := buildTcpResponsePacket_read pcpp returned
  rw [dstIp, IPv4Address.ofString_toString, Option.some.injEq] at source
  rw [vpnAddress_text, Option.some.injEq] at destination
  rw [(ports nofun).2, port_ofInt] at fromPort
  rw [(ports nofun).1, port_ofInt] at toPort
  exact ⟨source.symm, destination.symm, fromPort, toPort⟩

private theorem Built.answers {pcpp : PcapPlusPlus} {call : ForwardCall} {content : Content}
    {endpoints : Endpoints} (built : Built pcpp call content)
    (reported : call.traffic.Reports endpoints) (assigned : endpoints.src = vpnAddress) :
    Answers endpoints call content := by
  have ⟨srcIp, dstIp, ports⟩ := reported
  have ⟨protocol, packet⟩ := built
  rw [protocol] at ports
  cases content with
  | passThrough passed => exact packet
  | udpResponse response responsePacket =>
      obtain ⟨source, destination, fromPort, toPort⟩ := buildUdpResponsePacket_read pcpp packet
      rw [vpnAddress_text, Option.some.injEq] at destination
      rw [(ports nofun).1, port_ofInt] at toPort
      exact ⟨source, by rw [assigned, destination], fromPort, toPort⟩
  | synAck connection synAckPacket =>
      obtain ⟨-, destination, fromPort, toPort, -⟩ := buildTcpPacket_read pcpp packet
      rw [srcIp, IPv4Address.ofString_toString, Option.some.injEq] at destination
      rw [(ports nofun).2, port_ofInt] at fromPort
      rw [(ports nofun).1, port_ofInt] at toPort
      exact ⟨destination.symm, fromPort, toPort⟩
  | data connection responseData responsePacket =>
      obtain ⟨source, destination, fromPort, toPort⟩ := built.data_addressed reported
      exact ⟨source, by rw [assigned, destination], fromPort, toPort⟩
  | upstream connection payload => exact True.intro
  | datagram socket payload => exact True.intro

/-- A data packet is the exact reverse of the app's; a SYN-ACK has its ports and
destination; a UDP response comes from the sender of the datagram; a packet of
any other protocol goes back as it came. -/
theorem outputs_answer {pcpp : PcapPlusPlus} {labels : List Label} {final : Forwarder}
    (ran : Transition.run (step pcpp) initial labels = some final) {output : Output}
    (written : output ∈ final.outputs) {endpoints : Endpoints}
    (reported : output.call.traffic.Reports endpoints) (assigned : endpoints.src = vpnAddress) :
    Answers endpoints output.call output.content :=
  (((builtInvariant pcpp).run ran).2 output written).answers reported assigned

/-- An app's connection to a web server, from its SYN on. -/
def synPacket (isn : UInt32) : TcpPacket :=
  .plain vpnAddress ⟨93, 184, 216, 34⟩ (.plain 40000 443 isn 0 true false false) [] rfl (by decide)

/-- A packet with what `parseRealPacket` says of it under the headers' rules. -/
def callOf (packet : List UInt8) : ForwardCall where
  packet := packet
  traffic := parseRealPacket .headerRules packet packet.length "01/01/2025 00:00:00"
  sourcePackageName := some "com.example.mail"

def handshake (isn : UInt32) : List Label :=
  .overwrite (synPacket isn).bytes :: .forwardPacket (callOf (synPacket isn).bytes) .returns ::
    List.replicate 10 (.task 0 .returns)

def readChunk (chunk : List UInt8) : List Label :=
  [.task 1 .returns, .task 1 (.chunk chunk), .task 1 .returns, .task 1 .returns]

theorem handshake_answers :
    ∃ final, Transition.run (step .headerRules) initial (handshake 7 ++ readChunk [0x48, 0x69]) =
        some final ∧ final.outputs.length = 2 ∧
      ∀ output ∈ final.outputs,
        Answers ⟨vpnAddress, 40000, ⟨93, 184, 216, 34⟩, 443⟩ output.call output.content := by
  have calls : (Transition.run (step .headerRules) initial (handshake 7 ++ readChunk [0x48, 0x69])).map
      (fun final => final.outputs.map Output.call) =
        some [callOf (synPacket 7).bytes, callOf (synPacket 7).bytes] := by
    decide +kernel
  obtain ⟨final, ran, outputs⟩ := Option.map_eq_some_iff.mp calls
  refine ⟨final, ran, by simpa using congrArg List.length outputs, fun output written => ?_⟩
  have call : output.call ∈ final.outputs.map Output.call := List.mem_map_of_mem written
  rw [outputs] at call
  have same : output.call = callOf (synPacket 7).bytes := by simpa using call
  refine outputs_answer ran written ?_ rfl
  rw [same]
  decide +kernel

def pingPacket : List UInt8 :=
  (IPv4Header.plain 1 vpnAddress ⟨93, 184, 216, 34⟩ 8).encode ++ List.replicate 8 0

/-- The packet an output puts on the TUN, if it is one for the TUN. -/
def tunPacket : Content → Option (List UInt8)
  | .passThrough packet | .udpResponse _ packet | .synAck _ packet | .data _ _ packet => some packet
  | .upstream _ _ | .datagram _ _ => none

theorem ping_not_reversed :
    ¬ ∀ (pcpp : PcapPlusPlus) (labels : List Label) (final : Forwarder) (output : Output)
        (packet : List UInt8) (endpoints : Endpoints),
      Transition.run (step pcpp) initial labels = some final → output ∈ final.outputs →
      output.call.traffic.Reports endpoints → endpoints.src = vpnAddress →
      tunPacket output.content = some packet →
      ipSource packet = endpoints.dst ∧ ipDestination packet = endpoints.src := by
  intro reversed
  have outputs : (Transition.run (step .headerRules) initial
      [.overwrite pingPacket, .forwardPacket (callOf pingPacket) .returns]).map Forwarder.outputs =
        some [⟨none, callOf pingPacket, .passThrough pingPacket⟩] := by
    decide +kernel
  obtain ⟨final, ran, written⟩ := Option.map_eq_some_iff.mp outputs
  obtain ⟨source, -⟩ := reversed .headerRules _ final ⟨none, callOf pingPacket, .passThrough pingPacket⟩
    pingPacket ⟨vpnAddress, 0, ⟨93, 184, 216, 34⟩, 0⟩ ran (by rw [written]; exact List.mem_cons_self)
    (by decide +kernel) rfl rfl
  exact absurd source (by decide +kernel)

end Forwarder

end FirewallVpn
