import FirewallVpn.Forwarder.JobInvariant

/-! The packets written to the TUN. Every one of them is what its builder
returned for the arguments the forwarder gave it. -/

set_option autoImplicit false

namespace FirewallVpn

namespace Forwarder

/-- The protocol of the calls that lead to an output or a coroutine of this kind. -/
def contentProtocol : Content → ProtocolByte
  | .passThrough _ => .unknown
  | .udpResponse _ _ | .datagram _ _ => .udp
  | .synAck _ _ | .data _ _ _ | .upstream _ _ => .tcp

def jobProtocol : Job → ProtocolByte
  | .udp _ => .udp
  | .tcp _ | .reader _ _ => .tcp

def BuiltPacket (pcpp : PcapPlusPlus) (call : ForwardCall) : Content → Prop
  | .passThrough packet => packet = call.packet
  | .udpResponse response packet =>
      buildUdpResponsePacket pcpp response.data (response.hostAddress.getD "0.0.0.0") response.port
        "10.0.0.2" call.traffic.srcPort = some packet
  | .synAck _ packet =>
      buildTcpPacket pcpp "10.0.0.2" call.traffic.srcIp call.traffic.dstPort call.traffic.srcPort
        0x12 1 1 none = some packet
  | .data _ responseData packet =>
      buildTcpResponsePacket pcpp responseData call.traffic.dstIp call.traffic.dstPort "10.0.0.2"
        call.traffic.srcPort = some packet
  | .upstream _ _ => True
  | .datagram _ _ => True

/-- A coroutine that is about to write holds a built packet. -/
def HoldsPacket (pcpp : PcapPlusPlus) (call : ForwardCall) : Job → Prop
  | .udp (.write _ response packet) => BuiltPacket pcpp call (.udpResponse response packet)
  | .tcp (.writeSynAck connection packet) => BuiltPacket pcpp call (.synAck connection packet)
  | .reader connection (.write responseData packet) =>
      BuiltPacket pcpp call (.data connection responseData packet)
  | _ => True

def HoldsBuilt (pcpp : PcapPlusPlus) (call : ForwardCall) (job : Job) : Prop :=
  call.traffic.protocolByte = jobProtocol job ∧ HoldsPacket pcpp call job

def Built (pcpp : PcapPlusPlus) (call : ForwardCall) (content : Content) : Prop :=
  call.traffic.protocolByte = contentProtocol content ∧ BuiltPacket pcpp call content

private theorem finTest_holdsPacket (pcpp : PcapPlusPlus) (call : ForwardCall) (finFollows : Bool) :
    HoldsPacket pcpp call (.tcp (finTest finFollows)) := by
  cases finFollows <;> exact True.intro

theorem builtInvariant (pcpp : PcapPlusPlus) :
    JobInvariant pcpp (fun _ _ _ => True) (HoldsBuilt pcpp) (Built pcpp) where
  udp _ protocol := ⟨protocol, True.intro⟩
  tcp _ protocol := ⟨protocol, True.intro⟩
  passThrough _ protocol := ⟨protocol, rfl⟩
  kept forwarder call job answer effect next stepped _ holds := by
    obtain ⟨protocol, packet⟩ := holds
    cases stepped with
    | udp stepped =>
        refine ⟨protocol, ?_⟩
        cases stepped with
        | built returned => exact returned
        | _ => exact True.intro
    | tcp stepped =>
        refine ⟨protocol, ?_⟩
        cases stepped with
        | built returned => exact returned
        | nothingToWrite | written | nothingToRemove | closed => exact finTest_holdsPacket _ _ _
        | _ => exact True.intro
    | reader stepped =>
        refine ⟨protocol, ?_⟩
        cases stepped with
        | built returned => exact returned
        | _ => exact True.intro
  output forwarder call job answer content next stepped holds := by
    obtain ⟨protocol, packet⟩ := holds
    cases stepped with
    | udp stepped =>
        cases stepped with
        | sent => exact ⟨protocol, True.intro⟩
        | written => exact ⟨protocol, packet⟩
    | tcp stepped =>
        cases stepped with
        | synAckWritten => exact ⟨protocol, packet⟩
        | written | writeInterrupted => exact ⟨protocol, True.intro⟩
    | reader stepped =>
        cases stepped with
        | written => exact ⟨protocol, packet⟩
  launch forwarder call job answer launched next stepped holds := by
    cases stepped with
    | udp stepped => cases stepped
    | tcp stepped =>
        cases stepped with
        | readerStarted => exact ⟨holds.1, True.intro⟩
    | reader stepped => cases stepped

end Forwarder

end FirewallVpn
