import FirewallVpn.Forwarder.Addressing
import FirewallVpn.Native.UdpRoundTrip

/-! Every packet the forwarder makes is one: its length fields are those of its bytes,
because the buffers of `receive` and `read` are small, and its flags are those of a
SYN-ACK or of data. -/

set_option autoImplicit false

namespace FirewallVpn

namespace Forwarder

/-- How long the payload in the hands of a coroutine, or of what it puts out, can be. -/
def FitsBuffer (_ : ForwardCall) : Job → Prop
  | .udp (.build _ response) | .udp (.write _ response _) => response.data.length ≤ 2048
  | .reader _ (.build responseData) | .reader _ (.write responseData _) => responseData.length ≤ 4096
  | .udp _ | .tcp _ | .reader _ _ => True

def ContentFits (_ : ForwardCall) : Content → Prop
  | .udpResponse response _ => response.data.length ≤ 2048
  | .data _ responseData _ => responseData.length ≤ 4096
  | .passThrough _ | .synAck _ _ | .upstream _ _ | .datagram _ _ => True

/-- The bytes are those of a packet with its payload and its flags. -/
def WellFormed (call : ForwardCall) : Content → Prop
  | .passThrough packet => packet = call.packet
  | .udpResponse response packet =>
      response.data.length ≤ 2048 ∧ ∃ udp : UdpPacket, udp.bytes = packet ∧ udp.payload = response.data
  | .synAck _ packet =>
      ∃ tcp : TcpPacket, tcp.bytes = packet ∧ tcp.payload = [] ∧ tcp.tcp.flags = TCP_SYN ||| TCP_ACK
  | .data _ responseData packet =>
      responseData.length ≤ 4096 ∧ ∃ tcp : TcpPacket, tcp.bytes = packet ∧ tcp.payload = responseData ∧
        tcp.tcp.flags = TCP_PSH ||| TCP_ACK
  | .upstream _ _ | .datagram _ _ => True

variable {pcpp : PcapPlusPlus}

private theorem finTest_fits (call : ForwardCall) (finFollows : Bool) :
    FitsBuffer call (.tcp (finTest finFollows)) := by
  cases finFollows <;> exact True.intro

theorem fitsInvariant (pcpp : PcapPlusPlus) :
    JobInvariant pcpp (fun _ _ _ => True) FitsBuffer ContentFits where
  udp _ _ := True.intro
  tcp _ _ := True.intro
  passThrough _ _ := True.intro
  kept forwarder call job answer effect next stepped _ fits := by
    cases stepped with
    | udp stepped =>
        cases stepped with
        | received => exact List.length_take_le 2048 _
        | built => exact fits
        | _ => exact True.intro
    | tcp stepped =>
        cases stepped with
        | nothingToWrite | written | nothingToRemove | closed => exact finTest_fits _ _
        | _ => exact True.intro
    | reader stepped =>
        cases stepped with
        | chunkRead opened nonempty short => exact short
        | built => exact fits
        | _ => exact True.intro
  output forwarder call job answer content next stepped fits := by
    cases stepped with
    | udp stepped =>
        cases stepped with
        | sent => exact True.intro
        | written => exact fits
    | tcp stepped => cases stepped <;> exact True.intro
    | reader stepped =>
        cases stepped with
        | written => exact fits
  launch forwarder call job answer launched next stepped _ := by
    cases stepped with
    | udp stepped => cases stepped
    | tcp stepped =>
        cases stepped with
        | readerStarted => exact True.intro
    | reader stepped => cases stepped

theorem Built.wellFormed {call : ForwardCall} {content : Content} (built : Built pcpp call content)
    (fits : ContentFits call content) : WellFormed call content := by
  obtain ⟨-, packet⟩ := built
  cases content with
  | passThrough => exact packet
  | udpResponse response bytes =>
      obtain ⟨src, dst, rfl⟩ := buildUdpResponsePacket_eq packet
      exact ⟨fits, _, PcapPlusPlus.udpPacket_bytes pcpp _ _ _ rfl rfl
        (Nat.le_trans fits (by decide)), rfl⟩
  | synAck connection bytes =>
      obtain ⟨src, dst, tcp, offset, flags, rfl⟩ := buildTcpPacket_eq packet
      exact ⟨_, PcapPlusPlus.tcpPacket_bytes pcpp _ _ _ rfl rfl offset (Nat.zero_le _), rfl, flags⟩
  | data connection responseData bytes =>
      obtain ⟨src, dst, tcp, offset, flags, rfl⟩ := buildTcpResponsePacket_eq packet
      exact ⟨fits, _, PcapPlusPlus.tcpPacket_bytes pcpp _ _ _ rfl rfl offset
        (Nat.le_trans fits (by decide)), rfl, flags⟩
  | upstream | datagram => exact True.intro

/-- Whatever the remote ends send and however the coroutines are scheduled, the packets
made for the app are well formed, and no TCP packet but a SYN-ACK or one with data is
among them. -/
theorem outputs_wellFormed {labels : List Label} {final : Forwarder} {output : Output}
    (ran : Transition.run (step pcpp) initial labels = some final) (written : output ∈ final.outputs) :
    WellFormed output.call output.content :=
  Built.wellFormed (((builtInvariant pcpp).run ran).2 output written)
    (((fitsInvariant pcpp).run ran).2 output written)

theorem handshake_wellFormed :
    ∃ final, Transition.run (step .headerRules) initial (handshake 7 ++ readChunk [0x48, 0x69]) =
        some final ∧ final.outputs.length = 2 ∧
      ∀ output ∈ final.outputs, WellFormed output.call output.content := by
  have outputs : (Transition.run (step .headerRules) initial
      (handshake 7 ++ readChunk [0x48, 0x69])).map (fun final => final.outputs.length) = some 2 := by
    decide +kernel
  obtain ⟨final, ran, two⟩ := Option.map_eq_some_iff.mp outputs
  exact ⟨final, ran, two, fun output written => outputs_wellFormed ran written⟩

end Forwarder

end FirewallVpn
