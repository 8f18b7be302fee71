import FirewallVpn.Forwarder.Addressing
import FirewallVpn.Forwarder.OwnSteps
import Mathlib.Data.List.TakeDrop

/-! What a UDP request gets back. Its coroutine receives once, into a buffer of
2048 bytes, and closes the socket. -/

set_option autoImplicit false

namespace FirewallVpn

/-- A datagram that the remote end sends to the socket of a request. -/
structure Datagram where
  data : List UInt8
  address : IPv4Address
  port : UInt16
  fits : data.length ≤ 65507

/-- As `receive` hands it over, if its buffer is large enough. -/
def Datagram.received (datagram : Datagram) : ReceivedDatagram where
  data := datagram.data
  hostAddress := some datagram.address.toString
  port := datagram.port.toNat

/-- The statements up to the one that sends the request. -/
def UdpStage.beforeReceive : UdpStage → Bool
  | .extractUdpPayload | .create _ | .protect _ _ | .soTimeout _ _ | .getByName _ _ | .send _ _ => true
  | .receive _ | .build _ _ | .write _ _ _ | .close _ | .done => false

def UdpStage.isOver : UdpStage → Bool
  | .close _ | .done => true
  | .extractUdpPayload | .create _ | .protect _ _ | .soTimeout _ _ | .getByName _ _ | .send _ _
  | .receive _ | .build _ _ | .write _ _ _ => false

namespace Forwarder

def receivedDatagram : Answer → Option ReceivedDatagram
  | .datagram response => some response
  | .returns | .throws | .throwsAfter _ | .timesOut | .chunk _ | .endOfStream => none

def receivedDatagrams (history : List Answer) : List ReceivedDatagram :=
  history.filterMap receivedDatagram

/-- What the socket of a request is sent arrives in order and in time, so that
`receive` expires only when nothing is left, and no statement fails. -/
structure Delivers (datagrams : List Datagram) (history : List Answer) : Prop where
  inOrder : receivedDatagrams history <+: datagrams.map Datagram.received
  inTime : .timesOut ∈ history → receivedDatagrams history = datagrams.map Datagram.received
  succeeds : .throws ∉ history

def relayedPayload : Content → Option (List UInt8)
  | .udpResponse _ packet => some (udpPayload packet)
  | .passThrough _ | .synAck _ _ | .data _ _ _ | .upstream _ _ | .datagram _ _ => none

/-- The payloads of the UDP packets among the outputs of a coroutine. -/
def relayedPayloads (written : List Content) : List (List UInt8) := written.filterMap relayedPayload

/-- The request itself is among the outputs of its coroutine. -/
def RequestSent (written : List Content) : Prop := ∃ socket payload, .datagram socket payload ∈ written

/-- How far the coroutine of a request has come with what it receives. -/
inductive Relaying : UdpStage → List Answer → List Content → Prop where
  | unsent {stage history} (early : stage.beforeReceive ∨ stage = .done)
      (none : receivedDatagrams history = []) : Relaying stage history []
  | sent {socket history written} (none : receivedDatagrams history = [])
      (silent : relayedPayloads written = []) : Relaying (.receive socket) history written
  | received {socket history written} {datagram : Datagram}
      (one : receivedDatagrams history = [datagram.received])
      (silent : relayedPayloads written = []) :
      Relaying (.build socket { datagram.received with data := datagram.data.take 2048 }) history written
  | built {socket history written response packet} {datagram : Datagram}
      (one : receivedDatagrams history = [datagram.received])
      (silent : relayedPayloads written = [])
      (carries : udpPayload packet = datagram.data.take 2048) :
      Relaying (.write socket response packet) history written
  | relayed {stage history written} {datagram : Datagram} (past : stage.isOver)
      (one : receivedDatagrams history = [datagram.received])
      (carries : relayedPayloads written = [datagram.data.take 2048]) :
      Relaying stage history written
  | expired {stage history written} (past : stage.isOver) (none : receivedDatagrams history = [])
      (silent : relayedPayloads written = []) (timedOut : .timesOut ∈ history) :
      Relaying stage history written

/-- An answer that a request gets when the remote end replies and nothing fails. -/
def Regular (answer : Answer) : Prop :=
  answer ≠ .throws ∧ ∀ response, answer = .datagram response →
    ∃ datagram : Datagram, response = datagram.received

def AnsweredRegularly (index : Nat) (label : Label) : Prop :=
  ∀ answer, answerFor index label = some answer → Regular answer

variable {pcpp : PcapPlusPlus}

private theorem receivedDatagrams_append (history : List Answer) (answer : Answer) :
    receivedDatagrams (history ++ [answer]) =
      receivedDatagrams history ++ (receivedDatagram answer).toList := by
  cases answer <;> simp [receivedDatagrams, receivedDatagram]

private theorem relayedPayloads_append (written : List Content) (effect : Effect) :
    relayedPayloads (written ++ effect.contents) =
      relayedPayloads written ++ effect.contents.filterMap relayedPayload :=
  List.filterMap_append

private theorem built_of_received (datagram : Datagram) (payload : List UInt8) (port : Int) :
    buildUdpResponsePacket pcpp payload (datagram.received.hostAddress.getD "0.0.0.0")
      datagram.received.port "10.0.0.2" port ≠ none := by
  have source : IPv4Address.ofString (datagram.received.hostAddress.getD "0.0.0.0") =
      some datagram.address := IPv4Address.ofString_toString _
  simp [buildUdpResponsePacket, source, vpnAddress_text]

theorem Relaying.step {forwarder : Forwarder} {call : ForwardCall} {stage next : UdpStage}
    {answer : Answer} {effect : Effect} {history : List Answer} {written : List Content}
    (relaying : Relaying stage history written) (regular : Regular answer)
    (stepped : UdpStep pcpp forwarder call stage answer effect next) :
    Relaying next (history ++ [answer]) (written ++ effect.contents) := by
  have appended := receivedDatagrams_append history answer
  have added := relayedPayloads_append written effect
  cases stepped with
  | noPayload =>
      cases relaying with
      | unsent _ none => exact .unsent (.inr rfl) (by rw [appended, none]; rfl)
      | relayed past | expired past => cases past
  | extracted | created | shielded | timed | resolved =>
      cases relaying with
      | unsent _ none => exact .unsent (.inl rfl) (by rw [appended, none]; rfl)
      | relayed past | expired past => cases past
  | sent =>
      cases relaying with
      | unsent _ none => exact .sent (by rw [appended, none]; rfl) rfl
      | relayed past | expired past => cases past
  | abandoned | receiveFailed | buildThrew | writeFailed => exact absurd rfl regular.1
  | @received socket response =>
      obtain ⟨datagram, rfl⟩ := regular.2 response rfl
      cases relaying with
      | unsent early => rcases early with early | early <;> cases early
      | sent none silent =>
          exact .received (by rw [appended, none]; rfl) (by rw [added, silent]; rfl)
      | relayed past | expired past => cases past
  | timedOut =>
      cases relaying with
      | unsent early => rcases early with early | early <;> cases early
      | sent none silent =>
          exact .expired rfl (by rw [appended, none]; rfl) (by rw [added, silent]; rfl)
            (List.mem_append_right _ List.mem_cons_self)
      | relayed past | expired past => cases past
  | buildFailed invalid =>
      cases relaying with
      | unsent early => rcases early with early | early <;> cases early
      | @received _ _ _ datagram => exact absurd invalid (built_of_received datagram _ _)
      | relayed past | expired past => cases past
  | built packet =>
      cases relaying with
      | unsent early => rcases early with early | early <;> cases early
      | received one silent =>
          exact .built (by rw [appended, one]; rfl) (by rw [added, silent]; rfl)
            (buildUdpResponsePacket_payload pcpp packet)
      | relayed past | expired past => cases past
  | written =>
      cases relaying with
      | unsent early => rcases early with early | early <;> cases early
      | built one silent carries =>
          exact .relayed rfl (by rw [appended, one]; rfl) (by rw [added, silent, ← carries]; rfl)
      | relayed past | expired past => cases past
  | closed =>
      cases relaying with
      | unsent early => rcases early with early | early <;> cases early
      | relayed _ one carries =>
          exact .relayed rfl (by rw [appended, one]; rfl) (by rw [added, carries]; rfl)
      | expired _ none silent timedOut =>
          exact .expired rfl (by rw [appended, none]; rfl) (by rw [added, silent]; rfl)
            (List.mem_append_left _ timedOut)

/-- The coroutine of a request, if the one at hand is such. -/
def RelayShare (_ : ForwardCall) (job : Job) (history : List Answer) (written : List Content) : Prop :=
  match job with
  | .udp stage => Relaying stage history written
  | .tcp _ | .reader _ _ => True

theorem relaying_of_run {index : Nat} {labels : List Label} {final : Forwarder}
    (ran : Transition.run (step pcpp) initial labels = some final)
    (regular : ∀ answer ∈ answers index labels, Regular answer) {call : ForwardCall}
    {stage : UdpStage} (located : final.tasks[index]? = some ⟨call, .udp stage⟩) :
    Relaying stage (answers index labels) (contents index final) := by
  have guarded : Transition.Guarded (step pcpp) (fun _ => AnsweredRegularly index) initial labels :=
    Transition.guarded_of_labels initial fun label member answer found =>
      regular answer (List.mem_filterMap.mpr ⟨label, member, found⟩)
  have share : Share RelayShare index labels final := by
    refine share_of_run index ?_ ?_ guarded ran
    · intro call job first
      cases first with
      | udp => exact .unsent (.inl rfl) rfl
      | tcp | reader => exact True.intro
    · intro forwarder call job answer effect next history written _ admitted stepped share
      cases stepped with
      | udp stepped => exact Relaying.step share (admitted answer (if_pos rfl)) stepped
      | tcp | reader => exact True.intro
  exact share.started _ located

private theorem Delivers.regular {datagrams : List Datagram} {history : List Answer}
    (delivers : Delivers datagrams history) : ∀ answer ∈ history, Regular answer := by
  intro answer member
  refine ⟨?_, ?_⟩
  · rintro rfl
    exact delivers.succeeds member
  · rintro response rfl
    have arrived : response ∈ receivedDatagrams history :=
      List.mem_filterMap.mpr ⟨_, member, rfl⟩
    obtain ⟨datagram, -, same⟩ := List.mem_map.mp (delivers.inOrder.subset arrived)
    exact ⟨datagram, same.symm⟩

/-- The first datagram comes through as far as the buffer goes; the others are
for a socket that is closed by then. -/
theorem datagrams_relayed_iff {index : Nat} {labels : List Label} {final : Forwarder}
    (ran : Transition.run (step pcpp) initial labels = some final) {call : ForwardCall}
    (located : final.tasks[index]? = some ⟨call, .udp .done⟩)
    (sent : RequestSent (contents index final)) {datagrams : List Datagram}
    (delivers : Delivers datagrams (answers index labels)) :
    relayedPayloads (contents index final) = datagrams.map Datagram.data ↔
      datagrams.length ≤ 1 ∧ ∀ datagram ∈ datagrams, datagram.data.length ≤ 2048 := by
  have relaying := relaying_of_run ran delivers.regular located
  generalize contents index final = written at relaying sent
  cases relaying with
  | unsent =>
      obtain ⟨socket, payload, member⟩ := sent
      cases member
  | @relayed _ _ _ first _ one carries =>
      have inOrder := delivers.inOrder
      rw [one] at inOrder
      obtain ⟨rest, split⟩ := inOrder
      obtain ⟨datagram, later, rfl, same, -⟩ := List.map_eq_cons_iff.mp split.symm
      have data : datagram.data = first.data := congrArg ReceivedDatagram.data same
      rw [carries, List.map_cons, List.cons.injEq, ← data, List.take_eq_self_iff]
      constructor
      · rintro ⟨short, none⟩
        rw [List.map_eq_nil_iff.mp none.symm]
        exact ⟨Nat.le_refl 1, List.forall_mem_singleton.mpr short⟩
      · rintro ⟨single, short⟩
        rw [List.length_eq_zero_iff.mp (Nat.le_zero.mp (Nat.le_of_succ_le_succ single))]
        exact ⟨short datagram List.mem_cons_self, rfl⟩
  | expired _ none silent timedOut =>
      have inTime := delivers.inTime timedOut
      rw [none] at inTime
      rw [silent, List.map_eq_nil_iff.mp inTime.symm]
      simp

def replyFrom9000 (data : List UInt8) (fits : data.length ≤ 65507) : Datagram where
  data := data
  address := ⟨93, 184, 216, 34⟩
  port := 9000
  fits := fits

/-- The request to port 9000 up to `receive`, which gets this datagram, and on to its end. -/
def request (reply : Datagram) : List Label :=
  .overwrite datagramToPort9000.bytes :: .forwardPacket (callOf datagramToPort9000.bytes) .returns ::
    List.replicate 6 (.task 0 .returns) ++ .task 0 (.datagram reply.received) ::
    List.replicate 3 (.task 0 .returns)

def shortReply : Datagram := replyFrom9000 [0x6F, 0x6B] (by decide)

private theorem shortReply_run :
    (Transition.run (step .headerRules) initial (request shortReply)).map
      (fun final => (final.tasks[0]?, contents 0 final)) =
    some (some ⟨callOf datagramToPort9000.bytes, .udp .done⟩,
      [.datagram 0 [0x68, 0x69], .udpResponse shortReply.received
        (PcapPlusPlus.udpBytes .headerRules (newIPv4Layer ⟨93, 184, 216, 34⟩ vpnAddress 17)
          (newUdpLayer 9000 40000) [0x6F, 0x6B])]) := by
  decide +kernel

theorem shortReply_relayed :
    ∃ final, Transition.run (step .headerRules) initial (request shortReply) = some final ∧
      relayedPayloads (contents 0 final) = [shortReply].map Datagram.data := by
  obtain ⟨final, ran, seen⟩ := Option.map_eq_some_iff.mp shortReply_run
  obtain ⟨located, written⟩ := Prod.mk.inj seen
  have sent : RequestSent (contents 0 final) := ⟨0, _, by rw [written]; exact List.mem_cons_self⟩
  have delivers : Delivers [shortReply] (answers 0 (request shortReply)) :=
    ⟨by decide +kernel, by decide +kernel, by decide +kernel⟩
  exact ⟨final, ran, (datagrams_relayed_iff ran located sent delivers).mpr (by decide)⟩

/-- The remote end answers in two datagrams. -/
theorem secondReply_lost :
    ¬ ∀ (pcpp : PcapPlusPlus) (labels : List Label) (final : Forwarder) (index : Nat)
        (call : ForwardCall) (datagrams : List Datagram),
      Transition.run (step pcpp) initial labels = some final →
      final.tasks[index]? = some ⟨call, .udp .done⟩ → RequestSent (contents index final) →
      Delivers datagrams (answers index labels) →
      relayedPayloads (contents index final) = datagrams.map Datagram.data := by
  intro all
  obtain ⟨final, ran, seen⟩ := Option.map_eq_some_iff.mp shortReply_run
  obtain ⟨located, written⟩ := Prod.mk.inj seen
  have sent : RequestSent (contents 0 final) := ⟨0, _, by rw [written]; exact List.mem_cons_self⟩
  have delivers : Delivers [shortReply, shortReply] (answers 0 (request shortReply)) :=
    ⟨by decide +kernel, by decide +kernel, by decide +kernel⟩
  have relayed := all .headerRules _ final 0 _ [shortReply, shortReply] ran located sent delivers
  rw [written] at relayed
  exact absurd (congrArg List.length relayed) (by decide)

end Forwarder

end FirewallVpn
