import FirewallVpn.Forwarder.JobInvariant

/-! Whose bytes a coroutine works with. The native functions look at the one
buffer when the coroutine gets to calling them, which may hold a later packet by
then. -/

set_option autoImplicit false

namespace FirewallVpn

/-! What the native functions make of the packet of a call. -/

def ForwardCall.ownTcpFlags (pcpp : PcapPlusPlus) (call : ForwardCall) : Nat :=
  getTcpFlags pcpp call.packet call.length

def ForwardCall.ownTcpPayload (pcpp : PcapPlusPlus) (call : ForwardCall) : Option (List UInt8) :=
  extractTcpPayload pcpp call.packet call.length

def ForwardCall.ownUdpPayload (pcpp : PcapPlusPlus) (call : ForwardCall) : Option (List UInt8) :=
  extractUdpPayload pcpp call.packet call.length

namespace Forwarder

/-- The native call of this statement, if it is one and its result is used,
returns what it would return for the coroutine's own packet. -/
def UsesOwn (pcpp : PcapPlusPlus) (buffer : List UInt8) (call : ForwardCall) : Job → Prop
  | .udp .extractUdpPayload => extractUdpPayload pcpp buffer call.length = call.ownUdpPayload pcpp
  | .tcp .getTcpFlags => getTcpFlags pcpp buffer call.length = call.ownTcpFlags pcpp
  | .tcp (.extractTcpPayload flags) =>
      hasSyn flags = false → extractTcpPayload pcpp buffer call.length = call.ownTcpPayload pcpp
  | _ => True

/-- The same for every native call the coroutine has still to make. -/
def WouldUseOwn (pcpp : PcapPlusPlus) (buffer : List UInt8) (call : ForwardCall) (job : Job) : Prop :=
  UsesOwn pcpp buffer call job ∧
    (job = .tcp .getTcpFlags →
      UsesOwn pcpp buffer call (.tcp (.extractTcpPayload (call.ownTcpFlags pcpp))))

instance (pcpp : PcapPlusPlus) (buffer : List UInt8) (call : ForwardCall) :
    ∀ job, Decidable (UsesOwn pcpp buffer call job)
  | .udp .extractUdpPayload => inferInstanceAs (Decidable (_ = _))
  | .tcp .getTcpFlags => inferInstanceAs (Decidable (_ = _))
  | .tcp (.extractTcpPayload _) => inferInstanceAs (Decidable (_ → _ = _))
  | .reader _ _ | .udp (.create _) | .udp (.protect _ _) | .udp (.soTimeout _ _)
  | .udp (.getByName _ _) | .udp (.send _ _) | .udp (.receive _) | .udp (.build _ _)
  | .udp (.write _ _ _) | .udp (.close _) | .udp .done | .tcp .create | .tcp (.protect _)
  | .tcp (.soTimeout _) | .tcp (.connect _) | .tcp (.register _) | .tcp (.buildSynAck _)
  | .tcp (.writeSynAck _ _) | .tcp (.startReader _) | .tcp (.lookup _ _) | .tcp (.write _ _ _)
  | .tcp (.remove _) | .tcp (.close _ _) | .tcp .done => .isTrue trivial

instance (pcpp : PcapPlusPlus) (buffer : List UInt8) (call : ForwardCall) (job : Job) :
    Decidable (WouldUseOwn pcpp buffer call job) :=
  inferInstanceAs (Decidable (_ ∧ (_ → _)))

/-- The payload and the flags a coroutine holds are those of its packet. -/
def HoldsOwn (pcpp : PcapPlusPlus) (call : ForwardCall) : Job → Prop
  | .udp stage =>
      match stage with
      | .create payload | .protect _ payload | .soTimeout _ payload | .getByName _ payload
      | .send _ payload => call.ownUdpPayload pcpp = some payload
      | _ => True
  | .tcp stage =>
      match stage with
      | .extractTcpPayload flags => flags = call.ownTcpFlags pcpp
      | .lookup flags payload => flags = call.ownTcpFlags pcpp ∧ payload = call.ownTcpPayload pcpp
      | .write _ payload flags =>
          flags = call.ownTcpFlags pcpp ∧ call.ownTcpPayload pcpp = some payload
      | _ => True
  | .reader _ _ => True

/-- What goes to a remote socket is the payload of the packet, or the part of it
that a failing write has got rid of. -/
def SendsOwn (pcpp : PcapPlusPlus) (call : ForwardCall) : Content → Prop
  | .upstream _ payload => ∃ whole, call.ownTcpPayload pcpp = some whole ∧ payload <+: whole
  | .datagram _ payload => call.ownUdpPayload pcpp = some payload
  | .passThrough _ | .udpResponse _ _ | .synAck _ _ | .data _ _ _ => True

variable {pcpp : PcapPlusPlus} {buffer : List UInt8} {call : ForwardCall}

private theorem usesOwn_of_held (held : call.packet <+: buffer) (job : Job) :
    UsesOwn pcpp buffer call job := by
  have own : buffer.take call.length = call.packet := (List.prefix_iff_eq_take.mp held).symm
  have payload : ∀ cast, extractPayload pcpp buffer call.length cast =
      extractPayload pcpp call.packet call.length cast := by
    intro cast
    rw [← extractPayload_take, own]
    rfl
  have flags : getTcpFlags pcpp buffer call.length = getTcpFlags pcpp call.packet call.length := by
    rw [← getTcpFlags_take, own]
    rfl
  cases job with
  | udp stage =>
      cases stage with
      | extractUdpPayload => exact payload Layer.asUdp
      | _ => exact True.intro
  | tcp stage =>
      cases stage with
      | getTcpFlags => exact flags
      | extractTcpPayload read => exact fun _ => payload Layer.asTcp
      | _ => exact True.intro
  | reader connection stage => exact True.intro

/-- A native call always returns; only such a call can be given another packet. -/
theorem nativeCall_returns {forwarder : Forwarder} {job : Job}
    (misled : ¬ UsesOwn pcpp forwarder.byteArray call job) :
    ∃ moved, jobNext pcpp forwarder call job .returns = some moved := by
  cases job with
  | udp stage =>
      cases stage with
      | extractUdpPayload =>
          simp only [jobNext, udpNext]
          split <;> exact ⟨_, rfl⟩
      | _ => exact absurd True.intro misled
  | tcp stage =>
      cases stage with
      | getTcpFlags | extractTcpPayload flags => exact ⟨_, rfl⟩
      | _ => exact absurd True.intro misled
  | reader connection stage => exact absurd True.intro misled

theorem wouldUseOwn_of_held (held : call.packet <+: buffer) (job : Job) :
    WouldUseOwn pcpp buffer call job :=
  ⟨usesOwn_of_held held job, fun _ => usesOwn_of_held held _⟩

private theorem finTest_wouldUseOwn (finFollows : Bool) :
    WouldUseOwn pcpp buffer call (.tcp (finTest finFollows)) := by
  cases finFollows <;> exact ⟨True.intro, nofun⟩

theorem WouldUseOwn.next {forwarder : Forwarder} {job next : Job} {answer : Answer}
    {effect : Effect} (own : WouldUseOwn pcpp forwarder.byteArray call job)
    (stepped : JobStep pcpp forwarder call job answer effect next) :
    WouldUseOwn pcpp forwarder.byteArray call next := by
  cases stepped with
  | udp stepped => cases stepped <;> exact ⟨True.intro, nofun⟩
  | tcp stepped =>
      cases stepped with
      | flagsRead =>
          obtain ⟨flags, payload⟩ := own
          have same : getTcpFlags pcpp forwarder.byteArray call.length = call.ownTcpFlags pcpp := flags
          rw [same]
          exact ⟨payload rfl, nofun⟩
      | nothingToWrite | written | nothingToRemove | closed => exact finTest_wouldUseOwn _
      | _ => exact ⟨True.intro, nofun⟩
  | reader stepped => cases stepped <;> exact ⟨True.intro, nofun⟩

private theorem finTest_holdsOwn (finFollows : Bool) :
    HoldsOwn pcpp call (.tcp (finTest finFollows)) := by
  cases finFollows <;> exact True.intro

theorem ownInvariant (pcpp : PcapPlusPlus) :
    JobInvariant pcpp (fun forwarder => UsesOwn pcpp forwarder.byteArray) (HoldsOwn pcpp)
      (SendsOwn pcpp) where
  udp _ _ := True.intro
  tcp _ _ := True.intro
  passThrough _ _ := True.intro
  kept forwarder call job answer effect next stepped uses holds := by
    cases stepped with
    | udp stepped =>
        cases stepped with
        | extracted found => exact Eq.trans (Eq.symm uses) found
        | created | shielded | timed | resolved => exact holds
        | _ => exact True.intro
    | tcp stepped =>
        cases stepped with
        | flagsRead => exact uses
        | extracted noSyn => exact ⟨holds, uses noSyn⟩
        | found located nonempty => exact ⟨holds.1, holds.2.symm⟩
        | nothingToWrite | written | nothingToRemove | closed => exact finTest_holdsOwn _
        | _ => exact True.intro
    | reader stepped => exact True.intro
  output forwarder call job answer content next stepped holds := by
    cases stepped with
    | udp stepped =>
        cases stepped with
        | sent => exact holds
        | written => exact True.intro
    | tcp stepped =>
        cases stepped with
        | synAckWritten => exact True.intro
        | written => exact ⟨_, holds.2, List.prefix_refl _⟩
        | writeInterrupted => exact ⟨_, holds.2, List.take_prefix _ _⟩
    | reader stepped => cases stepped with
        | written => exact True.intro
  launch forwarder call job answer launched next stepped holds := by
    cases stepped with
    | udp stepped => cases stepped
    | tcp stepped =>
        cases stepped with
        | readerStarted => exact True.intro
    | reader stepped => cases stepped

/-- What the next coroutine finds in the buffer matters only at a read; every
other step leaves the promise to all coroutines standing. -/
theorem wouldUseOwn_step {forwarder next : Forwarder} {label : Label}
    (own : ∀ task ∈ forwarder.tasks, WouldUseOwn pcpp forwarder.byteArray task.call task.job)
    (unread : ∀ packet, label ≠ .overwrite packet)
    (taken : step pcpp forwarder label = some next) :
    ∀ task ∈ next.tasks, WouldUseOwn pcpp next.byteArray task.call task.job := by
  cases step_forwarder taken with
  | @overwritten packet fits => exact absurd rfl (unread packet)
  | launched held first =>
      intro task member
      rcases List.mem_append.mp member with old | single
      · exact own task old
      · rw [List.mem_singleton.mp single]
        exact wouldUseOwn_of_held held _
  | passedThrough held other => exact own
  | passThroughFailed other => exact own
  | @resumed index task answer effect job located stepped =>
      have same : (forwarder.perform index task.call effect).byteArray = forwarder.byteArray := by
        cases effect <;> rfl
      simp only [resume, same]
      refine TaskPool.forall_advance own ((own task (List.mem_of_getElem? located)).next stepped) ?_
      intro new member
      obtain ⟨connection, rfl⟩ := stepped.launched new member
      exact ⟨True.intro, nofun⟩
  | closedAll => exact own
  | cleared pending => exact own

end Forwarder

end FirewallVpn
