import FirewallVpn.Forwarder.JobInvariant
import FirewallVpn.System.SharedBuffer

/-! The way of a packet through the firewall. What the forwarder works on are packets
read from the TUN, in their order and each at most once, that a verdict has admitted;
and for every packet handed over there is one coroutine, or one packet passed through. -/

set_option autoImplicit false

namespace FirewallVpn

namespace Forwarder

/-- The call a coroutine was launched for by `forwardPacket` itself. -/
def handledCall (task : Task) : Option ForwardCall :=
  match task.job with
  | .udp _ | .tcp _ => some task.call
  | .reader _ _ => none

def passedCall (output : Output) : Option ForwardCall :=
  match output.content with
  | .passThrough _ => some output.call
  | .udpResponse _ _ | .synAck _ _ | .data _ _ _ | .upstream _ _ | .datagram _ _ => none

def handledCalls (forwarder : Forwarder) : List ForwardCall := forwarder.tasks.filterMap handledCall

def passedCalls (forwarder : Forwarder) : List ForwardCall := forwarder.outputs.filterMap passedCall

variable {pcpp : PcapPlusPlus}

theorem JobStep.handled {forwarder : Forwarder} {call : ForwardCall} {job next : Job} {answer : Answer}
    {effect : Effect} (stepped : JobStep pcpp forwarder call job answer effect next) :
    handledCall ⟨call, next⟩ = handledCall ⟨call, job⟩ := by
  cases stepped <;> rfl

private theorem JobStep.silent {forwarder : Forwarder} {call : ForwardCall} {job next : Job}
    {answer : Answer} {content : Content}
    (stepped : JobStep pcpp forwarder call job answer (.output content) next) (output : Output)
    (same : output.content = content) : passedCall output = none := by
  unfold passedCall
  rw [same]
  cases stepped with
  | udp stepped => cases stepped <;> rfl
  | tcp stepped => cases stepped <;> rfl
  | reader stepped => cases stepped; rfl

/-- A step of the forwarder takes over a call with one coroutine, or passes its packet
through, or drops it when that fails; no other step does. -/
theorem step_takesOver {forwarder next : Forwarder} {label : Label}
    (taken : step pcpp forwarder label = some next) :
    match label with
    | .forwardPacket call answer =>
        if call.traffic.protocolByte = .unknown then
          next.handledCalls = forwarder.handledCalls ∧
            (answer = .returns ∧ next.passedCalls = forwarder.passedCalls ++ [call] ∨
              answer = .throws ∧ next.passedCalls = forwarder.passedCalls)
        else next.handledCalls = forwarder.handledCalls ++ [call] ∧
          next.passedCalls = forwarder.passedCalls
    | .overwrite _ | .task _ _ | .cleanup | .clear =>
        next.handledCalls = forwarder.handledCalls ∧ next.passedCalls = forwarder.passedCalls := by
  cases step_forwarder taken with
  | overwritten | closedAll | cleared => exact ⟨rfl, rfl⟩
  | launched held first =>
      rcases first with ⟨protocol, rfl⟩ | ⟨protocol, rfl⟩
      · simp [protocol, handledCalls, passedCalls, launch, handledCall]
      · simp [protocol, handledCalls, passedCalls, launch, handledCall]
  | passedThrough held other => simp [other, handledCalls, passedCalls, passedCall]
  | passThroughFailed other => simp [other]
  | @resumed index task answer effect job located stepped =>
      constructor
      · refine TaskPool.filterMap_advance located stepped.handled fun launched member => ?_
        obtain ⟨connection, rfl⟩ := stepped.launched launched member
        rfl
      · change (forwarder.perform index task.call effect).outputs.filterMap passedCall = _
        rw [perform_outputs]
        split
        · have silent := stepped.silent ⟨some index, task.call, _⟩ rfl
          rw [List.filterMap_append, List.filterMap_cons_none silent, List.filterMap_nil,
            List.append_nil]
          rfl
        · rfl

theorem step_unread {forwarder next : Forwarder} {label : Label}
    (taken : step pcpp forwarder label = some next) (unread : ∀ packet, label ≠ .overwrite packet) :
    next.byteArray = forwarder.byteArray := by
  cases step_forwarder taken with
  | overwritten fits => exact absurd rfl (unread _)
  | @resumed index task answer effect job located stepped => cases effect <;> rfl
  | launched | passedThrough | passThroughFailed | closedAll | cleared => rfl

end Forwarder

namespace System

variable {pcpp : PcapPlusPlus}

def arrival : Label → Option (List UInt8)
  | .read packet => if packet = [] then none else some packet
  | .service _ | .laterInstance _ | .addresses _ | .parse _ _ _ | .lookup _ | .verdict | .forward _
  | .task _ _ | .clear => none

def arrivals (labels : List Label) : List (List UInt8) := labels.filterMap arrival

/-- The packet the loop has read and not yet decided on. -/
def inHand (system : System) : List (List UInt8) :=
  match system.loop with
  | .reading => []
  | .parsing length => [system.forwarder.byteArray.take length]
  | .lookup call _ | .verdict call _ | .forward call => [call.packet]

def Admits (call : ForwardCall) (system : System) (label : Label) : Prop :=
  label = .verdict ∧ ∃ isAddressBlocked, system.loop = .verdict call isAddressBlocked ∧
    FirewallVpn.verdict system.service.blockedAppCache call.sourcePackageName isAddressBlocked = .forward

theorem SystemStep.buffer {system next : System} {label : Label}
    (stepped : SystemStep pcpp system label next) :
    (∃ packet, label = .read packet) ∨ next.forwarder.byteArray = system.forwarder.byteArray := by
  cases stepped with
  | read | readNothing => exact .inl ⟨_, rfl⟩
  | @service label =>
      refine .inr ?_
      by_cases destroys : label.destroys = true <;> simp [afterService, destroys, Forwarder.closeAll]
  | forwarded stage taken =>
      exact .inr (Forwarder.step_unread taken fun _ => Forwarder.Label.noConfusion)
  | task taken | cleared taken =>
      exact .inr (Forwarder.step_unread taken fun _ => Forwarder.Label.noConfusion)
  | laterInstance | addresses | skipped | unowned | tracked | lookedUp | dropped | accepted =>
      exact .inr rfl

theorem inHand_of_same {system next : System} (loop : next.loop = system.loop)
    (buffer : next.forwarder.byteArray = system.forwarder.byteArray) : next.inHand = system.inHand := by
  rw [inHand, inHand, loop, buffer]

private theorem step_readNothing {system next : System}
    (taken : system.step pcpp (.read []) = some next) : next = system := by
  simp only [step] at taken
  split at taken
  · cases taken
  · cases stage : system.loop with
    | reading =>
        rw [stage] at taken
        cases taken
        rfl
    | parsing | lookup | verdict | forward =>
        rw [stage] at taken
        cases taken

/-- A step appends to what has been forwarded or is in hand at most what it reads. -/
theorem step_inOrder {system next : System} {label : Label}
    (taken : system.step pcpp label = some next) :
    (next.forwarded.map ForwardCall.packet ++ next.inHand).Sublist
      (system.forwarded.map ForwardCall.packet ++ system.inHand ++ (arrival label).toList) := by
  have stepped := step_system taken
  have buffer := stepped.buffer
  have kept : next.forwarded = system.forwarded → next.inHand = system.inHand ∨ next.inHand = [] →
      (next.forwarded.map ForwardCall.packet ++ next.inHand).Sublist
        (system.forwarded.map ForwardCall.packet ++ system.inHand ++ (arrival label).toList) := by
    intro same holds
    rw [same]
    refine List.Sublist.trans ?_ (List.sublist_append_left _ _)
    rcases holds with holds | holds
    · rw [holds]
    · rw [holds]
      exact List.Sublist.append_left (List.nil_sublist _) _
  cases stepped with
  | @service label service =>
      refine kept rfl ?_
      by_cases ends : label = .readLoopBreaks ∨ label = .readLoopExits
      · exact .inr (by simp [inHand, afterService, ends])
      · refine .inl (inHand_of_same (by simp [afterService, ends]) ?_)
        rcases buffer with ⟨packet, reads⟩ | same
        · cases reads
        · exact same
  | laterInstance | addresses => exact kept rfl (.inl rfl)
  | readNothing => exact kept rfl (.inl rfl)
  | @read packet forwarder atHead overwrites =>
      by_cases empty : packet = []
      · subst empty
        have same := step_readNothing taken
        exact kept (congrArg System.forwarded same) (.inl (congrArg System.inHand same))
      · cases Forwarder.step_forwarder overwrites with
        | overwritten fits => simp [inHand, atHead, arrival, empty]
  | skipped | dropped => exact kept rfl (.inr rfl)
  | unowned stage => exact kept rfl (.inl (by simp [inHand, stage, parsed]))
  | tracked stage parses => exact kept rfl (.inl (by simp [inHand, stage, parses, parsed]))
  | lookedUp stage | accepted stage => exact kept rfl (.inl (by simp [inHand, stage]))
  | forwarded stage => simp [inHand, stage]
  | task | cleared =>
      rcases buffer with ⟨packet, reads⟩ | same
      · cases reads
      · exact kept rfl (.inl (inHand_of_same rfl same))

/-- A call in hand for forwarding has just been admitted, or was in hand before. -/
theorem step_admitted {system next : System} {label : Label} {call : ForwardCall}
    (taken : system.step pcpp label = some next)
    (member : call ∈ next.forwarded ∨ next.loop = .forward call) :
    (call ∈ system.forwarded ∨ system.loop = .forward call) ∨ Admits call system label := by
  cases step_system taken with
  | @service label service =>
      rcases member with old | now
      · exact .inl (.inl old)
      · simp only [afterService] at now
        split at now
        · cases now
        · exact .inl (.inr now)
  | laterInstance | addresses | readNothing | task | cleared => exact .inl member
  | read | skipped | unowned | tracked | lookedUp | dropped =>
      rcases member with old | now
      · exact .inl (.inl old)
      · cases now
  | accepted stage allowed =>
      rcases member with old | now
      · exact .inl (.inl old)
      · cases now
        exact .inr ⟨rfl, _, stage, allowed⟩
  | forwarded stage =>
      rcases member with listed | now
      · rcases List.mem_append.mp listed with old | new
        · exact .inl (.inl old)
        · rw [List.mem_singleton.mp new]
          exact .inl (.inr stage)
      · cases now

/-- What the forwarder has taken over, against the calls made. -/
structure TakenOver (system : System) : Prop where
  handled : system.forwarder.handledCalls =
    system.forwarded.filter fun call => call.traffic.protocolByte ≠ .unknown
  passed : system.forwarder.passedCalls.Sublist
    (system.forwarded.filter fun call => call.traffic.protocolByte = .unknown)
  accounted : ∀ call ∈ system.forwarder.calls, call ∈ system.forwarded

theorem TakenOver.unchanged {system next : System} {label : Forwarder.Label}
    (holds : TakenOver system) (same : next.forwarded = system.forwarded)
    (taken : system.forwarder.step pcpp label = some next.forwarder)
    (silent : ∀ call answer, label ≠ .forwardPacket call answer) : TakenOver next := by
  have moved := Forwarder.step_takesOver taken
  have known : next.forwarder.handledCalls = system.forwarder.handledCalls ∧
      next.forwarder.passedCalls = system.forwarder.passedCalls := by
    cases label with
    | forwardPacket call answer => exact absurd rfl (silent call answer)
    | overwrite | task | cleanup | clear => exact moved
  constructor
  · rw [known.1, same, holds.handled]
  · rw [known.2, same]
    exact holds.passed
  · intro call member
    rw [same]
    rcases Forwarder.step_calls taken member with old | ⟨answer, now⟩
    · exact holds.accounted call old
    · exact absurd now (silent call answer)

theorem TakenOver.step {system next : System} {label : Label} (holds : TakenOver system)
    (taken : system.step pcpp label = some next) : TakenOver next := by
  have stepped := step_system taken
  have moved := stepped.forwarder
  cases stepped with
  | @service label service =>
      by_cases destroys : label.destroys = true
      · simp only [forwarderLabel, destroys, if_true] at moved
        exact holds.unchanged rfl moved fun _ _ => Forwarder.Label.noConfusion
      · have same : (system.afterService label service).forwarder = system.forwarder := by
          simp [afterService, destroys]
        exact ⟨by rw [same]; exact holds.handled, by rw [same]; exact holds.passed,
          by rw [same]; exact holds.accounted⟩
  | laterInstance | addresses | readNothing | skipped | unowned | tracked | lookedUp | dropped
  | accepted => exact ⟨holds.handled, holds.passed, holds.accounted⟩
  | read atHead overwrites =>
      exact holds.unchanged rfl overwrites fun _ _ => Forwarder.Label.noConfusion
  | task resumes => exact holds.unchanged rfl resumes fun _ _ => Forwarder.Label.noConfusion
  | cleared clears => exact holds.unchanged rfl clears fun _ _ => Forwarder.Label.noConfusion
  | @forwarded call answer forwarder stage launches =>
      have takenOver := Forwarder.step_takesOver launches
      simp only at takenOver
      have accounted : ∀ other ∈ forwarder.calls, other ∈ system.forwarded ++ [call] := by
        intro other member
        rcases Forwarder.step_calls launches member with old | ⟨_, now⟩
        · exact List.mem_append_left _ (holds.accounted other old)
        · cases now
          exact List.mem_append_right _ (List.mem_singleton.mpr rfl)
      by_cases unknown : call.traffic.protocolByte = .unknown
      · rw [if_pos unknown] at takenOver
        obtain ⟨handled, passed⟩ := takenOver
        refine ⟨?_, ?_, accounted⟩
        · simp [handled, holds.handled, unknown]
        · rcases passed with ⟨-, passed⟩ | ⟨-, passed⟩
          · simpa [passed, unknown] using holds.passed
          · simpa [passed, unknown] using holds.passed.trans (List.sublist_append_left _ _)
      · rw [if_neg unknown] at takenOver
        refine ⟨?_, ?_, accounted⟩
        · simp [takenOver.1, holds.handled, unknown]
        · simpa [takenOver.2, unknown] using holds.passed

structure Pipeline (pcpp : PcapPlusPlus) (persisted : Finset String) (labels : List Label)
    (system : System) : Prop extends TakenOver system where
  inOrder : (system.forwarded.map ForwardCall.packet).Sublist (arrivals labels)
  admitted : ∀ call ∈ system.forwarded,
    Transition.Occurs (step pcpp) (Admits call) (created persisted) labels

/-- In every run the packets handed to the forwarder are a part of those read, in the
same order and each at most once, and each was admitted; the forwarder has launched
one coroutine for each UDP and TCP packet, passed others through at most once, and works
for nothing else. -/
theorem pipeline_of_run {persisted : Finset String} {labels : List Label} {system : System}
    (ran : Transition.run (step pcpp) (created persisted) labels = some system) :
    Pipeline pcpp persisted labels system := by
  obtain ⟨takenOver, inOrder, admitted⟩ := Transition.run_induction
    (fun labels system => TakenOver system ∧
      (system.forwarded.map ForwardCall.packet ++ system.inHand).Sublist (arrivals labels) ∧
      ∀ call, call ∈ system.forwarded ∨ system.loop = .forward call →
        Transition.Occurs (step pcpp) (Admits call) (created persisted) labels)
    (by
      intro labels system label next reached before taken
      obtain ⟨takenOver, inOrder, admitted⟩ := before
      have more : arrivals (labels ++ [label]) = arrivals labels ++ (arrival label).toList := by
        cases found : arrival label <;> simp [arrivals, found]
      refine ⟨takenOver.step taken, ?_, fun call member => ?_⟩
      · rw [more]
        exact (step_inOrder taken).trans (inOrder.append_right _)
      · rw [Transition.occurs_append_singleton reached]
        exact (step_admitted taken member).imp_left (admitted call))
    ⟨⟨rfl, List.Sublist.refl _, fun _ member => (by cases member)⟩, List.Sublist.refl _,
      fun _ member => by rcases member with member | member <;> cases member⟩ ran
  exact ⟨takenOver, (List.sublist_append_left _ _).trans inOrder,
    fun call member => admitted call (.inl member)⟩

/-- Two datagrams are read, and the second is from a blocked app. -/
def twoDatagrams : List Label :=
  [.service .emission, .service .checkRunning, .service (.command .START_VPN_SERVICE)] ++
    acceptedTurn datagramToPort9000.bytes "com.example.mail" ++
    (acceptedTurn blockedDatagram.bytes "com.example.blocked").take 4

theorem twoDatagrams_pipeline :
    ∃ final, Transition.run (step .headerRules) (created {"com.example.blocked"}) twoDatagrams =
        some final ∧ (arrivals twoDatagrams).length = 2 ∧
      final.forwarded.map ForwardCall.packet = [datagramToPort9000.bytes] ∧
      Pipeline .headerRules {"com.example.blocked"} twoDatagrams final := by
  have seen : (Transition.run (step .headerRules) (created {"com.example.blocked"})
      twoDatagrams).map (fun final => final.forwarded.map ForwardCall.packet) =
        some [datagramToPort9000.bytes] := by
    decide +kernel
  obtain ⟨final, ran, forwarded⟩ := Option.map_eq_some_iff.mp seen
  exact ⟨final, ran, by decide +kernel, forwarded, pipeline_of_run ran⟩

end System

end FirewallVpn
