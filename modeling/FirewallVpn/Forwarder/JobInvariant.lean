import FirewallVpn.Forwarder.Inversion

/-! Invariants of single coroutines. A coroutine is started in one of two ways,
and from then on what it does depends on its own call and place; a property of
calls and places that its statements keep holds of every coroutine of a run, and
what the statements put out has the property promised for it. `admits` is what
the schedule may be asked to grant a statement. -/

set_option autoImplicit false

namespace FirewallVpn

namespace Forwarder

structure JobInvariant (pcpp : PcapPlusPlus) (admits : Forwarder → ForwardCall → Job → Prop)
    (holds : ForwardCall → Job → Prop) (produces : ForwardCall → Content → Prop) : Prop where
  udp : ∀ call, call.traffic.protocolByte = .udp → holds call (.udp .extractUdpPayload)
  tcp : ∀ call, call.traffic.protocolByte = .tcp → holds call (.tcp .getTcpFlags)
  passThrough : ∀ call, call.traffic.protocolByte = .unknown →
    produces call (.passThrough call.packet)
  kept : ∀ forwarder call job answer effect next,
    JobStep pcpp forwarder call job answer effect next → admits forwarder call job →
      holds call job → holds call next
  output : ∀ forwarder call job answer content next,
    JobStep pcpp forwarder call job answer (.output content) next → holds call job →
      produces call content
  launch : ∀ forwarder call job answer launched next,
    JobStep pcpp forwarder call job answer (.launch launched) next → holds call job →
      holds call launched

/-- Every task and every output of a state satisfies its part of an invariant. -/
def AllJobs (holds : ForwardCall → Job → Prop) (produces : ForwardCall → Content → Prop)
    (forwarder : Forwarder) : Prop :=
  (∀ task ∈ forwarder.tasks, holds task.call task.job) ∧
    ∀ output ∈ forwarder.outputs, produces output.call output.content

variable {pcpp : PcapPlusPlus} {admits : Forwarder → ForwardCall → Job → Prop}
  {holds : ForwardCall → Job → Prop} {produces : ForwardCall → Content → Prop}

theorem perform_outputs (forwarder : Forwarder) (index : Nat) (call : ForwardCall)
    (effect : Effect) :
    (forwarder.perform index call effect).outputs =
      match effect with
      | .output content => forwarder.outputs ++ [⟨some index, call, content⟩]
      | _ => forwarder.outputs := by
  cases effect <;> rfl

private theorem AllJobs.launch {forwarder : Forwarder} {call : ForwardCall} {job : Job}
    (all : AllJobs holds produces forwarder) (new : holds call job) :
    AllJobs holds produces (forwarder.launch call job) := by
  refine ⟨fun task member => ?_, all.2⟩
  rcases List.mem_append.mp member with old | single
  · exact all.1 task old
  · rw [List.mem_singleton.mp single]
    exact new

private theorem AllJobs.resume (invariant : JobInvariant pcpp admits holds produces)
    {forwarder : Forwarder} {index : Nat} {task : Task} {answer : Answer} {effect : Effect} {job : Job}
    (all : AllJobs holds produces forwarder) (located : forwarder.tasks[index]? = some task)
    (admitted : admits forwarder task.call task.job)
    (stepped : JobStep pcpp forwarder task.call task.job answer effect job) :
    AllJobs holds produces (forwarder.resume task.call index effect job) := by
  have current : holds task.call task.job := all.1 task (List.mem_of_getElem? located)
  constructor
  · refine TaskPool.forall_advance all.1 (invariant.kept _ _ _ _ _ _ stepped admitted current) ?_
    intro new member
    cases effect with
    | launch launched =>
        rw [List.mem_singleton.mp member]
        exact invariant.launch _ _ _ _ _ _ stepped current
    | none | newDatagramSocket | closeDatagramSocket | newSocket | connect | close | register
    | remove | output => cases member
  · change ∀ output ∈ (forwarder.perform index task.call effect).outputs, _
    rw [perform_outputs]
    split
    · next content =>
        intro output member
        rcases List.mem_append.mp member with old | single
        · exact all.2 output old
        · rw [List.mem_singleton.mp single]
          exact invariant.output _ _ _ _ _ _ stepped current
    · exact all.2

/-- The statement a label resumes is granted what it may ask. -/
def Admitted (admits : Forwarder → ForwardCall → Job → Prop) (forwarder : Forwarder) : Label → Prop
  | .task index _ => ∀ task ∈ forwarder.tasks[index]?, admits forwarder task.call task.job
  | .overwrite _ | .forwardPacket _ _ | .cleanup | .clear => True

theorem JobInvariant.step (invariant : JobInvariant pcpp admits holds produces)
    {forwarder next : Forwarder} {label : Label} (all : AllJobs holds produces forwarder)
    (admitted : Admitted admits forwarder label)
    (taken : Forwarder.step pcpp forwarder label = some next) : AllJobs holds produces next := by
  cases step_forwarder taken with
  | overwritten fits => exact all
  | launched held first =>
      rcases first with ⟨protocol, rfl⟩ | ⟨protocol, rfl⟩
      · exact all.launch (invariant.udp _ protocol)
      · exact all.launch (invariant.tcp _ protocol)
  | passedThrough held other =>
      refine ⟨all.1, fun output member => ?_⟩
      rcases List.mem_append.mp member with old | single
      · exact all.2 output old
      · rw [List.mem_singleton.mp single]
        exact invariant.passThrough _ other
  | passThroughFailed other => exact all
  | resumed located stepped => exact all.resume invariant located (admitted _ located) stepped
  | closedAll => exact all
  | cleared pending => exact all

theorem allJobs_initial : AllJobs holds produces initial :=
  ⟨List.forall_mem_nil _, List.forall_mem_nil _⟩

theorem JobInvariant.run (invariant : JobInvariant pcpp (fun _ _ _ => True) holds produces)
    {labels : List Label} {final : Forwarder}
    (ran : Transition.run (Forwarder.step pcpp) initial labels = some final) :
    AllJobs holds produces final := by
  refine Transition.run_preserves (AllJobs holds produces) ?_ allJobs_initial ran
  intro forwarder label next all taken
  refine invariant.step all ?_ taken
  cases label with
  | task index answer => exact fun _ _ => True.intro
  | overwrite | forwardPacket | cleanup | clear => exact True.intro

/-- The calls that coroutines work for and outputs were made for. -/
def calls (forwarder : Forwarder) : List ForwardCall :=
  forwarder.tasks.map Task.call ++ forwarder.outputs.map Output.call

theorem mem_calls {forwarder : Forwarder} {call : ForwardCall} :
    call ∈ forwarder.calls ↔
      (∃ task ∈ forwarder.tasks, task.call = call) ∨ ∃ output ∈ forwarder.outputs, output.call = call := by
  simp [calls]

theorem step_calls {forwarder next : Forwarder} {label : Label}
    (taken : step pcpp forwarder label = some next) {call : ForwardCall} (member : call ∈ next.calls) :
    call ∈ forwarder.calls ∨ ∃ answer, label = .forwardPacket call answer := by
  cases step_forwarder taken with
  | overwritten fits => exact .inl member
  | launched held first =>
      simp only [calls, launch, List.map_append, List.map_cons, List.map_nil, List.mem_append,
        List.mem_singleton] at member ⊢
      rcases member with (old | rfl) | old
      · exact .inl (.inl old)
      · exact .inr ⟨_, rfl⟩
      · exact .inl (.inr old)
  | passedThrough held other =>
      simp only [calls, List.map_append, List.map_cons, List.map_nil, List.mem_append,
        List.mem_singleton] at member ⊢
      rcases member with old | old | rfl
      · exact .inl (.inl old)
      · exact .inl (.inr old)
      · exact .inr ⟨_, rfl⟩
  | passThroughFailed other => exact .inl member
  | @resumed index task answer effect job located stepped =>
      have current : task.call ∈ forwarder.calls :=
        mem_calls.mpr (.inl ⟨task, List.mem_of_getElem? located, rfl⟩)
      refine .inl ?_
      rcases mem_calls.mp member with ⟨later, inTasks, same⟩ | ⟨output, inOutputs, rfl⟩
      · have all : ∀ kept ∈ (forwarder.resume task.call index effect job).tasks,
            kept.call ∈ forwarder.calls := by
          apply TaskPool.forall_advance
          · exact fun old inOld => mem_calls.mpr (.inl ⟨old, inOld, rfl⟩)
          · exact current
          · intro new inNew
            obtain ⟨connection, rfl⟩ := stepped.launched new inNew
            exact current
        exact same ▸ all later inTasks
      · change output ∈ (forwarder.perform index task.call effect).outputs at inOutputs
        rw [perform_outputs] at inOutputs
        split at inOutputs
        · rcases List.mem_append.mp inOutputs with old | single
          · exact mem_calls.mpr (.inr ⟨output, old, rfl⟩)
          · rw [List.mem_singleton.mp single]
            exact current
        · exact mem_calls.mpr (.inr ⟨output, inOutputs, rfl⟩)
  | closedAll => exact .inl member
  | cleared pending => exact .inl member

end Forwarder

end FirewallVpn
