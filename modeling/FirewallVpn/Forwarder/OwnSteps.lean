import FirewallVpn.Forwarder.JobInvariant

/-! One coroutine's own share of a run: the answers its statements got and what
they put out. Between two of them the other coroutines take any number of steps. -/

set_option autoImplicit false

namespace FirewallVpn

namespace Forwarder

def answerFor (index : Nat) : Label → Option Answer
  | .task other answer => if other = index then some answer else none
  | .overwrite _ | .forwardPacket _ _ | .cleanup | .clear => none

/-- The answers the coroutine at `index` has got, in order. -/
def answers (index : Nat) (labels : List Label) : List Answer := labels.filterMap (answerFor index)

/-- What the coroutine at `index` has put out, in order. -/
def contents (index : Nat) (forwarder : Forwarder) : List Content :=
  (forwarder.outputs.filter fun output => output.task = some index).map Output.content

def Effect.contents : Effect → List Content
  | .output content => [content]
  | .none | .newDatagramSocket | .closeDatagramSocket _ | .newSocket | .connect _ | .close _
  | .register _ _ | .remove _ | .launch _ => []

/-- Where a coroutine begins. -/
inductive First : Job → Prop where
  | udp : First (.udp .extractUdpPayload)
  | tcp : First (.tcp .getTcpFlags)
  | reader {connection} : First (.reader connection .isClosed)

variable {pcpp : PcapPlusPlus}

theorem contents_perform (index other : Nat) (forwarder : Forwarder) (call : ForwardCall)
    (effect : Effect) :
    contents index (forwarder.perform other call effect) =
      contents index forwarder ++ if other = index then effect.contents else [] := by
  by_cases same : other = index
  · cases effect <;> simp [contents, perform, Effect.contents, same]
  · cases effect <;> simp [contents, perform, same]

/-- A property of the answers and outputs of one coroutine and of the place it
has reached, at any moment of a run. -/
structure Share (holds : ForwardCall → Job → List Answer → List Content → Prop) (index : Nat)
    (labels : List Label) (forwarder : Forwarder) : Prop where
  started : ∀ task, forwarder.tasks[index]? = some task →
    holds task.call task.job (answers index labels) (contents index forwarder)
  waiting : forwarder.tasks[index]? = none →
    answers index labels = [] ∧ contents index forwarder = []

section Run

variable {holds : ForwardCall → Job → List Answer → List Content → Prop}
  {guard : Forwarder → Label → Prop} {index : Nat} {labels : List Label}

private theorem share_initial : Share holds index [] initial := by
  have noTasks : initial.tasks[index]? = none := List.getElem?_nil
  constructor
  · intro task located
    rw [noTasks] at located
    cases located
  · exact fun _ => ⟨List.filterMap_nil, List.map_nil⟩

private theorem Share.unmoved {forwarder next : Forwarder} {label : Label}
    (share : Share holds index labels forwarder) (unasked : answerFor index label = none)
    (sameTasks : next.tasks = forwarder.tasks)
    (silent : contents index next = contents index forwarder) :
    Share holds index (labels ++ [label]) next := by
  have same : answers index (labels ++ [label]) = answers index labels := by
    simp [answers, unasked]
  constructor
  · intro task located
    rw [same, silent]
    exact share.started task (sameTasks ▸ located)
  · intro absent
    rw [same, silent]
    exact share.waiting (sameTasks ▸ absent)

private theorem Share.launch {forwarder : Forwarder} {call : ForwardCall} {job : Job}
    {label : Label} (share : Share holds index labels forwarder) (unasked : answerFor index label = none)
    (first : holds call job [] []) :
    Share holds index (labels ++ [label]) (forwarder.launch call job) := by
  have same : answers index (labels ++ [label]) = answers index labels := by
    simp [answers, unasked]
  constructor
  · intro task located
    rw [same]
    rcases TaskPool.getElem?_append_cases located with old | ⟨beyond, new⟩
    · exact share.started task old
    · have absent := List.getElem?_eq_none beyond
      rw [List.mem_singleton.mp (List.mem_of_getElem? new), (share.waiting absent).1]
      change holds call job [] (contents index forwarder)
      rw [(share.waiting absent).2]
      exact first
  · intro absent
    rw [same]
    refine share.waiting (List.getElem?_eq_none ?_)
    have beyond := List.getElem?_eq_none_iff.mp absent
    rw [Forwarder.launch, List.length_append] at beyond
    exact Nat.le_of_add_right_le beyond

private theorem Share.resume_own {forwarder : Forwarder} {task : Task} {answer : Answer}
    {effect : Effect} {job : Job} (share : Share holds index labels forwarder)
    (located : forwarder.tasks[index]? = some task)
    (kept : ∀ history written, holds task.call task.job history written →
      holds task.call job (history ++ [answer]) (written ++ effect.contents)) :
    Share holds index (labels ++ [.task index answer])
      (forwarder.resume task.call index effect job) := by
  have moved : (forwarder.resume task.call index effect job).tasks[index]? = some ⟨task.call, job⟩ :=
    TaskPool.getElem?_advance_self located
  have more : contents index (forwarder.resume task.call index effect job) =
      contents index forwarder ++ effect.contents :=
    (contents_perform index index forwarder task.call effect).trans (by rw [if_pos rfl])
  constructor
  · intro after found
    rw [moved, Option.some.injEq] at found
    subst found
    rw [more]
    simpa [answers, answerFor] using kept _ _ (share.started task located)
  · intro absent
    rw [moved] at absent
    cases absent

private theorem Share.resume_other {forwarder : Forwarder} {other : Nat} {task : Task}
    {answer : Answer} {effect : Effect} {job : Job} (share : Share holds index labels forwarder)
    (located : forwarder.tasks[other]? = some task) (distinct : index ≠ other)
    (first : ∀ started ∈ effect.launched task.call, holds started.call started.job [] []) :
    Share holds index (labels ++ [.task other answer])
      (forwarder.resume task.call other effect job) := by
  have same : answers index (labels ++ [.task other answer]) = answers index labels := by
    simp [answers, answerFor, distinct.symm]
  have silent : contents index (forwarder.resume task.call other effect job) =
      contents index forwarder :=
    (contents_perform index other forwarder task.call effect).trans
      (by rw [if_neg distinct.symm, List.append_nil])
  constructor
  · intro after found
    rw [same, silent]
    rcases TaskPool.getElem?_advance_cases located found with
      ⟨moved, -⟩ | ⟨-, old⟩ | ⟨beyond, new⟩
    · exact absurd moved distinct
    · exact share.started after old
    · rw [(share.waiting (List.getElem?_eq_none beyond)).1,
        (share.waiting (List.getElem?_eq_none beyond)).2]
      exact first after (List.mem_of_getElem? new)
  · intro absent
    rw [same, silent]
    refine share.waiting (List.getElem?_eq_none ?_)
    have beyond := List.getElem?_eq_none_iff.mp absent
    rw [Forwarder.resume, TaskPool.length_advance] at beyond
    exact Nat.le_of_add_right_le beyond

/-- What holds where a coroutine begins, and is kept by each statement of it that
the guard admits, holds of its share of a whole run. -/
theorem share_of_run (index : Nat) (first : ∀ call job, First job → holds call job [] [])
    (kept : ∀ forwarder call job answer effect next history written,
      forwarder.tasks[index]? = some ⟨call, job⟩ → guard forwarder (.task index answer) →
      JobStep pcpp forwarder call job answer effect next → holds call job history written →
      holds call next (history ++ [answer]) (written ++ effect.contents))
    {final : Forwarder} (guarded : Transition.Guarded (step pcpp) guard initial labels)
    (ran : Transition.run (step pcpp) initial labels = some final) :
    Share holds index labels final := by
  refine guarded.induction (Share holds index) ?_ share_initial ran
  intro labels forwarder label next _ admitted share taken
  cases step_forwarder taken with
  | overwritten | passThroughFailed | closedAll | cleared => exact share.unmoved rfl rfl rfl
  | passedThrough => exact share.unmoved rfl rfl (by simp [contents])
  | launched held started =>
      refine share.launch rfl (first _ _ ?_)
      rcases started with ⟨-, rfl⟩ | ⟨-, rfl⟩
      · exact .udp
      · exact .tcp
  | @resumed other task answer effect job located stepped =>
      by_cases own : index = other
      · subst own
        exact share.resume_own located fun history written =>
          kept forwarder task.call task.job answer effect job history written located admitted stepped
      · refine share.resume_other located own fun started member => ?_
        obtain ⟨connection, rfl⟩ := stepped.launched started member
        exact first _ _ .reader

end Run

end Forwarder

end FirewallVpn
