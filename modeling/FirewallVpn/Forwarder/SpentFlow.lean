import FirewallVpn.Forwarder.Frame
import FirewallVpn.Forwarder.SequenceNumbers

/-! A flow that gets no more packets and whose coroutines have spent themselves:
what they have begun may still reach the TUN, and nothing else is sent. -/

set_option autoImplicit false

namespace FirewallVpn

namespace Forwarder

/-- The coroutine can send nothing to the remote side, a write to a closed socket failing,
and its loop, if it is a reader, ends at the next test. -/
def Spent (forwarder : Forwarder) : Job → Prop
  | .udp stage =>
      match stage with
      | .receive _ | .build _ _ | .write _ _ _ | .close _ | .done => True
      | .extractUdpPayload | .create _ | .protect _ _ | .soTimeout _ _ | .getByName _ _
      | .send _ _ => False
  | .tcp stage =>
      match stage with
      | .lookup _ payload => payload.getD [] = []
      | .write connection _ _ => forwarder.isClosed connection.socket
      | .remove _ | .close _ _ | .done => True
      | .getTcpFlags | .extractTcpPayload _ | .create | .protect _ | .soTimeout _ | .connect _
      | .register _ | .buildSynAck _ | .writeSynAck _ _ | .startReader _ => False
  | .reader connection stage =>
      match stage with
      | .remove | .close _ | .done => True
      | .isClosed | .read | .build _ | .write _ _ => forwarder.isClosed connection.socket

instance (forwarder : Forwarder) : ∀ job, Decidable (Spent forwarder job)
  | .udp (.receive _) | .udp (.build _ _) | .udp (.write _ _ _) | .udp (.close _) | .udp .done
  | .tcp (.remove _) | .tcp (.close _ _) | .tcp .done | .reader _ .remove | .reader _ (.close _)
  | .reader _ .done => .isTrue trivial
  | .udp .extractUdpPayload | .udp (.create _) | .udp (.protect _ _) | .udp (.soTimeout _ _)
  | .udp (.getByName _ _) | .udp (.send _ _) | .tcp .getTcpFlags | .tcp (.extractTcpPayload _)
  | .tcp .create | .tcp (.protect _) | .tcp (.soTimeout _) | .tcp (.connect _) | .tcp (.register _)
  | .tcp (.buildSynAck _) | .tcp (.writeSynAck _ _) | .tcp (.startReader _) => .isFalse id
  | .tcp (.lookup _ _) => inferInstanceAs (Decidable (_ = _))
  | .tcp (.write _ _ _) | .reader _ .isClosed | .reader _ .read | .reader _ (.build _) | .reader _ (.write _ _) =>
      inferInstanceAs (Decidable (_ = true))

/-- The body of the reader's loop. -/
def inBody : Job → Bool
  | .reader _ (.read) | .reader _ (.build _) | .reader _ (.write _ _) => true
  | _ => false

def isUdpResponse : Content → Bool
  | .udpResponse _ _ => true
  | _ => false

section Flow

variable (flow : ForwardCall → Bool)

/-- The iterations of the flow's reader at an index that are under way. -/
def underWay (forwarder : Forwarder) (index : Nat) : Nat :=
  match forwarder.tasks[index]? with
  | some task => if flow task.call && inBody task.job then 1 else 0
  | none => 0

/-- The data packets the reader at an index has written for the flow. -/
def segments (index : Nat) (outputs : List Output) : Nat :=
  outputs.countP fun output =>
    output.task = some index && flow output.call && isData output.content

/-- What the flow's part of `written` may be after `start`: responses of UDP
coroutines launched before, and one packet for each iteration under way. -/
structure OnlyUnderWay (start : Forwarder) (written : List Output) : Prop where
  responses : ∀ output ∈ written, flow output.call → isData output.content ∨
    isUdpResponse output.content ∧ ∃ index < start.tasks.length, output.task = some index
  iterations : ∀ index, segments flow index written ≤ underWay flow start index

/-- A state in which the flow winds down since `start`. -/
structure WindingDown (start forwarder : Forwarder) (written : List Output) : Prop where
  owned : Owned forwarder
  outputs : forwarder.outputs = start.outputs ++ written
  launched : start.tasks.length ≤ forwarder.tasks.length
  early : ∀ index task, forwarder.tasks[index]? = some task → flow task.call →
    index < start.tasks.length
  spent : ∀ task ∈ forwarder.tasks, flow task.call → Spent forwarder task.job
  responses : ∀ output ∈ written, flow output.call → isData output.content ∨
    isUdpResponse output.content ∧ ∃ index < start.tasks.length, output.task = some index
  balance : ∀ index,
    segments flow index written + underWay flow forwarder index ≤ underWay flow start index

end Flow

variable {pcpp : PcapPlusPlus} {flow : ForwardCall → Bool} {start forwarder next : Forwarder}
  {written : List Output}

private theorem Spent.mono {key : String} {job : Job} (spent : Spent forwarder job)
    (owns : OwnsJob forwarder key job)
    (closes : ∀ socket, forwarder.owner socket = some key → forwarder.isClosed socket →
      next.isClosed socket) : Spent next job := by
  cases job with
  | udp stage => exact spent
  | tcp stage =>
      cases stage with
      | write => exact closes _ owns.1 spent
      | _ => exact spent
  | reader connection stage =>
      cases stage with
      | isClosed | read | build | write => exact closes _ owns.1.1 spent
      | remove | close | done => exact True.intro

private theorem finTest_spent (finFollows : Bool) : Spent next (.tcp (finTest finFollows)) := by
  cases finFollows <;> exact True.intro

private theorem finTest_notInBody (finFollows : Bool) :
    inBody (.tcp (finTest finFollows)) = false := by
  cases finFollows <;> rfl

/-- A spent coroutine stays spent. What it puts out is a UDP response, or the
packet of the iteration it is in and now leaves. -/
private theorem spent_step {call : ForwardCall} {job after : Job} {answer : Answer}
    {effect : Effect} (spent : Spent forwarder job)
    (closes : ∀ connection stage, job = .reader connection stage →
      forwarder.isClosed connection.socket → next.isClosed connection.socket)
    (stepped : JobStep pcpp forwarder call job answer effect after) :
    Spent next after ∧ effect.launched call = [] ∧
      ((∃ content, effect = .output content ∧ inBody after = false ∧
          (isUdpResponse content ∧ isData content = false ∨ isData content ∧ inBody job)) ∨
        (∀ content, effect ≠ .output content) ∧ (inBody after → inBody job)) := by
  cases stepped with
  | udp stepped =>
      cases stepped with
      | received | timedOut | receiveFailed | buildFailed | buildThrew | built | writeFailed | closed =>
          exact ⟨True.intro, rfl, .inr ⟨nofun, nofun⟩⟩
      | written => exact ⟨True.intro, rfl, .inl ⟨_, rfl, rfl, .inl ⟨rfl, rfl⟩⟩⟩
      | noPayload | extracted | created | shielded | timed | resolved | sent => exact spent.elim
      | abandoned abandons =>
          rename_i stage
          cases stage <;> first | exact spent.elim | cases abandons
  | tcp stepped =>
      cases stepped with
      | found located nonempty => exact absurd spent nonempty
      | nothingToWrite idle =>
          exact ⟨finTest_spent _, rfl, .inr ⟨nofun, by simp [finTest_notInBody]⟩⟩
      | removed located => exact ⟨True.intro, rfl, .inr ⟨nofun, nofun⟩⟩
      | nothingToRemove absent =>
          exact ⟨finTest_spent _, rfl, .inr ⟨nofun, by simp [finTest_notInBody]⟩⟩
      | closed => exact ⟨finTest_spent _, rfl, .inr ⟨nofun, by simp [finTest_notInBody]⟩⟩
      | written opened | writeInterrupted opened =>
          rw [Spent, opened] at spent
          cases spent
      | writeFailed => exact ⟨True.intro, rfl, .inr ⟨nofun, nofun⟩⟩
      | flagsRead | synSeen | extracted | created | shielded | timed | connected | registered
      | buildFailed | built | synAckWritten | readerStarted => exact spent.elim
      | abandoned abandons =>
          rename_i stage
          cases stage <;> first | exact spent.elim | cases abandons
  | reader stepped =>
      have stays := closes _ _ rfl
      cases stepped with
      | foundClosed closed => exact ⟨True.intro, rfl, .inr ⟨nofun, nofun⟩⟩
      | foundOpen opened =>
          rw [Spent, opened] at spent
          cases spent
      | chunkRead opened nonempty fits =>
          rw [Spent, opened] at spent
          cases spent
      | ended ends => exact ⟨True.intro, rfl, .inr ⟨nofun, nofun⟩⟩
      | buildFailed | buildThrew => exact ⟨True.intro, rfl, .inr ⟨nofun, nofun⟩⟩
      | built packet => exact ⟨stays spent, rfl, .inr ⟨nofun, fun _ => rfl⟩⟩
      | written => exact ⟨stays spent, rfl, .inl ⟨_, rfl, rfl, .inr ⟨rfl, rfl⟩⟩⟩
      | writeFailed => exact ⟨True.intro, rfl, .inr ⟨nofun, nofun⟩⟩
      | removed located => exact ⟨True.intro, rfl, .inr ⟨nofun, nofun⟩⟩
      | nothingToRemove absent => exact ⟨True.intro, rfl, .inr ⟨nofun, nofun⟩⟩
      | closed => exact ⟨True.intro, rfl, .inr ⟨nofun, nofun⟩⟩

private theorem WindingDown.frame (winding : WindingDown flow start forwarder written)
    (owned : Owned next) (sameOutputs : next.outputs = forwarder.outputs)
    (sameTasks : next.tasks = forwarder.tasks)
    (closes : ∀ socket key, forwarder.owner socket = some key → forwarder.isClosed socket →
      next.isClosed socket) :
    WindingDown flow start next written where
  owned := owned
  outputs := sameOutputs.trans winding.outputs
  launched := sameTasks ▸ winding.launched
  early := sameTasks ▸ winding.early
  spent task member inFlow := by
    rw [sameTasks] at member
    exact (winding.spent task member inFlow).mono (winding.owned.tasks task member)
      fun socket => closes socket _
  responses := winding.responses
  balance index := by
    rw [underWay, sameTasks]
    exact winding.balance index

private theorem segments_foreign {output : Output} (foreign : flow output.call = false) (index : Nat) :
    segments flow index (written ++ [output]) = segments flow index written := by
  simp [segments, foreign]

private theorem responses_foreign {output : Output} (foreign : flow output.call = false)
    (responses : ∀ output ∈ written, flow output.call → isData output.content ∨
      isUdpResponse output.content ∧ ∃ index < start.tasks.length, output.task = some index) :
    ∀ other ∈ written ++ [output], flow other.call → isData other.content ∨
      isUdpResponse other.content ∧ ∃ index < start.tasks.length, other.task = some index := by
  intro other member inFlow
  rcases List.mem_append.mp member with old | single
  · exact responses other old inFlow
  · rw [List.mem_singleton.mp single, foreign] at inFlow
    cases inFlow

private theorem WindingDown.launch (winding : WindingDown flow start forwarder written)
    {call : ForwardCall} {job : Job} (foreign : flow call = false)
    (owned : Owned (forwarder.launch call job)) :
    WindingDown flow start (forwarder.launch call job) written := by
  have located : ∀ {index : Nat} {task : Task}, (forwarder.launch call job).tasks[index]? = some task →
      forwarder.tasks[index]? = some task ∨ task = ⟨call, job⟩ := by
    intro index task found
    rw [Forwarder.launch, List.getElem?_append] at found
    split at found
    · exact .inl found
    · exact .inr (List.mem_singleton.mp (List.mem_of_getElem? found))
  refine
    { owned := owned
      outputs := winding.outputs
      launched := Nat.le_trans winding.launched (by simp [Forwarder.launch])
      early := ?_
      spent := ?_
      responses := winding.responses
      balance := ?_ }
  · intro index task found inFlow
    rcases located found with old | rfl
    · exact winding.early index task old inFlow
    · rw [foreign] at inFlow
      cases inFlow
  · intro task member inFlow
    rcases List.mem_append.mp member with old | single
    · exact winding.spent task old inFlow
    · rw [List.mem_singleton.mp single, foreign] at inFlow
      cases inFlow
  · intro index
    have same : underWay flow (forwarder.launch call job) index ≤ underWay flow forwarder index := by
      rw [underWay]
      cases found : (forwarder.launch call job).tasks[index]? with
      | none => exact Nat.zero_le _
      | some task =>
          rcases located found with old | rfl
          · rw [underWay, old]
          · simp [foreign]
    exact Nat.le_trans (Nat.add_le_add_left same _) (winding.balance index)

private theorem underWay_resume {index other : Nat} {task : Task} {effect : Effect} {job : Job}
    (located : forwarder.tasks[index]? = some task)
    (quiet : ∀ launched ∈ effect.launched task.call, flow launched.call = false) :
    underWay flow (forwarder.resume task.call index effect job) other =
      if other = index then (if flow task.call && inBody job then 1 else 0)
      else underWay flow forwarder other := by
  split
  · next same =>
      subst same
      rw [underWay, resume, TaskPool.getElem?_advance_self located]
  · next distinct =>
      rw [underWay, underWay, resume]
      cases found : (TaskPool.advance forwarder.tasks index ⟨task.call, job⟩
          (effect.launched task.call))[other]? with
      | some after =>
          rcases TaskPool.getElem?_advance_cases located found with
            ⟨same, -⟩ | ⟨-, old⟩ | ⟨beyond, new⟩
          · exact absurd same distinct
          · rw [old]
          · rw [List.getElem?_eq_none beyond]
            simp [quiet after (List.mem_of_getElem? new)]
      | none =>
          have beyond : forwarder.tasks.length ≤ other := by
            have outside := List.getElem?_eq_none_iff.mp found
            rw [TaskPool.length_advance] at outside
            exact Nat.le_trans (Nat.le_add_right _ _) outside
          rw [List.getElem?_eq_none beyond]

/-- The parts of the invariant that do not look at what has been written. -/
private theorem WindingDown.resume (winding : WindingDown flow start forwarder written)
    {index : Nat} {task : Task} {answer : Answer} {effect : Effect} {job : Job} {after : List Output}
    (located : forwarder.tasks[index]? = some task)
    (stepped : JobStep pcpp forwarder task.call task.job answer effect job)
    (quiet : ∀ launched ∈ effect.launched task.call, flow launched.call = false)
    (spent : flow task.call → Spent (forwarder.perform index task.call effect) job)
    (outputs : (forwarder.perform index task.call effect).outputs = start.outputs ++ after)
    (responses : ∀ output ∈ after, flow output.call → isData output.content ∨
      isUdpResponse output.content ∧ ∃ index < start.tasks.length, output.task = some index)
    (balance : ∀ other, segments flow other after +
      underWay flow (forwarder.resume task.call index effect job) other ≤ underWay flow start other) :
    WindingDown flow start (forwarder.resume task.call index effect job) after := by
  refine
    { owned := winding.owned.resume located stepped
      outputs := outputs
      launched := Nat.le_trans winding.launched (by simp [Forwarder.resume])
      early := ?_
      spent := ?_
      responses := responses
      balance := balance }
  · intro other found foundAt inFlow
    rcases TaskPool.getElem?_advance_cases located foundAt with ⟨rfl, rfl⟩ | ⟨-, old⟩ | ⟨-, new⟩
    · exact winding.early other task located inFlow
    · exact winding.early other found old inFlow
    · rw [quiet found (List.mem_of_getElem? new)] at inFlow
      cases inFlow
  · have closes : ∀ socket key, forwarder.owner socket = some key → forwarder.isClosed socket →
        (forwarder.perform index task.call effect).isClosed socket :=
      fun socket key owned closed => isClosed_perform owned index task.call effect closed
    refine TaskPool.forall_advance (fun old member inFlow => ?_) spent fun new member inFlow => ?_
    · exact (winding.spent old member inFlow).mono (winding.owned.tasks old member)
        fun socket => closes socket _
    · rw [quiet new member] at inFlow
      cases inFlow

private theorem WindingDown.resume_foreign (winding : WindingDown flow start forwarder written)
    {index : Nat} {task : Task} {answer : Answer} {effect : Effect} {job : Job}
    (located : forwarder.tasks[index]? = some task) (foreign : flow task.call = false)
    (stepped : JobStep pcpp forwarder task.call task.job answer effect job) :
    ∃ after, WindingDown flow start (forwarder.resume task.call index effect job) after := by
  have quiet : ∀ launched ∈ effect.launched task.call, flow launched.call = false := by
    intro launched member
    obtain ⟨connection, rfl⟩ := stepped.launched launched member
    exact foreign
  have spent : flow task.call → Spent (forwarder.perform index task.call effect) job := by
    intro inFlow
    rw [foreign] at inFlow
    cases inFlow
  have unmoved : ∀ other, underWay flow (forwarder.resume task.call index effect job) other ≤
      underWay flow forwarder other := by
    intro other
    rw [underWay_resume located quiet]
    split
    · simp [foreign]
    · exact Nat.le_refl _
  have outputs := perform_outputs forwarder index task.call effect
  split at outputs
  · next content =>
      refine ⟨written ++ [⟨some index, task.call, content⟩], winding.resume located stepped quiet spent
        ?_ (responses_foreign foreign winding.responses) fun other => ?_⟩
      · rw [outputs, winding.outputs, List.append_assoc]
      · rw [segments_foreign foreign]
        exact Nat.le_trans (Nat.add_le_add_left (unmoved other) _) (winding.balance other)
  · refine ⟨written, winding.resume located stepped quiet spent ?_ winding.responses fun other => ?_⟩
    · rw [outputs, winding.outputs]
    · exact Nat.le_trans (Nat.add_le_add_left (unmoved other) _) (winding.balance other)

private theorem WindingDown.resume_flow (winding : WindingDown flow start forwarder written)
    {index : Nat} {task : Task} {answer : Answer} {effect : Effect} {job : Job}
    (located : forwarder.tasks[index]? = some task) (inFlow : flow task.call)
    (stepped : JobStep pcpp forwarder task.call task.job answer effect job) :
    ∃ after, WindingDown flow start (forwarder.resume task.call index effect job) after := by
  have member : task ∈ forwarder.tasks := List.mem_of_getElem? located
  have owns := winding.owned.tasks task member
  have closes : ∀ connection stage, task.job = .reader connection stage →
      forwarder.isClosed connection.socket →
      (forwarder.perform index task.call effect).isClosed connection.socket := by
    intro connection stage reader closed
    rw [reader] at owns
    exact isClosed_perform owns.1.1 index task.call effect closed
  obtain ⟨spent, unlaunched, outcome⟩ :=
    spent_step (winding.spent task member inFlow) closes stepped
  have quiet : ∀ launched ∈ effect.launched task.call, flow launched.call = false := by
    rw [unlaunched]
    exact List.forall_mem_nil _
  have before : underWay flow forwarder index = if inBody task.job then 1 else 0 := by
    rw [underWay, located]
    simp [inFlow]
  rcases outcome with ⟨content, rfl, left, kind⟩ | ⟨silent, stays⟩
  · refine ⟨written ++ [⟨some index, task.call, content⟩], winding.resume located stepped quiet
      (fun _ => spent) ?_ ?_ fun other => ?_⟩
    · rw [perform_outputs, winding.outputs]
      exact List.append_assoc _ _ _
    · intro output inAfter outputInFlow
      rcases List.mem_append.mp inAfter with old | single
      · exact winding.responses output old outputInFlow
      · rw [List.mem_singleton.mp single]
        rcases kind with ⟨response, -⟩ | ⟨data, -⟩
        · exact .inr ⟨response, index, winding.early index task located inFlow, rfl⟩
        · exact .inl data
    · rw [underWay_resume located quiet, segments, List.countP_append, ← segments]
      have balanced := winding.balance other
      split
      · next same =>
          subst same
          rw [before] at balanced
          rcases kind with ⟨-, noData⟩ | ⟨data, body⟩
          · simp only [left, noData, Bool.and_false, List.countP_singleton]
            simpa using Nat.le_trans (Nat.le_add_right _ _) balanced
          · rw [if_pos body] at balanced
            simpa [left, data, inFlow] using balanced
      · next distinct =>
          simpa [Ne.symm distinct] using balanced
  · have outputs := perform_outputs forwarder index task.call effect
    split at outputs
    · exact absurd rfl (silent _)
    · refine ⟨written, winding.resume located stepped quiet (fun _ => spent) ?_ winding.responses
        fun other => ?_⟩
      · rw [outputs, winding.outputs]
      · rw [underWay_resume located quiet]
        have balanced := winding.balance other
        split
        · next same =>
            subst same
            rw [before] at balanced
            refine Nat.le_trans (Nat.add_le_add_left ?_ _) balanced
            cases inside : inBody job with
            | false => simp
            | true => simp [inFlow, stays inside]
        · exact balanced

theorem WindingDown.step (winding : WindingDown flow start forwarder written) {label : Label}
    (foreign : ∀ call answer, label = .forwardPacket call answer → flow call = false)
    (taken : step pcpp forwarder label = some next) : ∃ after, WindingDown flow start next after := by
  have owned := winding.owned.step taken
  cases step_forwarder taken with
  | overwritten fits => exact ⟨written, winding.frame owned rfl rfl fun _ _ _ closed => closed⟩
  | launched held first => exact ⟨written, winding.launch (foreign _ _ rfl) owned⟩
  | @passedThrough call held other =>
      refine ⟨written ++ [⟨none, call, .passThrough call.packet⟩],
        { owned := owned
          outputs := ?_
          launched := winding.launched
          early := winding.early
          spent := winding.spent
          responses := responses_foreign (foreign _ _ rfl) winding.responses
          balance := fun index => ?_ }⟩
      · simp [winding.outputs]
      · rw [segments_foreign (foreign _ _ rfl)]
        exact winding.balance index
  | passThroughFailed other => exact ⟨written, winding⟩
  | @resumed index task answer effect job located stepped =>
      cases inFlow : flow task.call with
      | true => exact winding.resume_flow located inFlow stepped
      | false => exact winding.resume_foreign located inFlow stepped
  | closedAll =>
      exact ⟨written, winding.frame owned rfl rfl fun _ _ _ closed => isClosed_closeAll closed⟩
  | cleared pending => exact ⟨written, winding.frame owned rfl rfl fun _ _ _ closed => closed⟩

theorem windingDown_start (owned : Owned start)
    (spent : ∀ task ∈ start.tasks, flow task.call → Spent start task.job) :
    WindingDown flow start start [] where
  owned := owned
  outputs := (List.append_nil _).symm
  launched := Nat.le_refl _
  early _ _ located _ := (List.getElem?_eq_some_iff.mp located).1
  spent := spent
  responses := List.forall_mem_nil _
  balance index := by simp [segments]

theorem WindingDown.onlyUnderWay (winding : WindingDown flow start forwarder written) :
    OnlyUnderWay flow start (forwarder.outputs.drop start.outputs.length) := by
  rw [winding.outputs, List.drop_left]
  exact ⟨winding.responses, fun index => Nat.le_trans (Nat.le_add_right _ _) (winding.balance index)⟩

end Forwarder

end FirewallVpn
