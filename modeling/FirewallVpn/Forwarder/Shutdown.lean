import FirewallVpn.Forwarder.Orphans
import FirewallVpn.Forwarder.OwnSteps

/-! Whether `cleanup()` is final. Its closing pass and its `clear()` are two steps,
and the coroutines launched before it are not cancelled: each of them goes on from
the place it has reached. -/

set_option autoImplicit false

namespace FirewallVpn

namespace Forwarder

/-- The step belongs to a coroutine that has been launched already. -/
def Label.isTask : Label → Bool
  | .task _ _ => true
  | .overwrite _ | .forwardPacket _ _ | .cleanup | .clear => false

/-- A packet of a connection for the TUN. -/
def isSegment : Content → Bool
  | .synAck _ _ | .data _ _ _ => true
  | .passThrough _ | .udpResponse _ _ | .upstream _ _ | .datagram _ _ => false

def writtenSegments (forwarder : Forwarder) : List Output :=
  forwarder.outputs.filter fun output => isSegment output.content

section

variable (pcpp : PcapPlusPlus)

/-- However the coroutines go on during and after `cleanup()`, the sockets
registered before it returns are closed, the map stays empty, and no packet of a
connection is written any more. -/
def Final (history : List Label) (reached : Forwarder) : Prop :=
  ∀ (during after : List Label) (returned final : Forwarder),
    (∀ label ∈ during, label.isTask) → (∀ label ∈ after, label.isTask) →
    Transition.run (step pcpp) reached (.cleanup :: during ++ [.clear]) = some returned →
    Transition.run (step pcpp) returned after = some final →
      (∀ socket, EverRegistered pcpp (history ++ .cleanup :: during) socket → final.isClosed socket) ∧
        (∀ key, final.tcpConnections.lookup key = none) ∧
          writtenSegments final = writtenSegments returned

/-- The coroutine may yet register a connection or write a packet of one. -/
def active (forwarder : Forwarder) (call : ForwardCall) : Job → Bool
  | .tcp stage =>
      match stage with
      | .getTcpFlags => hasSyn (getTcpFlags pcpp forwarder.byteArray call.length)
      | .extractTcpPayload flags => hasSyn flags
      | .create | .protect _ | .soTimeout _ | .connect _ | .register _ | .writeSynAck _ _ => true
      | .buildSynAck _ =>
          (buildTcpPacket pcpp "10.0.0.2" call.traffic.srcIp call.traffic.dstPort
            call.traffic.srcPort 0x12 1 1 none).isSome
      | .startReader _ | .lookup _ _ | .write _ _ _ | .remove _ | .close _ _ | .done => false
  | .reader _ stage =>
      match stage with
      | .build responseData =>
          (buildTcpResponsePacket pcpp responseData call.traffic.dstIp call.traffic.dstPort
            "10.0.0.2" call.traffic.srcPort).isSome
      | .write _ _ => true
      | .isClosed | .read | .remove | .close _ | .done => false
  | .udp _ => false

/-- Every registered socket that is open is in the map, and no coroutine is on its
way to a registration or to a packet of a connection. -/
structure ReadyToStop (history : List Label) (reached : Forwarder) : Prop where
  filed : ∀ socket, EverRegistered pcpp history socket → reached.isClosed socket = false →
    Filed reached socket
  idle : ∀ task ∈ reached.tasks, active pcpp reached task.call task.job = false

end

variable {pcpp : PcapPlusPlus}

/-! The connections that coroutines carry have been registered. -/

def carried : Job → Option TcpConnection
  | .tcp (.buildSynAck connection) | .tcp (.writeSynAck connection _) | .tcp (.startReader connection)
  | .reader connection _ => some connection
  | .udp _ | .tcp _ => none

private theorem finTest_carried (finFollows : Bool) : carried (.tcp (finTest finFollows)) = none := by
  cases finFollows <;> rfl

theorem JobStep.carries {forwarder : Forwarder} {call : ForwardCall} {job next : Job}
    {answer : Answer} {effect : Effect} {connection : TcpConnection}
    (stepped : JobStep pcpp forwarder call job answer effect next)
    (carries : carried next = some connection) :
    carried job = some connection ∨ holdOf job = .registering connection.socket := by
  cases stepped with
  | udp stepped => cases carries
  | tcp stepped =>
      cases stepped with
      | registered =>
          cases carries
          exact .inr rfl
      | built | synAckWritten => exact .inl carries
      | nothingToWrite | written | nothingToRemove | closed =>
          rw [finTest_carried] at carries
          cases carries
      | flagsRead | synSeen | extracted | created | shielded | timed | connected | buildFailed
      | abandoned | readerStarted | found | writeInterrupted | writeFailed | removed => cases carries
  | reader stepped => exact .inl carries

theorem JobStep.launches {forwarder : Forwarder} {call : ForwardCall} {job next : Job}
    {answer : Answer} {effect : Effect} {connection : TcpConnection} {task : Task}
    (stepped : JobStep pcpp forwarder call job answer effect next)
    (launched : task ∈ effect.launched call) (carries : carried task.job = some connection) :
    carried job = some connection ∧ task.job = .reader connection .isClosed := by
  cases stepped with
  | udp stepped => cases stepped <;> cases launched
  | tcp stepped =>
      cases stepped with
      | readerStarted =>
          rw [List.mem_singleton.mp launched] at carries ⊢
          cases carries
          exact ⟨rfl, rfl⟩
      | _ => cases launched
  | reader stepped => cases stepped <;> cases launched

theorem carried_registered {labels : List Label} {final : Forwarder}
    (ran : Transition.run (step pcpp) initial labels = some final) {task : Task}
    (member : task ∈ final.tasks) {connection : TcpConnection}
    (carries : carried task.job = some connection) : EverRegistered pcpp labels connection.socket := by
  refine Transition.run_induction (fun labels forwarder => ∀ task ∈ forwarder.tasks, ∀ connection,
    carried task.job = some connection → EverRegistered pcpp labels connection.socket)
    ?_ (fun _ member => by cases member) ran task member connection carries
  intro labels forwarder label next reached known taken task member connection carries
  have earlier (old : task ∈ forwarder.tasks) : EverRegistered pcpp (labels ++ [label]) connection.socket :=
    (known task old connection carries).earlier reached label
  cases step_forwarder taken with
  | overwritten | passedThrough | passThroughFailed | closedAll | cleared => exact earlier member
  | launched held first =>
      rcases List.mem_append.mp member with old | single
      · exact earlier old
      · rw [List.mem_singleton.mp single] at carries
        rcases first with ⟨-, rfl⟩ | ⟨-, rfl⟩ <;> cases carries
  | @resumed index before answer effect job located stepped =>
      have inPool := List.mem_of_getElem? located
      rcases TaskPool.mem_advance member with old | rfl | launched
      · exact earlier old
      · rcases stepped.carries carries with before | registering
        · exact (known _ inPool connection before).earlier reached _
        · exact (Transition.occurs_append_singleton reached).mpr (.inr ⟨_, located, registering⟩)
      · exact (known _ inPool connection (stepped.launches launched carries).1).earlier reached _

theorem OwnsJob.carries {forwarder : Forwarder} {key : String} {job : Job} {connection : TcpConnection}
    (owns : OwnsJob forwarder key job) (carries : carried job = some connection) :
    OwnsConnection forwarder key connection := by
  cases job with
  | udp stage => cases carries
  | tcp stage =>
      cases stage with
      | buildSynAck | writeSynAck | startReader =>
          cases carries
          exact owns
      | getTcpFlags | extractTcpPayload | create | protect | soTimeout | connect | register | lookup
      | write | remove | close | done => cases carries
  | reader reading stage =>
      cases carries
      exact owns.1

/-! Where no coroutine is active, none becomes so. -/

/-- Nothing is active, and the sockets of readers are closed. -/
structure Calm (pcpp : PcapPlusPlus) (forwarder : Forwarder) : Prop where
  owned : Owned forwarder
  idle : ∀ task ∈ forwarder.tasks, active pcpp forwarder task.call task.job = false
  closed : ∀ task ∈ forwarder.tasks, ∀ connection, carried task.job = some connection →
    forwarder.isClosed connection.socket

private theorem finTest_idle (forwarder : Forwarder) (call : ForwardCall) (finFollows : Bool) :
    active pcpp forwarder call (.tcp (finTest finFollows)) = false := by
  cases finFollows <;> rfl

/-- What a statement does that is not active. -/
structure StaysIdle (pcpp : PcapPlusPlus) (forwarder : Forwarder) (call : ForwardCall)
    (effect : Effect) (next : Job) : Prop where
  idle : active pcpp forwarder call next = false
  silent : ∀ content ∈ effect.contents, isSegment content = false

theorem JobStep.staysIdle {forwarder : Forwarder} {call : ForwardCall} {job next : Job}
    {answer : Answer} {effect : Effect} (stepped : JobStep pcpp forwarder call job answer effect next)
    (idle : active pcpp forwarder call job = false)
    (closed : ∀ connection, carried job = some connection → forwarder.isClosed connection.socket) :
    StaysIdle pcpp forwarder call effect next := by
  cases stepped with
  | udp stepped => cases stepped <;> exact ⟨rfl, by simp [Effect.contents, isSegment]⟩
  | tcp stepped =>
      cases stepped with
      | flagsRead => exact ⟨idle, List.forall_mem_nil _⟩
      | synSeen syn => cases idle.symm.trans syn
      | created | shielded | timed | connected | registered | synAckWritten => cases idle
      | built packet =>
          rw [active, packet] at idle
          cases idle
      | nothingToWrite | nothingToRemove | closed =>
          exact ⟨finTest_idle _ _ _, List.forall_mem_nil _⟩
      | written | writeInterrupted =>
          refine ⟨?_, by simp [Effect.contents, isSegment]⟩
          first | exact finTest_idle _ _ _ | rfl
      | extracted | buildFailed | abandoned | readerStarted | found | writeFailed | removed =>
          exact ⟨rfl, List.forall_mem_nil _⟩
  | reader stepped =>
      cases stepped with
      | chunkRead opened =>
          rw [closed _ rfl] at opened
          cases opened
      | built packet =>
          rw [active, packet] at idle
          cases idle
      | written => cases idle
      | foundClosed | foundOpen | ended | buildFailed | buildThrew | writeFailed | removed | nothingToRemove
      | closed => exact ⟨rfl, List.forall_mem_nil _⟩

theorem active_resume (forwarder : Forwarder) (call : ForwardCall) (index : Nat) (effect : Effect)
    (job : Job) : active pcpp (forwarder.resume call index effect job) = active pcpp forwarder := by
  have sameBuffer : (forwarder.resume call index effect job).byteArray = forwarder.byteArray := by
    cases effect <;> rfl
  funext other task
  simp only [active, sameBuffer]

theorem active_of_registering {forwarder : Forwarder} {call : ForwardCall} {job : Job} {socket : Nat}
    (registering : holdOf job = .registering socket) : active pcpp forwarder call job = true := by
  cases job with
  | udp stage => cases registering
  | tcp stage => cases stage <;> first | rfl | cases registering
  | reader connection stage => cases stage <;> cases registering

theorem Calm.unregistering {forwarder : Forwarder} (calm : Calm pcpp forwarder) {task : Task}
    (member : task ∈ forwarder.tasks) (socket : Nat) : holdOf task.job ≠ .registering socket := by
  intro registering
  have idle := calm.idle task member
  rw [active_of_registering registering] at idle
  cases idle

theorem Calm.resume {forwarder : Forwarder} (calm : Calm pcpp forwarder) {index : Nat} {task : Task}
    {answer : Answer} {effect : Effect} {job : Job} (located : forwarder.tasks[index]? = some task)
    (stepped : JobStep pcpp forwarder task.call task.job answer effect job) :
    Calm pcpp (forwarder.resume task.call index effect job) := by
  have member := List.mem_of_getElem? located
  have stays := stepped.staysIdle (calm.idle task member) (calm.closed task member)
  have stayClosed {other : Task} (inPool : other ∈ forwarder.tasks) {connection : TcpConnection}
      (carries : carried other.job = some connection) :
      (forwarder.resume task.call index effect job).isClosed connection.socket :=
    isClosed_perform ((calm.owned.tasks other inPool).carries carries).1 index task.call effect
      (calm.closed other inPool connection carries)
  refine ⟨calm.owned.resume located stepped, ?_, ?_⟩
  · rw [active_resume]
    refine TaskPool.forall_advance calm.idle stays.idle fun launched inLaunched => ?_
    obtain ⟨connection, rfl⟩ := stepped.launched launched inLaunched
    rfl
  · intro other inAfter connection carries
    rcases TaskPool.mem_advance inAfter with old | rfl | launched
    · exact stayClosed old carries
    · rcases stepped.carries carries with before | registering
      · exact stayClosed member before
      · exact absurd registering (calm.unregistering member _)
    · exact stayClosed member (stepped.launches launched carries).1

/-- What a step of a coroutine leaves as it is where all are calm. -/
theorem Calm.step {forwarder next : Forwarder} (calm : Calm pcpp forwarder) {label : Label}
    (isTask : label.isTask) (taken : Forwarder.step pcpp forwarder label = some next) :
    Calm pcpp next ∧ writtenSegments next = writtenSegments forwarder ∧
      (∀ key, forwarder.tcpConnections.lookup key = none → next.tcpConnections.lookup key = none) ∧
      ∀ socket, ¬ Registers socket forwarder label := by
  cases step_forwarder taken with
  | overwritten | launched | passedThrough | passThroughFailed | closedAll | cleared => cases isTask
  | @resumed index task answer effect job located stepped =>
      have member := List.mem_of_getElem? located
      have stays := stepped.staysIdle (calm.idle task member) (calm.closed task member)
      refine ⟨calm.resume located stepped, ?_, fun key absent => ?_, ?_⟩
      · change (forwarder.perform index task.call effect).outputs.filter _ = forwarder.outputs.filter _
        rw [perform_outputs]
        cases effect with
        | output content =>
            simp [stays.silent content (List.mem_singleton_self content)]
        | none | newDatagramSocket | closeDatagramSocket | newSocket | connect | close | register
        | remove | launch => rfl
      · have hold := stepped.hold (calm.owned.tasks task member)
        by_contra present
        obtain ⟨connection, filed⟩ := Option.ne_none_iff_exists'.mp present
        rcases hold.files filed with ⟨before, -⟩ | ⟨registering, -⟩
        · rw [absent] at before
          cases before
        · exact calm.unregistering member _ registering
      · rintro socket ⟨same, sameLocated, registering⟩
        obtain rfl := Option.mem_unique located sameLocated
        exact calm.unregistering member _ registering

theorem Calm.run {forwarder final : Forwarder} {labels : List Label} (calm : Calm pcpp forwarder)
    (tasks : ∀ label ∈ labels, label.isTask)
    (ran : Transition.run (Forwarder.step pcpp) forwarder labels = some final) :
    Calm pcpp final ∧ writtenSegments final = writtenSegments forwarder ∧
      (∀ key, forwarder.tcpConnections.lookup key = none → final.tcpConnections.lookup key = none) ∧
      ∀ socket, ¬ Transition.Occurs (Forwarder.step pcpp) (Registers socket) forwarder labels := by
  induction labels generalizing forwarder with
  | nil =>
      cases ran
      exact ⟨calm, rfl, fun _ absent => absent, fun _ occurs => occurs⟩
  | cons label labels ih =>
      obtain ⟨next, taken, rest⟩ := Transition.run_cons_iff.mp ran
      obtain ⟨isTask, laterTasks⟩ := List.forall_mem_cons.mp tasks
      obtain ⟨calmNext, sameSegments, stayEmpty, never⟩ := calm.step isTask taken
      obtain ⟨calmFinal, laterSegments, laterEmpty, neverLater⟩ := ih calmNext laterTasks rest
      refine ⟨calmFinal, laterSegments.trans sameSegments,
        fun key absent => laterEmpty key (stayEmpty key absent), ?_⟩
      rintro socket (now | ⟨other, takenOther, later⟩)
      · exact never socket now
      · rw [taken, Option.some.injEq] at takenOther
        subst takenOther
        exact neverLater socket later

theorem isClosed_of_run {forwarder final : Forwarder} {labels : List Label} {socket : Nat}
    {key : String} (owned : forwarder.owner socket = some key) (closed : forwarder.isClosed socket)
    (ran : Transition.run (step pcpp) forwarder labels = some final) : final.isClosed socket := by
  refine (Transition.run_preserves
    (fun forwarder => forwarder.owner socket = some key ∧ forwarder.isClosed socket) ?_
    ⟨owned, closed⟩ ran).2
  rintro forwarder label next ⟨owned, closed⟩ taken
  exact ⟨step_keepsOwners taken socket key owned, isClosed_step owned taken closed⟩

section

variable {history : List Label} {reached : Forwarder}
  (ran : Transition.run (step pcpp) initial history = some reached)

theorem ReadyToStop.closes (ready : ReadyToStop pcpp history reached) {socket : Nat}
    (registered : EverRegistered pcpp history socket) : reached.closeAll.isClosed socket := by
  cases opened : reached.isClosed socket with
  | true => exact isClosed_closeAll opened
  | false =>
      obtain ⟨key, connection, -, located, rfl⟩ := ready.filed socket registered opened
      exact closeAll_closes located

include ran

theorem ReadyToStop.calm (ready : ReadyToStop pcpp history reached) :
    Calm pcpp reached.closeAll where
  owned := (owned_of_run ran).step (show step pcpp reached .cleanup = some _ from rfl)
  idle := ready.idle
  closed _ member _ carries := ready.closes (carried_registered ran member carries)

theorem ReadyToStop.final (ready : ReadyToStop pcpp history reached) :
    Final pcpp history reached := by
  intro during after returned final duringTasks afterTasks swept continued
  obtain ⟨middle, swept, last⟩ := Transition.run_append_iff.mp swept
  obtain ⟨_, closing, ranDuring⟩ := Transition.run_cons_iff.mp swept
  cases closing
  obtain ⟨_, clearing, ended⟩ := Transition.run_cons_iff.mp last
  cases ended
  obtain ⟨calmMiddle, -, -, never⟩ := (ready.calm ran).run duringTasks ranDuring
  have stepped := step_forwarder clearing
  cases stepped
  next pending =>
    have calmReturned : Calm pcpp _ :=
      ⟨calmMiddle.owned.step clearing, calmMiddle.idle, calmMiddle.closed⟩
    obtain ⟨-, sameSegments, stayEmpty, -⟩ := calmReturned.run afterTasks continued
    refine ⟨fun socket registered => ?_, fun key => stayEmpty key (AList.lookup_empty key),
      sameSegments⟩
    have before : EverRegistered pcpp history socket := by
      rcases (Transition.occurs_append_iff ran).mp registered with before | now | ⟨_, closed, later⟩
      · exact before
      · exact now.elim
      · cases closed
        exact absurd later (never socket)
    obtain ⟨key, owned⟩ := EverRegistered.owner before ran
    have ownedThen := closeAll_keepsOwners reached socket key owned
    have whole := Transition.run_append_iff.mpr ⟨_, ranDuring,
      Transition.run_cons_iff.mpr ⟨_, clearing, continued⟩⟩
    exact isClosed_of_run ownedThen (ready.closes before) whole

end

/-! An active coroutine has a way to break finality. -/

/-- Coroutines may go on so that the map has an entry or another packet of a
connection is written. -/
def Acts (pcpp : PcapPlusPlus) (forwarder : Forwarder) : Prop :=
  ∃ labels final, (∀ label ∈ labels, label.isTask) ∧
    Transition.run (step pcpp) forwarder labels = some final ∧
      ((∃ key connection, final.tcpConnections.lookup key = some connection) ∨
        writtenSegments final ≠ writtenSegments forwarder)

section

variable {forwarder : Forwarder} {index : Nat} {call : ForwardCall} {job next : Job}

theorem step_resumes {effect : Effect} (located : forwarder.tasks[index]? = some ⟨call, job⟩)
    (stepped : jobNext pcpp forwarder call job .returns = some (effect, next)) :
    step pcpp forwarder (.task index .returns) = some (forwarder.resume call index effect next) := by
  simp only [step, located, stepped, Option.map_some]

theorem acts_later {effect : Effect} (located : forwarder.tasks[index]? = some ⟨call, job⟩)
    (stepped : jobNext pcpp forwarder call job .returns = some (effect, next))
    (silent : effect.contents = [])
    (acts : Acts pcpp (forwarder.resume call index effect next)) : Acts pcpp forwarder := by
  obtain ⟨labels, final, tasks, ran, effects⟩ := acts
  have same : writtenSegments (forwarder.resume call index effect next) = writtenSegments forwarder := by
    change (forwarder.perform index call effect).outputs.filter _ = _
    rw [perform_outputs]
    cases effect with
    | output content => cases silent
    | none | newDatagramSocket | closeDatagramSocket | newSocket | connect | close | register
    | remove | launch => rfl
  refine ⟨.task index .returns :: labels, final, List.forall_mem_cons.mpr ⟨rfl, tasks⟩,
    Transition.run_cons_iff.mpr ⟨_, step_resumes located stepped, ran⟩, ?_⟩
  rw [same] at effects
  exact effects

theorem acts_registering {socket : Nat}
    (located : forwarder.tasks[index]? = some ⟨call, .tcp (.register socket)⟩) :
    Acts pcpp forwarder :=
  ⟨[.task index .returns], _, List.forall_mem_singleton.mpr rfl,
    Transition.run_cons_iff.mpr ⟨_, step_resumes located rfl, rfl⟩,
    .inl ⟨call.key, newTcpConnection socket call.key, AList.lookup_insert _⟩⟩

theorem acts_writing {content : Content}
    (located : forwarder.tasks[index]? = some ⟨call, job⟩)
    (stepped : jobNext pcpp forwarder call job .returns = some (.output content, next))
    (segment : isSegment content = true) : Acts pcpp forwarder := by
  refine ⟨[.task index .returns], _, List.forall_mem_singleton.mpr rfl,
    Transition.run_cons_iff.mpr ⟨_, step_resumes located stepped, rfl⟩, .inr fun same => ?_⟩
  have longer := congrArg List.length same
  simp [writtenSegments, resume, perform, segment] at longer

/-! Each statement of `handleTcpSyn` may return, until the connection is registered. -/

private theorem acts_connecting {forwarder : Forwarder} {socket : Nat}
    (located : forwarder.tasks[index]? = some ⟨call, .tcp (.connect socket)⟩) : Acts pcpp forwarder :=
  acts_later located rfl rfl (acts_registering (TaskPool.getElem?_advance_self located))

private theorem acts_timing {forwarder : Forwarder} {socket : Nat}
    (located : forwarder.tasks[index]? = some ⟨call, .tcp (.soTimeout socket)⟩) :
    Acts pcpp forwarder :=
  acts_later located rfl rfl (acts_connecting (TaskPool.getElem?_advance_self located))

private theorem acts_protecting {forwarder : Forwarder} {socket : Nat}
    (located : forwarder.tasks[index]? = some ⟨call, .tcp (.protect socket)⟩) : Acts pcpp forwarder :=
  acts_later located rfl rfl (acts_timing (TaskPool.getElem?_advance_self located))

private theorem acts_creating {forwarder : Forwarder}
    (located : forwarder.tasks[index]? = some ⟨call, .tcp .create⟩) : Acts pcpp forwarder :=
  acts_later located rfl rfl (acts_protecting (TaskPool.getElem?_advance_self located))

private theorem acts_extracting {forwarder : Forwarder} {flags : Nat}
    (located : forwarder.tasks[index]? = some ⟨call, .tcp (.extractTcpPayload flags)⟩)
    (syn : hasSyn flags = true) : Acts pcpp forwarder := by
  have stepped : jobNext pcpp forwarder call (.tcp (.extractTcpPayload flags)) .returns =
      some (.none, .tcp .create) := by
    simp [jobNext, tcpNext, syn]
  exact acts_later located stepped rfl (acts_creating (TaskPool.getElem?_advance_self located))

theorem acts_of_active {task : Task} (located : forwarder.tasks[index]? = some task)
    (acting : active pcpp forwarder task.call task.job = true) : Acts pcpp forwarder := by
  obtain ⟨call, job⟩ := task
  cases job with
  | udp stage => cases acting
  | tcp stage =>
      cases stage with
      | getTcpFlags =>
          exact acts_later located rfl rfl
            (acts_extracting (TaskPool.getElem?_advance_self located) acting)
      | extractTcpPayload flags => exact acts_extracting located acting
      | create => exact acts_creating located
      | protect socket => exact acts_protecting located
      | soTimeout socket => exact acts_timing located
      | connect socket => exact acts_connecting located
      | register socket => exact acts_registering located
      | buildSynAck connection =>
          obtain ⟨packet, built⟩ := Option.isSome_iff_exists.mp acting
          have stepped : jobNext pcpp forwarder call (.tcp (.buildSynAck connection)) .returns =
              some (.none, .tcp (.writeSynAck connection packet)) := by
            simp only [jobNext, tcpNext, built]
            rfl
          exact acts_later located stepped rfl
            (acts_writing (TaskPool.getElem?_advance_self located) rfl rfl)
      | writeSynAck connection packet => exact acts_writing located rfl rfl
      | startReader | lookup | write | remove | close | done => cases acting
  | reader connection stage =>
      cases stage with
      | build responseData =>
          obtain ⟨packet, built⟩ := Option.isSome_iff_exists.mp acting
          have stepped : jobNext pcpp forwarder call (.reader connection (.build responseData))
              .returns = some (.none, .reader connection (.write responseData packet)) := by
            simp only [jobNext, readerNext, built]
            rfl
          exact acts_later located stepped rfl
            (acts_writing (TaskPool.getElem?_advance_self located) rfl rfl)
      | write responseData packet => exact acts_writing located rfl rfl
      | isClosed | read | remove | close | done => cases acting

end

theorem Final.ready {history : List Label} {reached : Forwarder}
    (ran : Transition.run (step pcpp) initial history = some reached)
    (final : Final pcpp history reached) : ReadyToStop pcpp history reached := by
  have returns : Transition.run (step pcpp) reached (.cleanup :: [] ++ [.clear]) = some
      { reached.closeAll with tcpConnections := ∅, pendingClears := reached.pendingClears } := rfl
  constructor
  · intro socket registered opened
    by_contra unfiled
    have closed := (final [] [] _ _ (List.forall_mem_nil _) (List.forall_mem_nil _) returns rfl).1 socket
      (registered.earlier ran .cleanup)
    have spared := closeAll_spares opened fun key connection located same =>
      unfiled (same ▸ (owned_of_run ran).filed located)
    exact nomatch spared.symm.trans closed
  · intro task member
    by_contra acting
    obtain ⟨index, located⟩ := List.mem_iff_getElem?.mp member
    have acts : Acts pcpp
        { reached.closeAll with tcpConnections := ∅, pendingClears := reached.pendingClears } :=
      acts_of_active located ((Bool.not_eq_false _).mp acting)
    obtain ⟨labels, last, tasks, continued, effects⟩ := acts
    obtain ⟨-, empty, same⟩ := final [] labels _ _ (List.forall_mem_nil _) tasks returns continued
    rcases effects with ⟨key, connection, filed⟩ | differ
    · rw [empty key] at filed
      cases filed
    · exact differ same

/-- `cleanup()` is final in a state exactly if every open registered socket is in
the map by then and no coroutine is active. -/
theorem final_iff {history : List Label} {reached : Forwarder}
    (ran : Transition.run (step pcpp) initial history = some reached) :
    Final pcpp history reached ↔ ReadyToStop pcpp history reached :=
  ⟨fun final => final.ready ran, fun ready => ready.final ran⟩

theorem idleConnection_final :
    ∃ reached, Transition.run (step .headerRules) initial (handshake 7 ++ readChunk [0x48, 0x69]) =
        some reached ∧
      Final .headerRules (handshake 7 ++ readChunk [0x48, 0x69]) reached := by
  have observed : (Transition.run (step .headerRules) initial
      (handshake 7 ++ readChunk [0x48, 0x69])).map (fun reached =>
        reached.tasks.map fun task => (holdOf task.job, active .headerRules reached task.call task.job)) =
      some [(.nothing, false), (.nothing, false)] := by
    decide +kernel
  obtain ⟨reached, ran, seen⟩ := Option.map_eq_some_iff.mp observed
  have quiet : ∀ task ∈ reached.tasks, holdOf task.job = .nothing ∧
      active .headerRules reached task.call task.job = false := by
    intro task member
    have inList := List.mem_map_of_mem (f := fun task =>
      (holdOf task.job, active .headerRules reached task.call task.job)) member
    rw [seen] at inList
    simpa using inList
  refine ⟨reached, ran, (final_iff ran).mpr ⟨fun socket registered opened => ?_, fun task member =>
    (quiet task member).2⟩⟩
  rcases filed_or_closing_of_run ran (by decide +kernel) registered opened with filed | follows
  · exact filed
  · obtain ⟨task, member, closing⟩ := follows
    rw [(quiet task member).1] at closing
    cases closing

/-- The SYN's coroutine is about to connect. -/
def connectingSyn : List Label := (handshake 7).take 7

/-- The connect returns after `cleanup()`. -/
theorem late_connect_registers :
    ¬ ∀ (pcpp : PcapPlusPlus) (history : List Label) (reached : Forwarder),
      Transition.run (step pcpp) initial history = some reached → Final pcpp history reached := by
  intro all
  have observed : (Transition.run (step .headerRules) initial
      (connectingSyn ++ ([.cleanup, .clear] ++ [.task 0 .returns, .task 0 .returns]))).map
        (fun last => (last.tcpConnections.lookup (callOf (synPacket 7).bytes).key).isSome) =
      some true := by
    decide +kernel
  obtain ⟨last, ran, filed⟩ := Option.map_eq_some_iff.mp observed
  obtain ⟨reached, history, rest⟩ := Transition.run_append_iff.mp ran
  obtain ⟨returned, swept, continued⟩ := Transition.run_append_iff.mp rest
  have empty := (all .headerRules connectingSyn reached history [] _ returned last (List.forall_mem_nil _)
    (by decide) swept continued).2.1 (callOf (synPacket 7).bytes).key
  rw [empty] at filed
  cases filed

end Forwarder

end FirewallVpn
