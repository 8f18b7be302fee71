import FirewallVpn.Forwarder.Addressing
import FirewallVpn.Forwarder.Ownership
import FirewallVpn.Library.Potential

/-! How much work a packet causes. Each coroutine has a bounded number of statements
ahead of it, except that a reader goes round its loop once more for each chunk it
reads; none of them waits for another. -/

set_option autoImplicit false

namespace FirewallVpn

/-- The most statements the coroutine can still execute. -/
def UdpStage.remaining : UdpStage → Nat
  | .extractUdpPayload => 10
  | .create _ => 9
  | .protect _ _ => 8
  | .soTimeout _ _ => 7
  | .getByName _ _ => 6
  | .send _ _ => 5
  | .receive _ => 4
  | .build _ _ => 3
  | .write _ _ _ => 2
  | .close _ => 1
  | .done => 0

/-- The most statements that are left if no further chunk is read. -/
def ReaderStage.remaining : ReaderStage → Nat
  | .write _ _ => 5
  | .build _ => 6
  | .isClosed => 4
  | .read => 3
  | .remove => 2
  | .close _ => 1
  | .done => 0

/-- Those of the reader it launches are counted in. A test for FIN that succeeds
leads to another removal. -/
def TcpStage.remaining : TcpStage → Nat
  | .getTcpFlags => 14
  | .extractTcpPayload _ => 13
  | .create => 12
  | .protect _ => 11
  | .soTimeout _ => 10
  | .connect _ => 9
  | .register _ => 8
  | .buildSynAck _ => 7
  | .writeSynAck _ _ => 6
  | .startReader _ => 5
  | .lookup _ _ => 6
  | .write _ _ _ => 5
  | .remove finFollows => if finFollows then 4 else 2
  | .close _ finFollows => if finFollows then 3 else 1
  | .done => 0

namespace Forwarder

def Job.remaining : Job → Nat
  | .udp stage => stage.remaining
  | .tcp stage => stage.remaining
  | .reader _ stage => stage.remaining

def work (forwarder : Forwarder) : Nat :=
  Weights.total (fun task => Job.remaining task.job) forwarder.tasks

def launchedWork : ProtocolByte → Nat
  | .udp => 10
  | .tcp => 14
  | .unknown => 0

def isChunk : Answer → Bool
  | .chunk _ => true
  | .returns | .throws | .throwsAfter _ | .timesOut | .datagram _ | .endOfStream => false

def statement : Label → Nat
  | .task _ _ => 1
  | .overwrite _ | .forwardPacket _ _ | .cleanup | .clear => 0

/-- The work that comes in: with a packet, and with a chunk of a remote end. -/
def assigned : Label → Nat
  | .forwardPacket call .returns => launchedWork call.traffic.protocolByte
  | .task _ answer => if isChunk answer then 4 else 0
  | .forwardPacket _ _ | .overwrite _ | .cleanup | .clear => 0

/-- A statement of a coroutine that gets no chunk. -/
def WindsDown : Label → Prop
  | .task _ answer => isChunk answer = false
  | .overwrite _ | .forwardPacket _ _ | .cleanup | .clear => False

def AllDone (forwarder : Forwarder) : Prop :=
  ∀ task ∈ forwarder.tasks, Job.remaining task.job = 0

variable {pcpp : PcapPlusPlus}

private theorem finTest_remaining (finFollows : Bool) :
    (finTest finFollows).remaining = if finFollows then 2 else 0 := by
  cases finFollows <;> rfl

private theorem launched_work (call : ForwardCall) (effect : Effect) :
    Weights.total (fun task => Job.remaining task.job) (effect.launched call) =
      match effect with
      | .launch job => Job.remaining job
      | _ => 0 := by
  cases effect <;> simp [Effect.launched]

private theorem UdpStep.pays {forwarder : Forwarder} {call : ForwardCall} {stage next : UdpStage}
    {answer : Answer} {effect : Effect}
    (stepped : UdpStep pcpp forwarder call stage answer effect next) :
    next.remaining + 1 ≤ stage.remaining := by
  cases stepped with
  | abandoned abandons =>
      cases stage with
      | create | protect | soTimeout | getByName | send => simp [UdpStage.remaining]
      | extractUdpPayload | receive | build | write | close | done => cases abandons
  | noPayload | extracted | created | shielded | timed | resolved | sent | received | timedOut
  | receiveFailed | buildFailed | built | buildThrew | written | writeFailed | closed =>
      simp [UdpStage.remaining]

private theorem TcpStep.pays {forwarder : Forwarder} {call : ForwardCall} {stage next : TcpStage}
    {answer : Answer} {effect : Effect}
    (stepped : TcpStep pcpp forwarder call stage answer effect next) :
    next.remaining + Weights.total (fun task => Job.remaining task.job) (effect.launched call) + 1 ≤
      stage.remaining := by
  rw [launched_work]
  cases stepped with
  | abandoned abandons =>
      cases stage with
      | create | protect | soTimeout | connect | buildSynAck | writeSynAck => simp [TcpStage.remaining]
      | getTcpFlags | extractTcpPayload | register | startReader | lookup | write | remove | close
      | done => cases abandons
  | nothingToWrite | written =>
      rw [finTest_remaining]
      simp only [TcpStage.remaining]
      split <;> omega
  | writeInterrupted | writeFailed =>
      simp only [TcpStage.remaining]
      split <;> omega
  | @removed connection finFollows =>
      cases finFollows <;> simp [TcpStage.remaining]
  | @nothingToRemove finFollows | @closed connection finFollows =>
      rw [finTest_remaining]
      cases finFollows <;> simp [TcpStage.remaining]
  | flagsRead | synSeen | extracted | created | shielded | timed | connected | registered
  | buildFailed | built | synAckWritten | readerStarted | found =>
      simp [TcpStage.remaining, Job.remaining, ReaderStage.remaining]

private theorem ReaderStep.pays {forwarder : Forwarder} {call : ForwardCall}
    {connection : TcpConnection} {stage next : ReaderStage} {answer : Answer} {effect : Effect}
    (stepped : ReaderStep pcpp forwarder call connection stage answer effect next) :
    next.remaining + 1 ≤ stage.remaining + if isChunk answer then 4 else 0 := by
  cases stepped with
  | chunkRead => simp [ReaderStage.remaining, isChunk]
  | foundClosed | foundOpen | ended | buildFailed | built | buildThrew | written | writeFailed
  | removed | nothingToRemove | closed =>
      simp only [ReaderStage.remaining]
      omega

/-- A statement uses up one unit of what is left; a chunk brings four. -/
theorem JobStep.pays {forwarder : Forwarder} {call : ForwardCall} {job next : Job} {answer : Answer}
    {effect : Effect} (stepped : JobStep pcpp forwarder call job answer effect next) :
    Job.remaining next + Weights.total (fun task => Job.remaining task.job) (effect.launched call) + 1 ≤
      Job.remaining job + if isChunk answer then 4 else 0 := by
  cases stepped with
  | udp stepped =>
      have paid := stepped.pays
      have none : Weights.total (fun task => Job.remaining task.job) (effect.launched call) = 0 := by
        cases stepped <;> rfl
      simp only [Job.remaining] at none ⊢
      omega
  | tcp stepped =>
      have paid := stepped.pays
      simp only [Job.remaining] at paid ⊢
      omega
  | reader stepped =>
      have paid := stepped.pays
      have none : Weights.total (fun task => Job.remaining task.job) (effect.launched call) = 0 := by
        cases stepped <;> rfl
      simp only [Job.remaining] at none ⊢
      omega

private theorem launch_work (forwarder : Forwarder) (call : ForwardCall) (job : Job) :
    (forwarder.launch call job).work = forwarder.work + Job.remaining job := by
  simp [work, launch]

theorem step_pays : Transition.Pays (step pcpp) work statement assigned := by
  intro forwarder label next taken
  cases step_forwarder taken with
  | overwritten | passedThrough | passThroughFailed | closedAll | cleared => exact Nat.le_add_right _ _
  | launched held first =>
      rw [launch_work]
      rcases first with ⟨protocol, rfl⟩ | ⟨protocol, rfl⟩
      · simp [assigned, protocol, launchedWork, statement, Job.remaining, UdpStage.remaining]
      · simp [assigned, protocol, launchedWork, statement, Job.remaining, TcpStage.remaining]
  | @resumed index task answer effect job located stepped =>
      have paid := stepped.pays
      have moved := TaskPool.total_advance (fun task => Job.remaining task.job) located ⟨task.call, job⟩
        (effect.launched task.call)
      simp only [work, resume, statement, assigned] at moved ⊢
      omega

/-- Only the chunks a remote end sends can keep the forwarder busy: the statements
executed are bounded by the packets forwarded and the chunks read, whatever the
schedule. -/
theorem statements_bounded {labels : List Label} {final : Forwarder}
    (ran : Transition.run (step pcpp) initial labels = some final) :
    final.work + Weights.total statement labels ≤ Weights.total assigned labels := by
  have paid := step_pays.run ran
  rwa [show initial.work = 0 from rfl, Nat.zero_add] at paid

theorem handshake_bounded :
    ∃ final, Transition.run (step .headerRules) initial (handshake 7) = some final ∧
      final.work = 4 ∧ final.work + Weights.total statement (handshake 7) ≤ 14 := by
  have ran : (Transition.run (step .headerRules) initial (handshake 7)).map work = some 4 := by
    decide +kernel
  obtain ⟨final, ran, left⟩ := Option.map_eq_some_iff.mp ran
  exact ⟨final, ran, left, Nat.le_trans (statements_bounded ran) (by decide +kernel)⟩

/-! No coroutine waits for another: each has a statement that can be executed. -/

/-- An answer that ends what the coroutine is waiting for. -/
def fallback : Job → Answer
  | .udp (.receive _) => .timesOut
  | .tcp (.write _ _ _) => .throws
  | .reader _ .read => .endOfStream
  | .udp _ | .tcp _ | .reader _ _ => .returns

theorem fallback_no_chunk (job : Job) : isChunk (fallback job) = false := by
  cases job with
  | udp stage => cases stage <;> rfl
  | tcp stage => cases stage <;> rfl
  | reader connection stage => cases stage <;> rfl

theorem jobNext_fallback (pcpp : PcapPlusPlus) (forwarder : Forwarder) (call : ForwardCall) {job : Job}
    (unfinished : Job.remaining job ≠ 0) :
    (jobNext pcpp forwarder call job (fallback job)).isSome := by
  cases job with
  | udp stage =>
      cases stage with
      | done => exact absurd rfl unfinished
      | extractUdpPayload | build =>
          simp only [jobNext, fallback, udpNext]
          split <;> rfl
      | create | protect | soTimeout | getByName | send | receive | write | close => rfl
  | tcp stage =>
      cases stage with
      | done => exact absurd rfl unfinished
      | lookup | buildSynAck | remove =>
          simp only [jobNext, fallback, tcpNext]
          split
          · first | rfl | (split <;> rfl)
          · rfl
      | getTcpFlags | extractTcpPayload | create | protect | soTimeout | connect | register
      | writeSynAck | startReader | write | close => rfl
  | reader connection stage =>
      cases stage with
      | done => exact absurd rfl unfinished
      | build | remove =>
          simp only [jobNext, fallback, readerNext]
          split <;> rfl
      | isClosed | read | write | close => rfl

theorem allDone_of_work {forwarder : Forwarder} (idle : forwarder.work = 0) : AllDone forwarder := by
  intro task member
  have none := Weights.total_eq_zero_iff.mp idle
  exact none task member

theorem winding_step {forwarder : Forwarder} (busy : forwarder.work ≠ 0) :
    ∃ label next, WindsDown label ∧ step pcpp forwarder label = some next := by
  have unfinished : ∃ task ∈ forwarder.tasks, Job.remaining task.job ≠ 0 := by
    by_contra all
    push Not at all
    exact busy (Weights.total_eq_zero_iff.mpr all)
  obtain ⟨task, member, unfinished⟩ := unfinished
  obtain ⟨index, located⟩ := List.mem_iff_getElem?.mp member
  obtain ⟨⟨effect, job⟩, stepped⟩ := Option.isSome_iff_exists.mp
    (jobNext_fallback pcpp forwarder task.call unfinished)
  refine ⟨.task index (fallback task.job), forwarder.resume task.call index effect job,
    fallback_no_chunk task.job, ?_⟩
  simp [step, located, stepped]

theorem WindsDown.spends {label : Label} (winds : WindsDown label) :
    0 < statement label ∧ assigned label = 0 := by
  cases label with
  | task index answer =>
      refine ⟨Nat.one_pos, ?_⟩
      simp only [WindsDown] at winds
      simp [assigned, winds]
  | overwrite | forwardPacket | cleanup | clear => exact winds.elim

/-! Every entry has a coroutine that will execute `tcpConnections.remove` on its key. -/

/-- The coroutine executes the removal before it ends. -/
def mustRemove : Job → Bool
  | .tcp (.buildSynAck _) | .tcp (.writeSynAck _ _) | .tcp (.startReader _) | .tcp (.remove _) => true
  | .reader _ .isClosed | .reader _ .read | .reader _ (.build _) | .reader _ (.write _ _)
  | .reader _ .remove => true
  | .udp _ | .tcp _ | .reader _ _ => false

/-- The entry under the key is in the charge of some coroutine of its flow. -/
def Charged (forwarder : Forwarder) (key : String) : Prop :=
  ∃ task ∈ forwarder.tasks, task.call.key = key ∧ mustRemove task.job

def EntriesCharged (forwarder : Forwarder) : Prop :=
  ∀ key connection, forwarder.tcpConnections.lookup key = some connection → Charged forwarder key

/-- A charge ends with the removal, or goes over to the reader. -/
theorem JobStep.charge {forwarder : Forwarder} {call : ForwardCall} {job next : Job} {answer : Answer}
    {effect : Effect} (ownsJob : OwnsJob forwarder call.key job)
    (stepped : JobStep pcpp forwarder call job answer effect next) (charged : mustRemove job) :
    mustRemove next ∨ (∃ task ∈ effect.launched call, task.call.key = call.key ∧ mustRemove task.job) ∨
      effect = .remove call.key ∨ forwarder.tcpConnections.lookup call.key = none := by
  cases stepped with
  | udp => cases charged
  | tcp stepped =>
      cases stepped with
      | built | synAckWritten | buildFailed | abandoned => exact .inl rfl
      | readerStarted => exact .inr (.inl ⟨_, List.mem_singleton.mpr rfl, rfl, rfl⟩)
      | removed => exact .inr (.inr (.inl rfl))
      | nothingToRemove absent => exact .inr (.inr (.inr absent))
      | flagsRead | synSeen | extracted | created | shielded | timed | connected | registered | found
      | nothingToWrite | written | writeInterrupted | writeFailed | closed => cases charged
  | reader stepped =>
      have key := ownsJob.1.2
      cases stepped with
      | removed => exact .inr (.inr (.inl (congrArg Effect.remove key)))
      | nothingToRemove absent => exact .inr (.inr (.inr (key ▸ absent)))
      | foundClosed | foundOpen | chunkRead | ended | buildFailed | built | buildThrew | written
      | writeFailed => exact .inl rfl
      | closed => cases charged

theorem JobStep.registration {forwarder : Forwarder} {call : ForwardCall} {job next : Job}
    {answer : Answer} {key : String} {connection : TcpConnection}
    (stepped : JobStep pcpp forwarder call job answer (.register key connection) next) :
    call.key = key ∧ mustRemove next := by
  cases stepped with
  | udp stepped => cases stepped
  | tcp stepped =>
      cases stepped with
      | registered => exact ⟨rfl, rfl⟩
  | reader stepped => cases stepped

theorem entry_perform {forwarder : Forwarder} {index : Nat} {call : ForwardCall} {effect : Effect}
    {key : String} {connection : TcpConnection}
    (located : (forwarder.perform index call effect).tcpConnections.lookup key = some connection) :
    effect = .register key connection ∨
      effect ≠ .remove key ∧ forwarder.tcpConnections.lookup key = some connection := by
  cases effect with
  | register filed registered =>
      by_cases same : key = filed
      · subst same
        rw [perform, AList.lookup_insert, Option.some.injEq] at located
        rw [located]
        exact .inl rfl
      · rw [perform, AList.lookup_insert_ne same] at located
        exact .inr ⟨Effect.noConfusion, located⟩
  | remove filed =>
      by_cases same : key = filed
      · subst same
        rw [perform, AList.lookup_erase] at located
        cases located
      · rw [perform, AList.lookup_erase_ne same] at located
        exact .inr ⟨fun removes => same (Effect.remove.inj removes).symm, located⟩
  | none | newDatagramSocket | closeDatagramSocket | newSocket | connect | close | output | launch =>
      exact .inr ⟨Effect.noConfusion, located⟩

theorem EntriesCharged.resume {forwarder : Forwarder} {index : Nat} {task : Task} {answer : Answer}
    {effect : Effect} {job : Job} (charged : EntriesCharged forwarder) (owned : Owned forwarder)
    (located : forwarder.tasks[index]? = some task)
    (stepped : JobStep pcpp forwarder task.call task.job answer effect job) :
    EntriesCharged (forwarder.resume task.call index effect job) := by
  have moved : ⟨task.call, job⟩ ∈ (forwarder.resume task.call index effect job).tasks :=
    List.mem_of_getElem? (TaskPool.getElem?_advance_self located)
  intro key connection entry
  rcases entry_perform entry with rfl | ⟨notRemoved, before⟩
  · obtain ⟨sameKey, must⟩ := stepped.registration
    exact ⟨_, moved, sameKey, must⟩
  · obtain ⟨member, inPool, sameKey, must⟩ := charged key connection before
    obtain ⟨position, found⟩ := List.mem_iff_getElem?.mp inPool
    by_cases own : position = index
    · subst own
      rw [located, Option.some.injEq] at found
      subst found
      rcases stepped.charge (owned.tasks task inPool) must with
        goesOn | ⟨launched, new, launchedKey, goesOn⟩ | removes | absent
      · exact ⟨_, moved, sameKey, goesOn⟩
      · exact ⟨launched, List.mem_append_right _ new, launchedKey.trans sameKey, goesOn⟩
      · exact absurd (sameKey ▸ removes) notRemoved
      · rw [sameKey, before] at absent
        cases absent
    · have within := (List.getElem?_eq_some_iff.mp found).1
      exact ⟨member, List.mem_of_getElem?
        ((TaskPool.getElem?_advance_other own within).trans found), sameKey, must⟩

theorem entriesCharged_of_run {labels : List Label} {final : Forwarder}
    (ran : Transition.run (step pcpp) initial labels = some final) : EntriesCharged final := by
  refine (Transition.run_preserves (fun forwarder => Owned forwarder ∧ EntriesCharged forwarder) ?_
    ⟨owned_initial, fun _ _ located => by cases located⟩ ran).2
  intro forwarder label next ⟨owned, charged⟩ taken
  refine ⟨owned.step taken, ?_⟩
  cases step_forwarder taken with
  | overwritten | passedThrough | passThroughFailed | closedAll => exact charged
  | launched =>
      intro key connection located
      obtain ⟨task, member, charge⟩ := charged key connection located
      exact ⟨task, List.mem_append_left _ member, charge⟩
  | resumed located stepped => exact charged.resume owned located stepped
  | cleared =>
      intro key connection located
      cases located

theorem mustRemove_unfinished {job : Job} (must : mustRemove job) : Job.remaining job ≠ 0 := by
  cases job with
  | udp => cases must
  | tcp stage =>
      cases stage with
      | remove finFollows => cases finFollows <;> exact Nat.noConfusion
      | buildSynAck | writeSynAck | startReader => exact Nat.noConfusion
      | getTcpFlags | extractTcpPayload | create | protect | soTimeout | connect | register | lookup
      | write | close | done => cases must
  | reader connection stage =>
      cases stage with
      | isClosed | read | build | write | remove => exact Nat.noConfusion
      | close | done => cases must

theorem EntriesCharged.none_left {forwarder : Forwarder} (charged : EntriesCharged forwarder)
    (done : AllDone forwarder) : forwarder.tcpConnections = ∅ := by
  refine AList.ext (List.eq_nil_iff_forall_not_mem.mpr fun entry member => ?_)
  obtain ⟨key, connection⟩ := entry
  obtain ⟨task, inPool, -, must⟩ := charged key connection (AList.mem_lookup_iff.mpr member)
  exact mustRemove_unfinished must (done task inPool)

/-- Without further packets and chunks the coroutines come to an end, on every
schedule of their statements and within the work they have left, and then no entry
is left in the map. -/
theorem settles {labels : List Label} {forwarder : Forwarder}
    (reached : Transition.run (step pcpp) initial labels = some forwarder) :
    (∀ more final, Transition.run (step pcpp) forwarder more = some final →
      (∀ label ∈ more, WindsDown label) →
        more.length + final.work ≤ forwarder.work ∧
          ((∀ label, WindsDown label → step pcpp final label = none) →
            AllDone final ∧ final.tcpConnections = ∅)) ∧
    ∃ more final, Transition.run (step pcpp) forwarder more = some final ∧
      (∀ label ∈ more, WindsDown label) ∧ AllDone final ∧ final.tcpConnections = ∅ := by
  have ends : ∀ more final, Transition.run (step pcpp) forwarder more = some final →
      final.work = 0 → AllDone final ∧ final.tcpConnections = ∅ := by
    intro more final ran idle
    have done := allDone_of_work idle
    have whole := Transition.run_append_iff.mpr ⟨forwarder, reached, ran⟩
    exact ⟨done, (entriesCharged_of_run whole).none_left done⟩
  constructor
  · intro more final ran winds
    refine ⟨step_pays.length_le ran fun label member => (winds label member).spends, fun stuck => ?_⟩
    refine ends more final ran (Decidable.byContradiction fun busy => ?_)
    obtain ⟨label, next, winding, taken⟩ := winding_step busy
    rw [stuck label winding] at taken
    cases taken
  · obtain ⟨more, final, ran, idle, winds⟩ := step_pays.exhausts
      (fun label winding => WindsDown.spends winding) (fun state busy => winding_step busy) forwarder
    exact ⟨more, final, ran, winds, ends more final ran idle⟩

theorem handshake_settles :
    ∃ forwarder, Transition.run (step .headerRules) initial (handshake 7) = some forwarder ∧
      forwarder.tcpConnections ≠ ∅ ∧ ∃ more final, more.length ≤ 4 ∧
        Transition.run (step .headerRules) forwarder more = some final ∧ final.tcpConnections = ∅ := by
  have ran : (Transition.run (step .headerRules) initial (handshake 7)).map
      (fun forwarder => (forwarder.work, forwarder.tcpConnections.entries.length)) = some (4, 1) := by
    decide +kernel
  obtain ⟨forwarder, reached, seen⟩ := Option.map_eq_some_iff.mp ran
  obtain ⟨left, entries⟩ := Prod.mk.inj seen
  obtain ⟨short, more, final, goesOn, winds, -, empty⟩ := settles reached
  refine ⟨forwarder, reached, ?_, more, final, ?_, goesOn, empty⟩
  · intro none
    rw [none] at entries
    cases entries
  · have bounded := (short more final goesOn winds).1
    omega

end Forwarder

end FirewallVpn
