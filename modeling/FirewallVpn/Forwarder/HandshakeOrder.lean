import FirewallVpn.Forwarder.Orphans

/-! The order of a handshake: connect, registration, SYN-ACK, data. A connection
whose SYN-ACK fails is taken down again without a byte of data. -/

set_option autoImplicit false

namespace FirewallVpn

namespace Forwarder

inductive Milestone where
  | connected (socket : Nat)
  | registered (connection : TcpConnection)
  | synAckWritten (connection : TcpConnection)
  /-- Building or writing it has failed. -/
  | synAckFailed (connection : TcpConnection)
  | dataWritten (connection : TcpConnection)
  deriving DecidableEq

variable (pcpp : PcapPlusPlus)

/-- What a statement has achieved, or failed in, with this answer. -/
def milestoneOf (call : ForwardCall) : Job → Answer → Option Milestone
  | .tcp (.connect socket), .returns => some (.connected socket)
  | .tcp (.register socket), .returns => some (.registered (newTcpConnection socket call.key))
  | .tcp (.buildSynAck connection), .returns =>
      if buildTcpPacket pcpp "10.0.0.2" call.traffic.srcIp call.traffic.dstPort
          call.traffic.srcPort 0x12 1 1 none = none then some (.synAckFailed connection) else none
  | .tcp (.buildSynAck connection), .throws => some (.synAckFailed connection)
  | .tcp (.writeSynAck connection _), .returns => some (.synAckWritten connection)
  | .tcp (.writeSynAck connection _), .throws => some (.synAckFailed connection)
  | .reader connection (.write _ _), .returns => some (.dataWritten connection)
  | _, _ => none

/-- A coroutine passes the milestone in this step. -/
def Passes (milestone : Milestone) (forwarder : Forwarder) : Label → Prop
  | .task index answer => ∃ task ∈ forwarder.tasks[index]?,
      milestoneOf pcpp task.call task.job answer = some milestone
  | .overwrite _ | .forwardPacket _ _ | .cleanup | .clear => False

/-- The coroutine at `index` passes the milestone. -/
def PassesAt (index : Nat) (milestone : Milestone) (forwarder : Forwarder) (label : Label) : Prop :=
  Passes pcpp milestone forwarder label ∧ ∃ answer, label = .task index answer

/-- Another handler registers its connection in place of the one with this socket. -/
def Replaces (socket : Nat) (forwarder : Forwarder) : Label → Prop
  | .task index _ => ∃ task ∈ forwarder.tasks[index]?, (holdOf task.job).isRegistering ∧
      ∃ replaced ∈ forwarder.tcpConnections.lookup task.call.key, replaced.socket = socket
  | .overwrite _ | .forwardPacket _ _ | .cleanup | .clear => False

instance (milestone : Milestone) (forwarder : Forwarder) :
    ∀ label, Decidable (Passes pcpp milestone forwarder label)
  | .task _ _ => inferInstanceAs (Decidable (∃ task ∈ _, _))
  | .overwrite _ | .forwardPacket _ _ | .cleanup | .clear => .isFalse id

instance (socket : Nat) (forwarder : Forwarder) : ∀ label, Decidable (Replaces socket forwarder label)
  | .task _ _ => inferInstanceAs (Decidable (∃ task ∈ _, _ ∧ ∃ replaced ∈ _, _))
  | .overwrite _ | .forwardPacket _ _ | .cleanup | .clear => .isFalse id

/-- The milestone has been passed in a run with these labels. -/
def Passed (labels : List Label) (milestone : Milestone) : Prop :=
  Transition.Occurs (step pcpp) (Passes pcpp milestone) initial labels

/-- The milestone that must have been passed before this one. -/
def Milestone.before : Milestone → Option Milestone
  | .connected _ => none
  | .registered connection => some (.connected connection.socket)
  | .synAckWritten connection | .synAckFailed connection => some (.registered connection)
  | .dataWritten connection => some (.synAckWritten connection)

/-- The milestone that a coroutine has behind it at this statement. -/
def behind : Job → Option Milestone
  | .tcp (.register socket) => some (.connected socket)
  | .tcp (.buildSynAck connection) | .tcp (.writeSynAck connection _) => some (.registered connection)
  | .tcp (.startReader connection) | .reader connection _ => some (.synAckWritten connection)
  | .udp _ | .tcp _ => none

variable {pcpp} {forwarder next : Forwarder} {label : Label} {milestone : Milestone}

/-- The statements that pass a milestone. -/
inductive PassedBy (pcpp : PcapPlusPlus) (call : ForwardCall) : Job → Answer → Milestone → Prop where
  | connected {socket : Nat} :
      PassedBy pcpp call (.tcp (.connect socket)) .returns (.connected socket)
  | registered {socket : Nat} :
      PassedBy pcpp call (.tcp (.register socket)) .returns
        (.registered (newTcpConnection socket call.key))
  | buildFailed {connection : TcpConnection}
      (invalid : buildTcpPacket pcpp "10.0.0.2" call.traffic.srcIp call.traffic.dstPort
        call.traffic.srcPort 0x12 1 1 none = none) :
      PassedBy pcpp call (.tcp (.buildSynAck connection)) .returns (.synAckFailed connection)
  | buildThrew {connection : TcpConnection} :
      PassedBy pcpp call (.tcp (.buildSynAck connection)) .throws (.synAckFailed connection)
  | written {connection : TcpConnection} {synAckPacket : List UInt8} :
      PassedBy pcpp call (.tcp (.writeSynAck connection synAckPacket)) .returns
        (.synAckWritten connection)
  | writeFailed {connection : TcpConnection} {synAckPacket : List UInt8} :
      PassedBy pcpp call (.tcp (.writeSynAck connection synAckPacket)) .throws
        (.synAckFailed connection)
  | dataWritten {connection : TcpConnection} {responseData responsePacket : List UInt8} :
      PassedBy pcpp call (.reader connection (.write responseData responsePacket)) .returns
        (.dataWritten connection)

theorem passedBy_of_milestone {call : ForwardCall} {job : Job} {answer : Answer}
    (passes : milestoneOf pcpp call job answer = some milestone) :
    PassedBy pcpp call job answer milestone := by
  cases job with
  | udp => cases passes
  | tcp stage =>
      cases stage with
      | connect =>
          cases answer <;> cases passes
          exact .connected
      | register =>
          cases answer <;> cases passes
          exact .registered
      | buildSynAck =>
          cases answer with
          | returns =>
              simp only [milestoneOf] at passes
              split at passes <;> cases passes
              next invalid => exact .buildFailed invalid
          | throws =>
              cases passes
              exact .buildThrew
          | throwsAfter | timesOut | datagram | chunk | endOfStream => cases passes
      | writeSynAck =>
          cases answer <;> cases passes
          · exact .written
          · exact .writeFailed
      | getTcpFlags | extractTcpPayload | create | protect | soTimeout | startReader | lookup | write
      | remove | close | done => cases passes
  | reader connection stage =>
      cases stage with
      | write =>
          cases answer <;> cases passes
          exact .dataWritten
      | isClosed | read | build | remove | close | done => cases passes

theorem PassedBy.behind {call : ForwardCall} {job : Job} {answer : Answer} {earlier : Milestone}
    (passes : PassedBy pcpp call job answer milestone) (before : milestone.before = some earlier) :
    behind job = some earlier := by
  cases passes <;> cases before <;> rfl

private theorem finTest_behind (finFollows : Bool) : behind (.tcp (finTest finFollows)) = none := by
  cases finFollows <;> rfl

theorem JobStep.behind {call : ForwardCall} {job after : Job} {answer : Answer} {effect : Effect}
    (stepped : JobStep pcpp forwarder call job answer effect after)
    (past : Forwarder.behind after = some milestone) :
    Forwarder.behind job = some milestone ∨ milestoneOf pcpp call job answer = some milestone := by
  cases stepped with
  | udp stepped => cases past
  | tcp stepped =>
      cases stepped with
      | flagsRead | synSeen | extracted | created | shielded | timed | buildFailed | abandoned
      | readerStarted | found | writeInterrupted | writeFailed | removed => cases past
      | nothingToWrite | written | nothingToRemove | closed =>
          rw [finTest_behind] at past
          cases past
      | connected | registered | synAckWritten => exact .inr past
      | built => exact .inl past
  | reader stepped => exact .inl past

theorem behind_launched {call : ForwardCall} {job after : Job} {answer : Answer} {effect : Effect}
    (stepped : JobStep pcpp forwarder call job answer effect after) {task : Task}
    (launched : task ∈ effect.launched call) : Forwarder.behind task.job = Forwarder.behind job := by
  cases stepped with
  | udp stepped => cases stepped <;> cases launched
  | tcp stepped =>
      cases stepped with
      | readerStarted =>
          rw [List.mem_singleton.mp launched]
          rfl
      | flagsRead | synSeen | extracted | created | shielded | timed | connected | registered
      | buildFailed | built | synAckWritten | abandoned | found | nothingToWrite | written
      | writeInterrupted | writeFailed | removed | nothingToRemove | closed => cases launched
  | reader stepped => cases stepped <;> cases launched

/-- What a coroutine has behind it was passed earlier in the run. -/
theorem passed_of_behind {labels : List Label} {final : Forwarder}
    (ran : Transition.run (step pcpp) initial labels = some final) :
    ∀ task ∈ final.tasks, ∀ milestone, behind task.job = some milestone →
      Passed pcpp labels milestone := by
  refine Transition.run_induction (fun labels forwarder => ∀ task ∈ forwarder.tasks, ∀ milestone,
    behind task.job = some milestone → Passed pcpp labels milestone) ?_
    (List.forall_mem_nil _) ran
  intro labels forwarder label next reached known taken
  have earlier (milestone : Milestone) (passed : Passed pcpp labels milestone) :
      Passed pcpp (labels ++ [label]) milestone :=
    (Transition.occurs_append_singleton reached).mpr (.inl passed)
  cases step_forwarder taken with
  | overwritten | passedThrough | passThroughFailed | closedAll | cleared =>
      exact fun task member milestone past => earlier milestone (known task member milestone past)
  | launched held first =>
      intro task member milestone past
      rcases List.mem_append.mp member with old | single
      · exact earlier milestone (known task old milestone past)
      · rw [List.mem_singleton.mp single] at past
        rcases first with ⟨-, rfl⟩ | ⟨-, rfl⟩ <;> cases past
  | @resumed index task answer effect job located stepped =>
      have own := known task (List.mem_of_getElem? located)
      intro member inAfter milestone past
      rcases TaskPool.mem_advance inAfter with old | rfl | new
      · exact earlier milestone (known member old milestone past)
      · rcases stepped.behind past with before | now
        · exact earlier milestone (own milestone before)
        · exact (Transition.occurs_append_singleton reached).mpr (.inr ⟨task, located, now⟩)
      · rw [behind_launched stepped new] at past
        exact earlier milestone (own milestone past)

theorem passed_in_order {labels : List Label} {earlier : Milestone}
    (before : milestone.before = some earlier) :
    Transition.Preceded (step pcpp) (Passes pcpp milestone) (Passes pcpp earlier) initial labels := by
  intro first label forwarder _ reached passes
  cases label with
  | task index answer =>
      obtain ⟨task, located, passes⟩ := passes
      have past := (passedBy_of_milestone passes).behind before
      exact passed_of_behind reached task (List.mem_of_getElem? located) earlier past
  | overwrite | forwardPacket | cleanup | clear => exact passes.elim

theorem passes_own {index : Nat} {task : Task} {answer : Answer}
    (located : forwarder.tasks[index]? = some task) :
    Passes pcpp milestone forwarder (.task index answer) ↔
      milestoneOf pcpp task.call task.job answer = some milestone := by
  simp [Passes, located]

/-! A SYN-ACK is written or it fails, never both: only the handler that has opened the
socket sends one for it, and it tries once. -/

/-- The socket for which a handler has yet to send the SYN-ACK. -/
def pendingSocket : Job → Option Nat
  | .tcp (.protect socket) | .tcp (.soTimeout socket) | .tcp (.connect socket)
  | .tcp (.register socket) => some socket
  | .tcp (.buildSynAck connection) | .tcp (.writeSynAck connection _) => some connection.socket
  | .udp _ | .tcp _ | .reader _ _ => none

private theorem pending_of_first {call : ForwardCall} {job : Job}
    (first : call.traffic.protocolByte = .udp ∧ job = .udp .extractUdpPayload ∨
      call.traffic.protocolByte = .tcp ∧ job = .tcp .getTcpFlags) : pendingSocket job = none := by
  rcases first with ⟨-, rfl⟩ | ⟨-, rfl⟩ <;> rfl

theorem OwnsJob.pending {key : String} {job : Job} {socket : Nat}
    (owns : OwnsJob forwarder key job) (pending : pendingSocket job = some socket) :
    forwarder.owner socket = some key := by
  cases job with
  | udp | reader => cases pending
  | tcp stage =>
      cases stage with
      | protect | soTimeout | connect | register =>
          cases pending
          exact owns
      | buildSynAck | writeSynAck =>
          cases pending
          exact owns.1
      | getTcpFlags | extractTcpPayload | create | startReader | lookup | write | remove | close
      | done => cases pending

private theorem finTest_pendingSocket (finFollows : Bool) :
    pendingSocket (.tcp (finTest finFollows)) = none := by
  cases finFollows <;> rfl

theorem JobStep.pending {call : ForwardCall} {job after : Job} {answer : Answer} {effect : Effect}
    (stepped : JobStep pcpp forwarder call job answer effect after) {socket : Nat}
    (pending : pendingSocket after = some socket) :
    pendingSocket job = some socket ∨ socket = forwarder.sockets.length := by
  cases stepped with
  | udp stepped => cases pending
  | tcp stepped =>
      cases stepped with
      | flagsRead | synSeen | extracted | buildFailed | synAckWritten | abandoned | readerStarted
      | found | writeInterrupted | writeFailed | removed => cases pending
      | nothingToWrite | written | nothingToRemove | closed =>
          rw [finTest_pendingSocket] at pending
          cases pending
      | created => exact .inr (Option.some.inj pending).symm
      | shielded | timed | connected | registered | built => exact .inl pending
  | reader stepped => cases pending

theorem JobStep.synAckWritten {call : ForwardCall} {job after : Job} {answer : Answer}
    {effect : Effect} {connection : TcpConnection}
    (stepped : JobStep pcpp forwarder call job answer effect after)
    (passes : PassedBy pcpp call job answer (.synAckWritten connection)) :
    pendingSocket job = some connection.socket ∧ after = .tcp (.startReader connection) := by
  cases passes with
  | written =>
      cases stepped with
      | tcp stepped =>
          cases stepped with
          | synAckWritten => exact ⟨rfl, rfl⟩

theorem JobStep.synAckFailed {call : ForwardCall} {job after : Job} {answer : Answer}
    {effect : Effect} {connection : TcpConnection}
    (stepped : JobStep pcpp forwarder call job answer effect after)
    (passes : PassedBy pcpp call job answer (.synAckFailed connection)) :
    pendingSocket job = some connection.socket ∧ effect = .none ∧ after = .tcp (.remove false) := by
  cases passes with
  | buildFailed invalid =>
      cases stepped with
      | tcp stepped =>
          cases stepped with
          | buildFailed => exact ⟨rfl, rfl, rfl⟩
          | built packet =>
              rw [invalid] at packet
              cases packet
  | buildThrew | writeFailed =>
      cases stepped with
      | tcp stepped =>
          cases stepped with
          | abandoned => exact ⟨rfl, rfl, rfl⟩

/-- No two handlers have to send the SYN-ACK for one socket. -/
def SingleHandlers (forwarder : Forwarder) : Prop :=
  TaskPool.Exclusive (fun task : Task => pendingSocket task.job) forwarder.tasks

private theorem pending_launched {call : ForwardCall} {job after : Job} {answer : Answer}
    {effect : Effect} (stepped : JobStep pcpp forwarder call job answer effect after) :
    ∀ task ∈ effect.launched call, pendingSocket task.job = none := by
  intro task launched
  obtain ⟨connection, rfl⟩ := stepped.launched task launched
  rfl

private theorem pending_lt (owned : Owned forwarder) {task : Task} {socket : Nat}
    (member : task ∈ forwarder.tasks) (pending : pendingSocket task.job = some socket) :
    socket < forwarder.sockets.length :=
  owner_lt ((owned.tasks task member).pending pending)

theorem SingleHandlers.step (single : SingleHandlers forwarder) (owned : Owned forwarder)
    (taken : Forwarder.step pcpp forwarder label = some next) : SingleHandlers next := by
  cases step_forwarder taken with
  | overwritten | passedThrough | passThroughFailed | closedAll | cleared => exact single
  | @launched call job held first =>
      refine single.append fun task member => ?_
      rw [List.mem_singleton.mp member]
      exact pending_of_first first
  | @resumed index task answer effect job located stepped =>
      refine single.advance located (fun socket pending => ?_) (pending_launched stepped)
      rcases stepped.pending pending with kept | rfl
      · exact .inl kept
      · refine .inr fun member old holds => ?_
        exact absurd (pending_lt owned old holds) (Nat.lt_irrefl _)

theorem singleHandlers_of_run {labels : List Label} {final : Forwarder}
    (ran : Transition.run (step pcpp) initial labels = some final) : SingleHandlers final := by
  refine Transition.run_induction (fun _ forwarder => SingleHandlers forwarder) ?_ ?_ ran
  · intro labels forwarder label next reached single taken
    exact single.step (owned_of_run reached) taken
  · exact fun _ _ _ _ _ located => (by cases located)

/-- The handler that opened this socket has nothing more to send for it. -/
def Attempted (forwarder : Forwarder) (socket : Nat) : Prop :=
  (∃ key, forwarder.owner socket = some key) ∧
    ∀ task ∈ forwarder.tasks, pendingSocket task.job ≠ some socket

theorem Attempted.step {socket : Nat} (attempted : Attempted forwarder socket)
    (taken : Forwarder.step pcpp forwarder label = some next) : Attempted next socket := by
  obtain ⟨⟨key, own⟩, free⟩ := attempted
  refine ⟨⟨key, step_keepsOwners taken socket key own⟩, ?_⟩
  cases step_forwarder taken with
  | overwritten | passedThrough | passThroughFailed | closedAll | cleared => exact free
  | @launched call job held first =>
      intro task member
      rcases List.mem_append.mp member with old | new
      · exact free task old
      · rw [List.mem_singleton.mp new, pending_of_first first]
        exact nofun
  | @resumed index task answer effect job located stepped =>
      have within := owner_lt own
      refine TaskPool.forall_advance free (fun pending => ?_) fun member launched => ?_
      · rcases stepped.pending pending with kept | fresh
        · exact free task (List.mem_of_getElem? located) kept
        · omega
      · rw [pending_launched stepped member launched]
        exact nofun

/-- A step that settles the SYN-ACK of a connection, one way or the other. -/
def Settles (pcpp : PcapPlusPlus) (connection : TcpConnection) (forwarder : Forwarder)
    (label : Label) : Prop :=
  Passes pcpp (.synAckWritten connection) forwarder label ∨
    Passes pcpp (.synAckFailed connection) forwarder label

theorem Settles.pending {connection : TcpConnection} (settles : Settles pcpp connection forwarder label)
    (taken : step pcpp forwarder label = some next) :
    ∃ index task answer effect job, label = .task index answer ∧
      forwarder.tasks[index]? = some task ∧
      JobStep pcpp forwarder task.call task.job answer effect job ∧
      next = forwarder.resume task.call index effect job ∧
      pendingSocket task.job = some connection.socket ∧ pendingSocket job = none := by
  cases step_forwarder taken with
  | overwritten | launched | passedThrough | passThroughFailed | closedAll | cleared =>
      rcases settles with passes | passes <;> exact passes.elim
  | @resumed index task answer effect job located stepped =>
      refine ⟨index, task, answer, effect, job, rfl, located, stepped, rfl, ?_⟩
      rw [Settles, passes_own located, passes_own located] at settles
      rcases settles with writes | fails
      · obtain ⟨pending, rfl⟩ := stepped.synAckWritten (passedBy_of_milestone writes)
        exact ⟨pending, rfl⟩
      · obtain ⟨pending, -, rfl⟩ := stepped.synAckFailed (passedBy_of_milestone fails)
        exact ⟨pending, rfl⟩

theorem Settles.attempted {connection : TcpConnection}
    (settles : Settles pcpp connection forwarder label) (owned : Owned forwarder)
    (single : SingleHandlers forwarder) (taken : step pcpp forwarder label = some next) :
    Attempted next connection.socket := by
  have kept := step_keepsOwners taken
  obtain ⟨index, task, answer, effect, job, rfl, located, stepped, rfl, pending, settled⟩ :=
    settles.pending taken
  have own := (owned.tasks task (List.mem_of_getElem? located)).pending pending
  refine ⟨⟨_, kept _ _ own⟩, fun member inAfter holds => ?_⟩
  obtain ⟨position, reached⟩ := List.mem_iff_getElem?.mp inAfter
  rcases TaskPool.getElem?_advance_cases located reached with ⟨-, rfl⟩ | ⟨distinct, old⟩ | ⟨-, new⟩
  · rw [settled] at holds
    cases holds
  · exact distinct (single _ _ member task _ old located holds pending)
  · rw [pending_launched stepped member (List.mem_of_getElem? new)] at holds
    cases holds

theorem attempted_of_settled {labels : List Label} {connection : TcpConnection} {final : Forwarder}
    (ran : Transition.run (step pcpp) initial labels = some final)
    (settled : Transition.Occurs (step pcpp) (Settles pcpp connection) initial labels) :
    Attempted final connection.socket := by
  refine Transition.run_induction (fun labels forwarder =>
    Transition.Occurs (step pcpp) (Settles pcpp connection) initial labels →
      Attempted forwarder connection.socket) ?_ nofun ran settled
  intro labels forwarder label next reached attempted taken settled
  rcases (Transition.occurs_append_singleton reached).mp settled with before | now
  · exact (attempted before).step taken
  · exact now.attempted (owned_of_run reached) (singleHandlers_of_run reached) taken

theorem not_settled_twice {labels : List Label} {connection : TcpConnection} {final : Forwarder}
    (ran : Transition.run (step pcpp) initial labels = some final)
    (failed : Passed pcpp labels (.synAckFailed connection)) :
    ¬ Passed pcpp labels (.synAckWritten connection) := by
  refine Transition.run_induction (fun labels _ => Passed pcpp labels (.synAckFailed connection) →
    ¬ Passed pcpp labels (.synAckWritten connection)) ?_ (fun failed => failed.elim) ran failed
  intro labels forwarder label next reached apart taken failed written
  have once : Settles pcpp connection forwarder label →
      ¬ Transition.Occurs (step pcpp) (Settles pcpp connection) initial labels := by
    intro now before
    obtain ⟨_, task, _, _, _, -, located, -, -, pending, -⟩ := now.pending taken
    exact (attempted_of_settled reached before).2 task (List.mem_of_getElem? located) pending
  rcases (Transition.occurs_append_singleton reached).mp failed with failedBefore | failsNow
  · rcases (Transition.occurs_append_singleton reached).mp written with writtenBefore | writesNow
    · exact apart failedBefore writtenBefore
    · exact once (.inl writesNow) (failedBefore.mono fun _ _ => .inr)
  · rcases (Transition.occurs_append_singleton reached).mp written with writtenBefore | writesNow
    · exact once (.inr failsNow) (writtenBefore.mono fun _ _ => .inl)
    · cases label with
      | task index answer =>
          obtain ⟨task, located, fails⟩ := failsNow
          rw [passes_own located, fails] at writesNow
          cases writesNow
      | overwrite | forwardPacket | cleanup | clear => exact failsNow.elim

/-! What becomes of a connection whose SYN-ACK fails: the handler goes on to remove
its entry, and whoever removes it closes the socket. -/

theorem pendingClears_of_run {labels : List Label} {final : Forwarder}
    (ran : Transition.run (step pcpp) initial labels = some final) (noCleanup : .cleanup ∉ labels) :
    final.pendingClears = 0 := by
  have guarded : Transition.Guarded (step pcpp) (fun _ label => label ≠ .cleanup) initial labels :=
    Transition.guarded_of_labels initial fun label member same => noCleanup (same ▸ member)
  refine guarded.preserves (fun forwarder => forwarder.pendingClears = 0) ?_ rfl ran
  intro forwarder label next none notCleanup taken
  cases step_forwarder taken with
  | overwritten | launched | passedThrough | passThroughFailed => exact none
  | @resumed index task answer effect job =>
      cases effect <;> exact none
  | closedAll => exact absurd rfl notCleanup
  | cleared pending => exact absurd pending (by rw [none]; exact Nat.lt_irrefl 0)

theorem Filed.not_dropped {socket : Nat} (filed : Filed forwarder socket)
    (kept : ¬ Replaces socket forwarder label) (notCleared : label ≠ .clear) :
    ∀ key, forwarder.owner socket = some key → ¬ DropsEntry key forwarder label := by
  obtain ⟨filedKey, connection, own, entry, same⟩ := filed
  intro key otherOwn drops
  rw [own, Option.some.injEq] at otherOwn
  subst otherOwn
  cases label with
  | task index answer =>
      obtain ⟨task, located, rfl, registering, -⟩ := drops
      exact kept ⟨task, located, registering, connection, entry, same⟩
  | clear => exact notCleared rfl
  | overwrite | forwardPacket | cleanup => exact drops

theorem PassedBy.registering {call : ForwardCall} {job : Job} {answer : Answer}
    {connection : TcpConnection} (passes : PassedBy pcpp call job answer (.registered connection)) :
    holdOf job = .registering connection.socket := by
  cases passes with
  | registered => rfl

theorem registered_of_passed {labels : List Label} {connection : TcpConnection}
    (passed : Passed pcpp labels (.registered connection)) :
    EverRegistered pcpp labels connection.socket := by
  refine passed.mono fun forwarder label registers => ?_
  cases label with
  | task index answer =>
      obtain ⟨task, located, registers⟩ := registers
      exact ⟨task, located, (passedBy_of_milestone registers).registering⟩
  | overwrite | forwardPacket | cleanup | clear => exact registers

theorem not_clear {labels : List Label} (noCleanup : .cleanup ∉ labels)
    (reached : Transition.run (step pcpp) initial labels = some forwarder)
    (taken : step pcpp forwarder label = some next) : label ≠ .clear := by
  rintro rfl
  cases step_forwarder taken with
  | cleared pending =>
      rw [pendingClears_of_run reached noCleanup] at pending
      exact Nat.lt_irrefl 0 pending

/-- Nothing but another registration under its key takes a registered socket out of
the map without closing it. -/
theorem inHand_unless_replaced {labels : List Label} {final : Forwarder} {socket : Nat}
    (ran : Transition.run (step pcpp) initial labels = some final) (noCleanup : .cleanup ∉ labels)
    (kept : ¬ Transition.Occurs (step pcpp) (Replaces socket) initial labels)
    (registered : EverRegistered pcpp labels socket) :
    final.isClosed socket ∨ Filed final socket ∨ CloseFollows final socket := by
  refine Transition.run_induction (fun labels forwarder => .cleanup ∉ labels →
    ¬ Transition.Occurs (step pcpp) (Replaces socket) initial labels →
      EverRegistered pcpp labels socket →
        forwarder.isClosed socket ∨ Filed forwarder socket ∨ CloseFollows forwarder socket)
    ?_ (fun _ _ registered => registered.elim) ran noCleanup kept registered
  intro labels forwarder label next reached within taken noCleanup kept registered
  have owned := owned_of_run reached
  have none : .cleanup ∉ labels := fun member => noCleanup (List.mem_append_left _ member)
  rw [Transition.occurs_append_singleton reached, not_or] at kept
  rcases (Transition.occurs_append_singleton reached).mp registered with before | now
  · obtain ⟨key, own⟩ := EverRegistered.owner before reached
    by_cases closed : forwarder.isClosed socket
    · exact .inl (isClosed_step own taken closed)
    · rw [Bool.not_eq_true] at closed
      by_cases closedAfter : next.isClosed socket
      · exact .inl closedAfter
      · rw [Bool.not_eq_true] at closedAfter
        rcases within none kept.1 before with already | filed | follows
        · rw [closed] at already
          cases already
        · have stays := filed.not_dropped kept.2 (not_clear none reached taken)
          exact .inr (filed.step owned stays taken closed)
        · exact .inr (.inr (follows.step owned taken closedAfter))
  · exact .inr (.inl (now.filed owned taken))

/-- The handler at `index` is about to remove the entry of this socket. -/
def RemovesNext (index : Nat) (forwarder : Forwarder) (socket : Nat) : Prop :=
  ∃ call, forwarder.tasks[index]? = some ⟨call, .tcp (.remove false)⟩ ∧
    forwarder.owner socket = some call.key

theorem JobStep.closesEntry {call : ForwardCall} {job : Job} {answer : Answer} {effect : Effect}
    {finFollows : Bool}
    (stepped : JobStep pcpp forwarder call (.tcp (.remove finFollows)) answer effect job)
    {connection : TcpConnection}
    (located : forwarder.tcpConnections.lookup call.key = some connection) :
    job = .tcp (.close connection finFollows) := by
  cases stepped with
  | tcp stepped =>
      cases stepped with
      | abandoned abandons => cases abandons
      | removed found =>
          rw [located, Option.some.injEq] at found
          rw [found]
      | nothingToRemove absent =>
          rw [located] at absent
          cases absent

theorem RemovesNext.step {index socket : Nat} (removes : RemovesNext index forwarder socket)
    (filed : Filed forwarder socket) (taken : Forwarder.step pcpp forwarder label = some next) :
    RemovesNext index next socket ∨ CloseFollows next socket := by
  obtain ⟨call, atRemove, own⟩ := removes
  have ownAfter := step_keepsOwners taken socket _ own
  have within := (List.getElem?_eq_some_iff.mp atRemove).1
  cases step_forwarder taken with
  | overwritten | passedThrough | passThroughFailed | closedAll | cleared =>
      exact .inl ⟨call, atRemove, ownAfter⟩
  | launched => exact .inl ⟨call, (List.getElem?_append_left within).trans atRemove, ownAfter⟩
  | @resumed moved task answer effect job located stepped =>
      by_cases same : index = moved
      · subst same
        rw [located, Option.some.injEq] at atRemove
        subst atRemove
        obtain ⟨key, connection, sameOwn, entry, rfl⟩ := filed
        rw [own, Option.some.injEq] at sameOwn
        subst sameOwn
        have closes := stepped.closesEntry entry
        refine .inr ⟨_, List.mem_of_getElem? (TaskPool.getElem?_advance_self located), ?_⟩
        rw [closes]
        rfl
      · exact .inl ⟨call, (TaskPool.getElem?_advance_other same within).trans atRemove, ownAfter⟩

theorem PassesAt.removesNext {index : Nat} {connection : TcpConnection}
    (fails : PassesAt pcpp index (.synAckFailed connection) forwarder label)
    (owned : Owned forwarder) (taken : step pcpp forwarder label = some next) :
    RemovesNext index next connection.socket := by
  have kept := step_keepsOwners taken
  obtain ⟨passes, answer, rfl⟩ := fails
  cases step_forwarder taken with
  | @resumed _ task _ effect job located stepped =>
      rw [passes_own located] at passes
      obtain ⟨pending, rfl, rfl⟩ := stepped.synAckFailed (passedBy_of_milestone passes)
      have own := (owned.tasks task (List.mem_of_getElem? located)).pending pending
      exact ⟨task.call, TaskPool.getElem?_advance_self located, kept _ _ own⟩

/-- After its failure the handler has yet to remove the entry, or the socket is
closed or about to be. -/
theorem failed_fate {labels : List Label} {final : Forwarder} {index : Nat}
    {connection : TcpConnection}
    (ran : Transition.run (step pcpp) initial labels = some final) (noCleanup : .cleanup ∉ labels)
    (kept : ¬ Transition.Occurs (step pcpp) (Replaces connection.socket) initial labels)
    (failed : Transition.Occurs (step pcpp) (PassesAt pcpp index (.synAckFailed connection))
      initial labels) :
    final.isClosed connection.socket ∨ CloseFollows final connection.socket ∨
      RemovesNext index final connection.socket := by
  refine Transition.run_induction (fun labels forwarder => .cleanup ∉ labels →
    ¬ Transition.Occurs (step pcpp) (Replaces connection.socket) initial labels →
      Transition.Occurs (step pcpp) (PassesAt pcpp index (.synAckFailed connection)) initial labels →
        forwarder.isClosed connection.socket ∨ CloseFollows forwarder connection.socket ∨
          RemovesNext index forwarder connection.socket)
    ?_ (fun _ _ failed => failed.elim) ran noCleanup kept failed
  intro labels forwarder label next reached fate taken noCleanup kept failed
  have owned := owned_of_run reached
  have none : .cleanup ∉ labels := fun member => noCleanup (List.mem_append_left _ member)
  rw [Transition.occurs_append_singleton reached, not_or] at kept
  rcases (Transition.occurs_append_singleton reached).mp failed with before | now
  · have registered : EverRegistered pcpp labels connection.socket :=
      registered_of_passed ((passed_in_order rfl).occurs reached (before.mono fun _ _ => And.left))
    obtain ⟨key, own⟩ := registered.owner reached
    by_cases closed : next.isClosed connection.socket
    · exact .inl closed
    · rcases fate none kept.1 before with already | follows | removes
      · exact absurd (isClosed_step own taken already) closed
      · exact .inr (.inl (follows.step owned taken ((Bool.not_eq_true _).mp closed)))
      · rcases inHand_unless_replaced reached none kept.1 registered with already | filed | follows
        · exact absurd (isClosed_step own taken already) closed
        · exact .inr (removes.step filed taken).symm
        · exact .inr (.inl (follows.step owned taken ((Bool.not_eq_true _).mp closed)))
  · exact .inr (.inr (now.removesNext owned taken))

/-- Whoever has removed an entry closes its socket with the next statement. -/
theorem CloseFollows.closes {socket : Nat} (follows : CloseFollows forwarder socket) :
    ∃ index next, Forwarder.step pcpp forwarder (.task index .returns) = some next ∧
      next.isClosed socket := by
  obtain ⟨⟨call, job⟩, member, closing⟩ := follows
  obtain ⟨index, located⟩ := List.mem_iff_getElem?.mp member
  have enabled : ∃ after, jobNext pcpp forwarder call job .returns = some (.close socket, after) := by
    cases job with
    | udp => cases closing
    | tcp stage =>
        cases stage with
        | close =>
            cases closing
            exact ⟨_, rfl⟩
        | getTcpFlags | extractTcpPayload | create | protect | soTimeout | connect | register
        | buildSynAck | writeSynAck | startReader | lookup | write | remove | done => cases closing
    | reader connection stage =>
        cases stage with
        | close =>
            cases closing
            exact ⟨_, rfl⟩
        | isClosed | read | build | write | remove | done => cases closing
  obtain ⟨after, moves⟩ := enabled
  refine ⟨index, forwarder.resume call index (.close socket) after, ?_, isClosed_of_close index call⟩
  rw [Forwarder.step, located]
  simp only [moves, Option.map_some]

/-- The data packets of a connection come after its SYN-ACK, the SYN-ACK after the
registration, and the registration after the connect of the socket. A connection whose
SYN-ACK fails has no data packets; once its handler is over, and unless its entry was
replaced, the socket is closed, or the coroutine that has removed the entry is about
to close it. -/
structure HandshakeOrder (pcpp : PcapPlusPlus) (labels : List Label) (final : Forwarder) : Prop where
  connected : ∀ connection, Transition.Preceded (step pcpp) (Passes pcpp (.registered connection))
    (Passes pcpp (.connected connection.socket)) initial labels
  registered : ∀ connection, Transition.Preceded (step pcpp)
    (Passes pcpp (.synAckWritten connection)) (Passes pcpp (.registered connection)) initial labels
  synAckWritten : ∀ connection, Transition.Preceded (step pcpp)
    (Passes pcpp (.dataWritten connection)) (Passes pcpp (.synAckWritten connection)) initial labels
  silent : ∀ connection, Passed pcpp labels (.synAckFailed connection) →
    ¬ Passed pcpp labels (.dataWritten connection)
  closed : ∀ connection index call,
    Transition.Occurs (step pcpp) (PassesAt pcpp index (.synAckFailed connection)) initial labels →
    final.tasks[index]? = some ⟨call, .tcp .done⟩ →
    ¬ Transition.Occurs (step pcpp) (Replaces connection.socket) initial labels →
    final.isClosed connection.socket ∨ CloseFollows final connection.socket
  closes : ∀ socket, CloseFollows final socket →
    ∃ index next, step pcpp final (.task index .returns) = some next ∧ next.isClosed socket

theorem handshakeOrder_of_run {labels : List Label} {final : Forwarder}
    (ran : Transition.run (step pcpp) initial labels = some final) (noCleanup : .cleanup ∉ labels) :
    HandshakeOrder pcpp labels final where
  connected _ := passed_in_order rfl
  registered _ := passed_in_order rfl
  synAckWritten _ := passed_in_order rfl
  silent connection failed data :=
    not_settled_twice ran failed ((passed_in_order rfl).occurs ran data)
  closed connection index call failed located kept := by
    rcases failed_fate ran noCleanup kept failed with closed | follows | ⟨_, atRemove, -⟩
    · exact .inl closed
    · exact .inr follows
    · rw [located] at atRemove
      cases atRemove
  closes _ follows := follows.closes

/-- The connection has brought data when the SYN comes once more, and the SYN-ACK for it
cannot be written. -/
def secondSynAckFails : List Label :=
  handshake 7 ++ readChunk [0x48, 0x69] ++
    .overwrite (synPacket 7).bytes :: .forwardPacket (callOf (synPacket 7).bytes) .returns ::
    List.replicate 8 (.task 2 .returns) ++ [.task 2 .throws, .task 2 .returns, .task 2 .returns]

theorem secondSynAckFails_inOrder :
    ∃ final, Transition.run (step .headerRules) initial secondSynAckFails = some final ∧
      Passed .headerRules secondSynAckFails
        (.dataWritten (newTcpConnection 0 (callOf (synPacket 7).bytes).key)) ∧
      Passed .headerRules secondSynAckFails
        (.synAckFailed (newTcpConnection 1 (callOf (synPacket 7).bytes).key)) ∧
      HandshakeOrder .headerRules secondSynAckFails final := by
  have observed : (Transition.run (step .headerRules) initial secondSynAckFails).isSome := by
    decide +kernel
  obtain ⟨final, ran⟩ := Option.isSome_iff_exists.mp observed
  refine ⟨final, ran, ?_, ?_, handshakeOrder_of_run ran (by decide +kernel)⟩
  · unfold Passed
    decide +kernel
  · unfold Passed
    decide +kernel

end Forwarder

end FirewallVpn
