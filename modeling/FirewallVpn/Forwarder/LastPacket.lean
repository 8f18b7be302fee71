import FirewallVpn.Forwarder.AppView

/-! What is left of a flow whose last packet ends it, once its coroutines have
finished. A socket is closed only through the map: it has to be registered, to stay
there until a cleanup finds it, and the cleanup has to come to its end. -/

set_option autoImplicit false

namespace FirewallVpn

namespace Forwarder

/-- The last TCP packet of the flow that is forwarded has FIN or RST set. -/
def LastPacketEnds (pcpp : PcapPlusPlus) (key : String) (labels : List Label) : Prop :=
  ∃ before call after, labels = before ++ .forwardPacket call .returns :: after ∧
    call.traffic.protocolByte = .tcp ∧ call.key = key ∧
    endsConnection (getTcpFlags pcpp call.packet call.length) ∧
    ∀ later answer, .forwardPacket later answer ∈ after → later.key = key →
      later.traffic.protocolByte ≠ .tcp

/-- The coroutines of the flow's packets, and their SYN handlers, have finished. -/
def Finished (key : String) (forwarder : Forwarder) : Prop :=
  ∀ task ∈ forwarder.tasks, task.call.key = key → ∀ stage, task.job = .tcp stage → stage = .done

structure Released (key : String) (forwarder : Forwarder) : Prop where
  absent : forwarder.tcpConnections.lookup key = none
  closed : ∀ socket, forwarder.owner socket = some key → forwarder.isClosed socket

def Hold.isConnecting : Hold → Bool
  | .connecting _ => true
  | .nothing | .registering _ | .closing _ => false

theorem Hold.isConnecting_iff {hold : Hold} :
    hold.isConnecting = true ↔ ∃ socket, hold = .connecting socket := by
  cases hold <;> simp [isConnecting]

/-- A SYN handler of the flow throws with a socket that it has not registered. -/
def Abandons (key : String) (forwarder : Forwarder) : Label → Prop
  | .task index answer => answer = .throws ∧ ∃ task ∈ forwarder.tasks[index]?,
      task.call.key = key ∧ (holdOf task.job).isConnecting
  | .overwrite _ | .forwardPacket _ _ | .cleanup | .clear => False

def RegistersEntry (key : String) (forwarder : Forwarder) : Label → Prop
  | .task index _ => ∃ task ∈ forwarder.tasks[index]?, task.call.key = key ∧
      (holdOf task.job).isRegistering
  | .overwrite _ | .forwardPacket _ _ | .cleanup | .clear => False

/-- The step executes `tcpConnections.remove(key)`, or clears the map. -/
def RemovesEntry (key : String) (forwarder : Forwarder) : Label → Prop
  | .task index _ => ∃ task ∈ forwarder.tasks[index]?, task.call.key = key ∧ removes task.job
  | .clear => True
  | .overwrite _ | .forwardPacket _ _ | .cleanup => False

instance (key : String) (forwarder : Forwarder) : ∀ label, Decidable (Abandons key forwarder label)
  | .task _ _ => inferInstanceAs (Decidable (_ ∧ ∃ task ∈ _, _ ∧ _))
  | .overwrite _ | .forwardPacket _ _ | .cleanup | .clear => .isFalse id

instance (key : String) (forwarder : Forwarder) :
    ∀ label, Decidable (RegistersEntry key forwarder label)
  | .task _ _ => inferInstanceAs (Decidable (∃ task ∈ _, _ ∧ _))
  | .overwrite _ | .forwardPacket _ _ | .cleanup | .clear => .isFalse id

instance (key : String) (forwarder : Forwarder) : ∀ label, Decidable (RemovesEntry key forwarder label)
  | .task _ _ => inferInstanceAs (Decidable (∃ task ∈ _, _ ∧ _))
  | .clear => .isTrue True.intro
  | .overwrite _ | .forwardPacket _ _ | .cleanup => .isFalse id

/-- Every socket of the flow is registered, no open one is taken out of the map
without being closed, each registration is followed by a removal, and no reader has
yet to close what it has removed. -/
structure LetsGo (pcpp : PcapPlusPlus) (key : String) (labels : List Label) (final : Forwarder) :
    Prop where
  attempts : ¬ Transition.Occurs (step pcpp) (Abandons key) initial labels
  entries : ¬ Transition.Occurs (step pcpp) (DropsEntry key) initial labels
  removed : Transition.Followed (step pcpp) (RegistersEntry key) (RemovesEntry key) initial labels
  closed : ∀ task ∈ final.tasks, task.call.key = key → ∀ connection, closes task.job = some connection →
    final.isClosed connection.socket

variable {pcpp : PcapPlusPlus} {key : String}

/-! An unregistered socket is open and in the hands of the coroutine that opened it. -/

def Opening (forwarder : Forwarder) (socket : Nat) : Prop :=
  ∃ task ∈ forwarder.tasks,
    holdOf task.job = .connecting socket ∨ holdOf task.job = .registering socket

/-- How a statement ends that holds a socket which is not connected yet. -/
theorem JobStep.connecting {forwarder : Forwarder} {call : ForwardCall} {job next : Job}
    {answer : Answer} {effect : Effect} {socket : Nat}
    (stepped : JobStep pcpp forwarder call job answer effect next)
    (connecting : holdOf job = .connecting socket) :
    answer = .throws ∧ effect = .none ∧ holdOf next = .nothing ∨
      answer = .returns ∧ (holdOf next = .connecting socket ∨ holdOf next = .registering socket) := by
  cases stepped with
  | udp stepped => cases connecting
  | tcp stepped =>
      cases stepped with
      | shielded | timed =>
          cases connecting
          exact .inr ⟨rfl, .inl rfl⟩
      | connected =>
          cases connecting
          exact .inr ⟨rfl, .inr rfl⟩
      | abandoned => exact .inl ⟨rfl, rfl, rfl⟩
      | flagsRead | synSeen | extracted | created | registered | buildFailed | built | synAckWritten
      | readerStarted | found | nothingToWrite | written | writeInterrupted | writeFailed | removed
      | nothingToRemove | closed => cases connecting
  | reader stepped => cases stepped <;> cases connecting

theorem HoldStep.opens {forwarder : Forwarder} {key : String} {hold next : Hold} {effect : Effect}
    {socket : Nat} (stepped : HoldStep forwarder key hold effect next)
    (opening : next = .connecting socket ∨ next = .registering socket) (index : Nat)
    (call : ForwardCall) :
    hold = .connecting socket ∧
        (forwarder.perform index call effect).isClosed socket = forwarder.isClosed socket ∨
      (forwarder.perform index call effect).isClosed socket = false := by
  cases stepped with
  | unheld | abandoned | registered | removed | closed => rcases opening with next | next <;> cases next
  | opened =>
      rcases opening with next | next <;> cases next
      refine .inr ?_
      simp [Forwarder.isClosed, perform]
  | prepared =>
      rcases opening with next | next <;> cases next
      exact .inl ⟨rfl, rfl⟩
  | connected =>
      rcases opening with next | next <;> cases next
      exact .inl ⟨rfl, isClosed_connect forwarder index _ call _⟩

theorem heldBy_of_opening {task : Task} {socket : Nat}
    (opening : holdOf task.job = .connecting socket ∨ holdOf task.job = .registering socket) :
    heldBy task = some socket := by
  rcases opening with connecting | registering
  · exact heldBy_of_hold connecting
  · exact heldBy_of_hold registering

theorem opening_step {forwarder next : Forwarder} {label : Label} {socket : Nat}
    (owned : Owned forwarder) (exclusive : Exclusive forwarder)
    (opened : ∀ socket, Opening forwarder socket → forwarder.isClosed socket = false)
    (taken : step pcpp forwarder label = some next) (opening : Opening next socket) :
    next.isClosed socket = false := by
  obtain ⟨member, inPool, atWork⟩ := opening
  cases step_forwarder taken with
  | overwritten | passedThrough | passThroughFailed | cleared => exact opened socket ⟨member, inPool, atWork⟩
  | launched held first =>
      rcases List.mem_append.mp inPool with old | single
      · exact opened socket ⟨member, old, atWork⟩
      · rw [List.mem_singleton.mp single, hold_of_first first] at atWork
        rcases atWork with none | none <;> cases none
  | closedAll =>
      refine closeAll_spares (opened socket ⟨member, inPool, atWork⟩) fun key connection filed same => ?_
      exact exclusive.entries member inPool key connection filed (same ▸ heldBy_of_opening atWork)
  | @resumed index task answer effect job located stepped =>
      have hold := stepped.hold (owned.tasks task (List.mem_of_getElem? located))
      obtain ⟨position, reached⟩ := List.mem_iff_getElem?.mp inPool
      rcases TaskPool.getElem?_advance_cases located reached with
        ⟨rfl, rfl⟩ | ⟨distinct, old⟩ | ⟨-, new⟩
      · rcases hold.opens atWork position task.call with ⟨before, same⟩ | fresh
        · exact same.trans (opened socket ⟨task, List.mem_of_getElem? located, .inl before⟩)
        · exact fresh
      · have before := opened socket ⟨member, List.mem_of_getElem? old, atWork⟩
        refine hold.isClosed before (fun handed => distinct ?_) index task.call
        exact exclusive.tasks _ _ member task _ old located (heldBy_of_opening atWork) handed
      · obtain ⟨connection, rfl⟩ := stepped.launched member (List.mem_of_getElem? new)
        rcases atWork with none | none <;> cases none

theorem opening_open {labels : List Label} {final : Forwarder}
    (ran : Transition.run (step pcpp) initial labels = some final) {socket : Nat}
    (opening : Opening final socket) : final.isClosed socket = false := by
  refine Transition.run_induction (fun _ forwarder =>
    ∀ socket, Opening forwarder socket → forwarder.isClosed socket = false) ?_ ?_ ran socket opening
  · intro labels forwarder label next reached opened taken socket
    exact opening_step (owned_of_run reached) (exclusive_of_run reached) opened taken
  · rintro socket ⟨task, member, -⟩
    cases member

/-! What an abandoned attempt and a dropped entry leave open stays open. -/

theorem Abandons.loses {labels : List Label} {forwarder next : Forwarder} {label : Label}
    (reached : Transition.run (step pcpp) initial labels = some forwarder)
    (abandons : Abandons key forwarder label) (taken : step pcpp forwarder label = some next) :
    ∃ socket, forwarder.owner socket = some key ∧ Lost next socket := by
  have owned := owned_of_run reached
  have exclusive := exclusive_of_run reached
  cases step_forwarder taken with
  | overwritten | launched | passedThrough | passThroughFailed | closedAll | cleared =>
      exact abandons.elim
  | @resumed index task answer effect job located stepped =>
      obtain ⟨rfl, same, sameLocated, rfl, isConnecting⟩ := abandons
      obtain rfl := Option.mem_unique located sameLocated
      obtain ⟨socket, connecting⟩ := Hold.isConnecting_iff.mp isConnecting
      have inPool := List.mem_of_getElem? located
      have held : heldBy task = some socket := heldBy_of_hold connecting
      rcases stepped.connecting connecting with ⟨-, rfl, free⟩ | ⟨returns, -⟩
      · refine ⟨socket, (owned.tasks task inPool).held held,
          opening_open reached ⟨task, inPool, .inl connecting⟩, ?_, ?_⟩
        · intro member inAfter holds
          obtain ⟨position, found⟩ := List.mem_iff_getElem?.mp inAfter
          rcases TaskPool.getElem?_advance_cases located found with
            ⟨-, rfl⟩ | ⟨distinct, old⟩ | ⟨-, new⟩
          · rw [heldBy_of_hold free] at holds
            cases holds
          · exact distinct (exclusive.tasks _ _ member task _ old located holds held)
          · cases new
        · exact fun filed connection entry same =>
            exclusive.entries task inPool filed connection entry (same ▸ held)
      · cases returns

theorem lost_of_run {labels : List Label} {final : Forwarder}
    (ran : Transition.run (step pcpp) initial labels = some final)
    (occurs : Transition.Occurs (step pcpp)
      (fun forwarder label => Abandons key forwarder label ∨ DropsEntry key forwarder label)
      initial labels) :
    ∃ socket, final.owner socket = some key ∧ Lost final socket := by
  refine Transition.run_induction (fun labels forwarder => Transition.Occurs (step pcpp)
    (fun forwarder label => Abandons key forwarder label ∨ DropsEntry key forwarder label)
    initial labels → ∃ socket, forwarder.owner socket = some key ∧ Lost forwarder socket)
    ?_ nofun ran occurs
  intro labels forwarder label next reached lost taken occurs
  have owned := owned_of_run reached
  have kept := step_keepsOwners taken
  rcases (Transition.occurs_append_singleton reached).mp occurs with before | abandons | drops
  · obtain ⟨socket, own, out⟩ := lost before
    exact ⟨socket, kept _ _ own, out.step owned taken⟩
  · obtain ⟨socket, own, out⟩ := abandons.loses reached taken
    exact ⟨socket, kept _ _ own, out⟩
  · obtain ⟨connection, located, out⟩ := drops.loses owned (exclusive_of_run reached) taken
    exact ⟨connection.socket, kept _ _ (owned.connections key connection located).1, out⟩

/-! Without these two every open socket of the flow is in somebody's hands. -/

theorem Opening.step {forwarder next : Forwarder} {label : Label} {socket : Nat}
    (opening : Opening forwarder socket) (owned : Owned forwarder)
    (notAbandoned : ∀ key, forwarder.owner socket = some key → ¬ Abandons key forwarder label)
    (taken : Forwarder.step pcpp forwarder label = some next) :
    Opening next socket ∨ Filed next socket := by
  obtain ⟨member, inPool, atWork⟩ := opening
  have own := (owned.tasks member inPool).held (heldBy_of_opening atWork)
  have stepped := step_forwarder taken
  cases stepped with
  | overwritten | passedThrough | passThroughFailed | closedAll | cleared =>
      exact .inl ⟨member, inPool, atWork⟩
  | launched => exact .inl ⟨member, List.mem_append_left _ inPool, atWork⟩
  | @resumed index task answer effect job located stepped =>
      obtain ⟨position, found⟩ := List.mem_iff_getElem?.mp inPool
      by_cases same : position = index
      · subst same
        rw [located, Option.some.injEq] at found
        subst found
        rcases atWork with connecting | registering
        · rcases stepped.connecting connecting with ⟨rfl, -⟩ | ⟨-, goesOn⟩
          · exact absurd ⟨rfl, task, located, rfl, Hold.isConnecting_iff.mpr ⟨socket, connecting⟩⟩
              (notAbandoned _ own)
          · exact .inl ⟨_, List.mem_of_getElem? (TaskPool.getElem?_advance_self located), goesOn⟩
        · have registers : Registers socket forwarder (.task position answer) :=
            ⟨task, located, registering⟩
          exact .inr (registers.filed owned taken)
      · have within := (List.getElem?_eq_some_iff.mp found).1
        refine .inl ⟨member, List.mem_of_getElem? (i := position) ?_, atWork⟩
        rw [Forwarder.resume, TaskPool.getElem?_advance_other same within]
        exact found

theorem HoldStep.created {forwarder : Forwarder} {key : String} {hold next : Hold}
    (stepped : HoldStep forwarder key hold .newSocket next) :
    next = .connecting forwarder.sockets.length := by
  cases stepped with
  | unheld quiet => exact quiet.elim
  | opened => rfl

/-- A socket that a step brings into being is in the hands of its coroutine. -/
theorem opening_of_new {forwarder next : Forwarder} {label : Label} {socket : Nat}
    (owned : Owned forwarder) (taken : step pcpp forwarder label = some next)
    (beyond : forwarder.sockets.length ≤ socket) (within : socket < next.sockets.length) :
    Opening next socket := by
  cases step_forwarder taken with
  | overwritten | launched | passedThrough | passThroughFailed | cleared =>
      exact absurd within (Nat.not_lt.mpr beyond)
  | closedAll =>
      have same : forwarder.closeAll.sockets.length = forwarder.sockets.length :=
        closeAll_preserves (fun sockets => sockets.length = forwarder.sockets.length) rfl
          fun sockets length _ _ => (List.length_modify ..).trans length
      omega
  | @resumed index task answer effect job located stepped =>
      have hold := stepped.hold (owned.tasks task (List.mem_of_getElem? located))
      change socket < (forwarder.perform index task.call effect).sockets.length at within
      cases effect with
      | newSocket =>
          rw [perform, List.length_append, List.length_singleton] at within
          have same : socket = forwarder.sockets.length := by omega
          subst same
          exact ⟨_, List.mem_of_getElem? (TaskPool.getElem?_advance_self located), .inl hold.created⟩
      | connect | close =>
          simp only [perform, closeSocket, List.length_modify] at within
          omega
      | none | newDatagramSocket | closeDatagramSocket | register | remove | output | launch =>
          exact absurd within (Nat.not_lt.mpr beyond)

theorem inHand_of_run {labels : List Label} {final : Forwarder}
    (ran : Transition.run (step pcpp) initial labels = some final)
    (attempts : ¬ Transition.Occurs (step pcpp) (Abandons key) initial labels)
    (entries : ¬ Transition.Occurs (step pcpp) (DropsEntry key) initial labels) {socket : Nat}
    (own : final.owner socket = some key) (opened : final.isClosed socket = false) :
    (Filed final socket ∨ CloseFollows final socket) ∨ Opening final socket := by
  refine Transition.run_induction (fun labels forwarder =>
    ¬ Transition.Occurs (step pcpp) (Abandons key) initial labels →
      ¬ Transition.Occurs (step pcpp) (DropsEntry key) initial labels →
        forwarder.owner socket = some key → forwarder.isClosed socket = false →
          (Filed forwarder socket ∨ CloseFollows forwarder socket) ∨ Opening forwarder socket)
    ?_ (fun _ _ none => by cases none) ran attempts entries own opened
  intro labels forwarder label next reached inHand taken attempts entries own opened
  have owned := owned_of_run reached
  rw [Transition.occurs_append_singleton reached, not_or] at attempts entries
  by_cases existed : socket < forwarder.sockets.length
  · obtain ⟨other, before⟩ : ∃ other, forwarder.owner socket = some other := by
      rw [owner, List.getElem?_eq_getElem existed]
      exact ⟨_, rfl⟩
    have same := step_keepsOwners taken socket other before
    rw [own, Option.some.injEq] at same
    subst same
    have openBefore : forwarder.isClosed socket = false := by
      by_contra closed
      rw [isClosed_step before taken ((Bool.not_eq_false _).mp closed)] at opened
      cases opened
    have onlyKey {other : String} (ownedBy : forwarder.owner socket = some other) : other = key :=
      Option.some.inj (ownedBy.symm.trans before)
    rcases inHand attempts.1 entries.1 before openBefore with filedOrClosing | opening
    · exact .inl (filed_or_closing_step owned (fun _ ownedBy => onlyKey ownedBy ▸ entries.2) taken
        openBefore opened filedOrClosing)
    · rcases opening.step owned (fun _ ownedBy => onlyKey ownedBy ▸ attempts.2) taken with
        goesOn | filed
      · exact .inr goesOn
      · exact .inl (.inl filed)
  · exact .inr (opening_of_new owned taken (Nat.le_of_not_lt existed) (owner_lt own))

theorem entry_step {forwarder next : Forwarder} {label : Label} (owned : Owned forwarder)
    (taken : step pcpp forwarder label = some next) :
    (next.tcpConnections.lookup key).isSome ↔ RegistersEntry key forwarder label ∨
      (forwarder.tcpConnections.lookup key).isSome ∧ ¬ RemovesEntry key forwarder label := by
  cases step_forwarder taken with
  | overwritten | launched | passedThrough | passThroughFailed | closedAll =>
      simp [RegistersEntry, RemovesEntry, launch, closeAll]
  | cleared => simp [RegistersEntry, RemovesEntry]
  | @resumed index task answer effect job located stepped =>
      have owns := owned.tasks task (List.mem_of_getElem? located)
      simp only [RegistersEntry, RemovesEntry, located, Option.mem_def, Option.some.injEq,
        exists_eq_left']
      by_cases ofFlow : task.call.key = key
      · subst ofFlow
        simp only [true_and]
        exact stepped.entry owns index
      · have lookup := perform_lookup (stepped.owns owned owns index).1 ofFlow index
        simp only [ofFlow, false_and, not_false_eq_true, and_true, false_or]
        exact Iff.of_eq (congrArg (fun entry => entry.isSome = true) lookup)

theorem closes_iff {job : Job} {socket : Nat} :
    holdOf job = .closing socket ↔ ∃ connection, closes job = some connection ∧ connection.socket = socket := by
  cases job with
  | udp stage => simp [holdOf, closes]
  | tcp stage => cases stage <;> simp [holdOf, closes]
  | reader connection stage => cases stage <;> simp [holdOf, closes]

theorem Finished.not_opening {final : Forwarder} (finished : Finished key final) (owned : Owned final)
    {socket : Nat} (own : final.owner socket = some key) : ¬ Opening final socket := by
  rintro ⟨⟨call, job⟩, member, atWork⟩
  have ofFlow := (owned.tasks _ member).held (heldBy_of_opening atWork)
  rw [own, Option.some.injEq] at ofFlow
  cases job with
  | udp stage => rcases atWork with none | none <;> cases none
  | tcp stage =>
      cases finished _ member ofFlow.symm stage rfl
      rcases atWork with none | none <;> cases none
  | reader connection stage => cases stage <;> rcases atWork with none | none <;> cases none

private theorem absent_iff {labels : List Label} {final : Forwarder}
    (ran : Transition.run (step pcpp) initial labels = some final) :
    final.tcpConnections.lookup key = none ↔
      Transition.Followed (step pcpp) (RegistersEntry key) (RemovesEntry key) initial labels := by
  rw [← Transition.not_flag_iff_followed Owned
    (fun forwarder => (forwarder.tcpConnections.lookup key).isSome)
    (fun _ _ _ owned taken => owned.step taken) (fun _ _ _ owned taken => entry_step owned taken)
    owned_initial nofun ran]
  exact Option.not_isSome_iff_eq_none.symm

theorem LetsGo.released {labels : List Label} {final : Forwarder} (letsGo : LetsGo pcpp key labels final)
    (ran : Transition.run (step pcpp) initial labels = some final) (finished : Finished key final) :
    Released key final := by
  have owned := owned_of_run ran
  have absent := (absent_iff ran).mpr letsGo.removed
  refine ⟨absent, fun socket own => ?_⟩
  by_contra opened
  rw [Bool.not_eq_true] at opened
  rcases inHand_of_run ran letsGo.attempts letsGo.entries own opened with
    (filed | ⟨task, member, closing⟩) | opening
  · obtain ⟨other, connection, sameOwner, entry, -⟩ := filed
    rw [own, Option.some.injEq] at sameOwner
    subst sameOwner
    rw [absent] at entry
    cases entry
  · have ofFlow := (owned.tasks task member).held (heldBy_of_hold closing)
    rw [own, Option.some.injEq] at ofFlow
    obtain ⟨connection, closes, rfl⟩ := closes_iff.mp closing
    exact nomatch opened.symm.trans (letsGo.closed task member ofFlow.symm connection closes)
  · exact finished.not_opening owned own opening

theorem Released.letsGo {labels : List Label} {final : Forwarder} (released : Released key final)
    (ran : Transition.run (step pcpp) initial labels = some final) : LetsGo pcpp key labels final := by
  have noneLost : ¬ Transition.Occurs (step pcpp)
      (fun forwarder label => Abandons key forwarder label ∨ DropsEntry key forwarder label)
      initial labels := by
    intro occurs
    obtain ⟨socket, own, lost⟩ := lost_of_run ran occurs
    exact nomatch lost.opened.symm.trans (released.closed socket own)
  refine ⟨fun occurs => noneLost (occurs.mono fun _ _ => .inl),
    fun occurs => noneLost (occurs.mono fun _ _ => .inr), (absent_iff ran).mp released.absent, ?_⟩
  rintro task member rfl connection closes
  have held : heldBy task = some connection.socket := heldBy_of_hold (closes_iff.mpr ⟨_, closes, rfl⟩)
  exact released.closed _ (((owned_of_run ran).tasks task member).held held)

/-- Once the coroutines of a flow whose last packet ends it have finished, nothing
is left of the flow exactly if each of its sockets was let go in turn. -/
theorem released_iff {labels : List Label} {final : Forwarder}
    (ran : Transition.run (step pcpp) initial labels = some final) (finished : Finished key final) :
    (LastPacketEnds pcpp key labels → Released key final) ↔
      (LastPacketEnds pcpp key labels → LetsGo pcpp key labels final) :=
  imp_congr_right fun _ => ⟨fun released => released.letsGo ran, fun letsGo => letsGo.released ran finished⟩

/-- Whether the coroutine of a TCP packet has finished; others do not count. -/
def hasFinished (task : Task) : Bool :=
  match task.job with
  | .tcp stage => stage = .done
  | .udp _ | .reader _ _ => true

theorem finished_of_all {forwarder : Forwarder} (all : forwarder.tasks.all hasFinished) :
    Finished key forwarder := by
  rintro ⟨call, job⟩ member - stage rfl
  simpa [hasFinished] using List.all_eq_true.mp all _ member

theorem lastPacketEnds_of_tasks (before : List Label) (call : ForwardCall) (after : List Label)
    (tcp : call.traffic.protocolByte = .tcp) (ofFlow : call.key = key)
    (ends : endsConnection (getTcpFlags pcpp call.packet call.length))
    (tasks : ∀ label ∈ after, ∃ index answer, label = .task index answer) :
    LastPacketEnds pcpp key (before ++ .forwardPacket call .returns :: after) := by
  refine ⟨before, call, after, rfl, tcp, ofFlow, ends, fun later answer member => ?_⟩
  obtain ⟨index, other, same⟩ := tasks _ member
  cases same

private theorem appCloses_ends : LastPacketEnds .headerRules webKey appCloses :=
  lastPacketEnds_of_tasks (handshake 0 ++ [.overwrite finPacket.bytes]) (callOf finPacket.bytes)
    (List.replicate 5 (.task 2 .returns) ++ List.replicate 2 (.task 1 .returns))
    (by decide +kernel) (by decide +kernel) (by decide +kernel) (by simp)

theorem appCloses_released :
    ∃ final, Transition.run (step .headerRules) initial appCloses = some final ∧
      Released webKey final := by
  have observed : (Transition.run (step .headerRules) initial appCloses).map (fun final =>
      (final.tasks.all hasFinished, final.tasks.all fun task => (closes task.job).isNone)) =
        some (true, true) := by
    decide +kernel
  obtain ⟨final, ran, seen⟩ := Option.map_eq_some_iff.mp observed
  obtain ⟨finished, closed⟩ := Prod.mk.inj seen
  refine ⟨final, ran, (released_iff ran (finished_of_all finished)).mpr (fun _ => ?_) ?_⟩
  · refine ⟨by decide +kernel, by decide +kernel, by decide +kernel, ?_⟩
    intro task member _ connection closing
    have none := List.all_eq_true.mp closed task member
    rw [closing] at none
    cases none
  · exact appCloses_ends

/-- The application sends its SYN twice; each opens a socket, and the second takes
the place of the first in the map. The FIN closes what it finds there. -/
theorem second_syn_leaves_socket :
    ¬ ∀ (pcpp : PcapPlusPlus) (key : String) (labels : List Label) (final : Forwarder),
      Transition.run (step pcpp) initial labels = some final → Finished key final →
      LastPacketEnds pcpp key labels → Released key final := by
  intro releases
  have observed : (Transition.run (step .headerRules) initial
      (handshake 0 ++ synAgain 0 ++ arrival finPacket ++ List.replicate 5 (.task 4 .returns))).map
        (fun final => (final.tasks.all hasFinished, final.owner 0, final.isClosed 0)) =
          some (true, some webKey, false) := by
    decide +kernel
  obtain ⟨final, ran, seen⟩ := Option.map_eq_some_iff.mp observed
  simp only [Prod.mk.injEq] at seen
  obtain ⟨finished, own, opened⟩ := seen
  have ends : LastPacketEnds .headerRules webKey
      (handshake 0 ++ synAgain 0 ++ arrival finPacket ++ List.replicate 5 (.task 4 .returns)) :=
    lastPacketEnds_of_tasks (handshake 0 ++ synAgain 0 ++ [.overwrite finPacket.bytes])
      (callOf finPacket.bytes) (List.replicate 5 (.task 4 .returns))
      (by decide +kernel) (by decide +kernel) (by decide +kernel) (by simp)
  have closed := (releases .headerRules webKey _ final ran (finished_of_all finished) ends).closed 0 own
  exact nomatch opened.symm.trans closed

end Forwarder

end FirewallVpn
