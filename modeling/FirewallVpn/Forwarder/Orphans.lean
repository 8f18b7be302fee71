import FirewallVpn.Forwarder.Addressing
import FirewallVpn.Forwarder.Holders

/-! The sockets that were ever registered. Each of them can be found under the key of its
flow until it is closed, unless an entry is overwritten or cleared while its socket is
open: such a socket stays open, and its reader at work, for good. -/

set_option autoImplicit false

namespace FirewallVpn

namespace Forwarder

variable {pcpp : PcapPlusPlus}

/-- The step files this socket, which is connected by then. -/
def Registers (socket : Nat) (forwarder : Forwarder) : Label → Prop
  | .task index _ => ∃ task ∈ forwarder.tasks[index]?, holdOf task.job = .registering socket
  | .overwrite _ | .forwardPacket _ _ | .cleanup | .clear => False

/-- The step takes an entry whose socket is open out of the map without closing it. -/
def DropsOpen (forwarder : Forwarder) : Label → Prop
  | .task index _ => ∃ task ∈ forwarder.tasks[index]?, (holdOf task.job).isRegistering ∧
      ∃ replaced ∈ forwarder.tcpConnections.lookup task.call.key,
        forwarder.isClosed replaced.socket = false
  | .clear => ∃ entry ∈ forwarder.tcpConnections.entries,
      forwarder.isClosed entry.snd.socket = false
  | .overwrite _ | .forwardPacket _ _ | .cleanup => False

/-- The step takes the entry of this key out of the map, without closing its socket,
which is open. -/
def DropsEntry (key : String) (forwarder : Forwarder) : Label → Prop
  | .task index _ => ∃ task ∈ forwarder.tasks[index]?, task.call.key = key ∧
      (holdOf task.job).isRegistering ∧ ∃ replaced ∈ forwarder.tcpConnections.lookup key,
        forwarder.isClosed replaced.socket = false
  | .clear => ∃ connection ∈ forwarder.tcpConnections.lookup key,
      forwarder.isClosed connection.socket = false
  | .overwrite _ | .forwardPacket _ _ | .cleanup => False

theorem dropsOpen_iff {forwarder : Forwarder} {label : Label} :
    DropsOpen forwarder label ↔ ∃ key, DropsEntry key forwarder label := by
  cases label with
  | overwrite | forwardPacket | cleanup => simp [DropsOpen, DropsEntry]
  | task index answer =>
      constructor
      · rintro ⟨task, located, registering, replaced⟩
        exact ⟨task.call.key, task, located, rfl, registering, replaced⟩
      · rintro ⟨key, task, located, rfl, registering, replaced⟩
        exact ⟨task, located, registering, replaced⟩
  | clear =>
      constructor
      · rintro ⟨entry, member, opened⟩
        exact ⟨entry.fst, entry.snd, AList.mem_lookup_iff.mpr member, opened⟩
      · rintro ⟨key, connection, located, opened⟩
        exact ⟨⟨key, connection⟩, AList.mem_lookup_iff.mp located, opened⟩

instance (socket : Nat) (forwarder : Forwarder) : ∀ label, Decidable (Registers socket forwarder label)
  | .task _ _ => inferInstanceAs (Decidable (∃ task ∈ _, _))
  | .overwrite _ | .forwardPacket _ _ | .cleanup | .clear => .isFalse id

instance (forwarder : Forwarder) : ∀ label, Decidable (DropsOpen forwarder label)
  | .task _ _ => inferInstanceAs (Decidable (∃ task ∈ _, _ ∧ _))
  | .clear => inferInstanceAs (Decidable (∃ entry ∈ _, _))
  | .overwrite _ | .forwardPacket _ _ | .cleanup => .isFalse id

instance (key : String) (forwarder : Forwarder) : ∀ label, Decidable (DropsEntry key forwarder label)
  | .task _ _ => inferInstanceAs (Decidable (∃ task ∈ _, _ ∧ _ ∧ _))
  | .clear => inferInstanceAs (Decidable (∃ connection ∈ _, _))
  | .overwrite _ | .forwardPacket _ _ | .cleanup => .isFalse id

/-- `handleTcpSyn` has connected and registered the socket in a run with these labels. -/
def EverRegistered (pcpp : PcapPlusPlus) (labels : List Label) (socket : Nat) : Prop :=
  Transition.Occurs (step pcpp) (Registers socket) initial labels

/-- The entry of the flow that the socket was opened for has this socket. -/
def Filed (forwarder : Forwarder) (socket : Nat) : Prop :=
  ∃ key connection, forwarder.owner socket = some key ∧
    forwarder.tcpConnections.lookup key = some connection ∧ connection.socket = socket

/-- `cleanupTcpConnection` has removed the socket's entry and goes on to close it. -/
def CloseFollows (forwarder : Forwarder) (socket : Nat) : Prop :=
  ∃ task ∈ forwarder.tasks, holdOf task.job = .closing socket

theorem EverRegistered.earlier {labels : List Label} {forwarder : Forwarder} {socket : Nat}
    (reached : Transition.run (step pcpp) initial labels = some forwarder)
    (registered : EverRegistered pcpp labels socket) (label : Label) :
    EverRegistered pcpp (labels ++ [label]) socket :=
  (Transition.occurs_append_singleton reached).mpr (.inl registered)

/-! Where the sockets of the map come from. -/

theorem HoldStep.closing_from_entry {forwarder : Forwarder} {key : String} {hold : Hold}
    {effect : Effect} {socket : Nat}
    (stepped : HoldStep forwarder key hold effect (.closing socket)) :
    ∃ connection, forwarder.tcpConnections.lookup key = some connection ∧
      connection.socket = socket := by
  cases stepped with
  | @removed connection located => exact ⟨connection, located, rfl⟩

theorem CloseFollows.origin {forwarder : Forwarder} {index : Nat} {task : Task} {answer : Answer}
    {effect : Effect} {job : Job} (owned : Owned forwarder)
    (located : forwarder.tasks[index]? = some task)
    (stepped : JobStep pcpp forwarder task.call task.job answer effect job) {socket : Nat}
    (follows : CloseFollows (forwarder.resume task.call index effect job) socket) :
    CloseFollows forwarder socket ∨ ∃ connection,
      forwarder.tcpConnections.lookup task.call.key = some connection ∧
        connection.socket = socket := by
  have hold := stepped.hold (owned.tasks task (List.mem_of_getElem? located))
  obtain ⟨member, inAfter, closing⟩ := follows
  rcases TaskPool.mem_advance inAfter with old | rfl | new
  · exact .inl ⟨member, old, closing⟩
  · rw [closing] at hold
    exact .inr hold.closing_from_entry
  · obtain ⟨connection, rfl⟩ := stepped.launched member new
    cases closing

theorem Owned.filed {forwarder : Forwarder} (owned : Owned forwarder) {key : String}
    {connection : TcpConnection} (located : forwarder.tcpConnections.lookup key = some connection) :
    Filed forwarder connection.socket :=
  ⟨key, connection, (owned.connections key connection located).1, located, rfl⟩

theorem registers_or_before {forwarder next : Forwarder} {label : Label} {socket : Nat}
    (owned : Owned forwarder) (taken : step pcpp forwarder label = some next)
    (after : Filed next socket ∨ CloseFollows next socket) :
    (Filed forwarder socket ∨ CloseFollows forwarder socket) ∨ Registers socket forwarder label := by
  cases step_forwarder taken with
  | overwritten | passedThrough | passThroughFailed => exact .inl after
  | launched held first =>
      rcases after with filed | ⟨task, member, closing⟩
      · exact .inl (.inl filed)
      · rcases List.mem_append.mp member with old | single
        · exact .inl (.inr ⟨task, old, closing⟩)
        · rw [List.mem_singleton.mp single, hold_of_first first] at closing
          cases closing
  | resumed located stepped =>
      have hold := stepped.hold (owned.tasks _ (List.mem_of_getElem? located))
      rcases after with ⟨key, connection, -, filed, rfl⟩ | follows
      · rcases hold.files filed with ⟨before, -⟩ | ⟨registering, -⟩
        · exact .inl (.inl (owned.filed before))
        · exact .inr ⟨_, located, registering⟩
      · rcases follows.origin owned located stepped with before | ⟨connection, entry, rfl⟩
        · exact .inl (.inr before)
        · exact .inl (.inl (owned.filed entry))
  | closedAll =>
      rcases after with ⟨key, connection, -, filed, rfl⟩ | follows
      · exact .inl (.inl (owned.filed filed))
      · exact .inl (.inr follows)
  | cleared =>
      rcases after with ⟨key, connection, -, filed, rfl⟩ | follows
      · cases filed
      · exact .inl (.inr follows)

theorem everRegistered_of_run {labels : List Label} {final : Forwarder} {socket : Nat}
    (ran : Transition.run (step pcpp) initial labels = some final)
    (inHand : Filed final socket ∨ CloseFollows final socket) :
    EverRegistered pcpp labels socket := by
  refine Transition.run_induction (fun labels forwarder =>
    Filed forwarder socket ∨ CloseFollows forwarder socket → EverRegistered pcpp labels socket)
    ?_ ?_ ran inHand
  · intro labels forwarder label next reached kept taken after
    rcases registers_or_before (owned_of_run reached) taken after with before | now
    · exact (kept before).earlier reached label
    · exact (Transition.occurs_append_singleton reached).mpr (.inr now)
  · rintro (⟨_, _, _, filed, -⟩ | ⟨task, member, -⟩)
    · cases filed
    · cases member

theorem EverRegistered.owner {labels : List Label} {final : Forwarder} {socket : Nat}
    (registered : EverRegistered pcpp labels socket)
    (ran : Transition.run (step pcpp) initial labels = some final) :
    ∃ key, final.owner socket = some key := by
  refine Transition.run_induction (fun labels forwarder =>
    EverRegistered pcpp labels socket → ∃ key, forwarder.owner socket = some key) ?_ nofun ran
    registered
  intro labels forwarder label next reached known taken registered
  have kept := step_keepsOwners taken
  rcases (Transition.occurs_append_singleton reached).mp registered with before | now
  · obtain ⟨key, owned⟩ := known before
    exact ⟨key, kept socket key owned⟩
  · cases label with
    | task index answer =>
        obtain ⟨task, located, registering⟩ := now
        have held : heldBy task = some socket := heldBy_of_hold registering
        have owns := (owned_of_run reached).tasks task (List.mem_of_getElem? located)
        exact ⟨task.call.key, kept socket _ (owns.held held)⟩
    | overwrite | forwardPacket | cleanup | clear => exact now.elim

/-! An entry that is dropped leaves its socket to nobody. -/

theorem HoldStep.not_remove {forwarder : Forwarder} {key : String} {hold next : Hold}
    {effect : Effect} (stepped : HoldStep forwarder key hold effect next)
    (registering : hold.isRegistering) : effect ≠ .remove key := by
  cases stepped with
  | registered => exact nofun
  | unheld | opened | prepared | connected | abandoned | removed | closed => cases registering

theorem DropsEntry.loses {forwarder next : Forwarder} {label : Label} {key : String}
    (drops : DropsEntry key forwarder label) (owned : Owned forwarder) (exclusive : Exclusive forwarder)
    (taken : step pcpp forwarder label = some next) :
    ∃ connection, forwarder.tcpConnections.lookup key = some connection ∧
      Lost next connection.socket := by
  cases step_forwarder taken with
  | overwritten | launched | passedThrough | passThroughFailed | closedAll => exact drops.elim
  | cleared =>
      obtain ⟨connection, located, opened⟩ := drops
      exact ⟨connection, located, opened,
        fun task inPool => exclusive.entries task inPool _ _ located, fun _ _ left => (by cases left)⟩
  | @resumed index task answer effect job located stepped =>
      obtain ⟨same, sameLocated, rfl, registering, replaced, filed, opened⟩ := drops
      obtain rfl := Option.mem_unique located sameLocated
      have inPool := List.mem_of_getElem? located
      have hold := stepped.hold (owned.tasks task inPool)
      have unheld := exclusive.entries task inPool _ _ filed
      refine ⟨replaced, filed, hold.isClosed opened unheld index task.call, ?_, ?_⟩
      · refine unheld_resume owned located stepped (lt_of_open opened) ?_ ?_
        · exact fun member old => exclusive.entries member old _ _ filed
        · exact fun _ _ _ => hold.not_remove registering
      · intro key connection after same
        rcases hold.files after with ⟨before, untouched⟩ | ⟨handed, -⟩
        · have own := (owned.connections key connection before).1
          rw [same, (owned.connections _ replaced filed).1, Option.some.injEq] at own
          rw [(untouched own.symm).1] at registering
          cases registering
        · rw [heldBy_of_hold handed, ← same] at unheld
          exact unheld rfl

/-- A socket whose entry was dropped while it was open is out of reach ever after. -/
theorem lost_of_dropped {labels : List Label} {final : Forwarder}
    (ran : Transition.run (step pcpp) initial labels = some final)
    (dropped : Transition.Occurs (step pcpp) DropsOpen initial labels) :
    ∃ socket, EverRegistered pcpp labels socket ∧ Lost final socket := by
  refine Transition.run_induction (fun labels forwarder =>
    Transition.Occurs (step pcpp) DropsOpen initial labels →
      ∃ socket, EverRegistered pcpp labels socket ∧ Lost forwarder socket) ?_ nofun ran dropped
  intro labels forwarder label next reached lost taken dropped
  have owned := owned_of_run reached
  rcases (Transition.occurs_append_singleton reached).mp dropped with before | now
  · obtain ⟨socket, registered, out⟩ := lost before
    exact ⟨socket, registered.earlier reached label, out.step owned taken⟩
  · obtain ⟨key, drops⟩ := dropsOpen_iff.mp now
    obtain ⟨connection, filed, out⟩ := drops.loses owned (exclusive_of_run reached) taken
    have registered := everRegistered_of_run reached (.inl (owned.filed filed))
    exact ⟨connection.socket, registered.earlier reached label, out⟩

/-! An entry that is not dropped is handed to the coroutine that closes its socket. -/

theorem HoldStep.keepsEntry {forwarder : Forwarder} {key filed : String} {hold next : Hold}
    {effect : Effect} {connection : TcpConnection}
    (stepped : HoldStep forwarder key hold effect next)
    (located : forwarder.tcpConnections.lookup filed = some connection) (index : Nat)
    (call : ForwardCall) :
    (forwarder.perform index call effect).tcpConnections.lookup filed = some connection ∨
      filed = key ∧ (hold.isRegistering ∨ next = .closing connection.socket) := by
  by_cases same : filed = key
  · subst same
    cases stepped with
    | unheld quiet =>
        rw [(perform_quiet quiet forwarder index call).1]
        exact .inl located
    | opened | prepared | connected | abandoned | closed => exact .inl located
    | registered => exact .inr ⟨rfl, .inl rfl⟩
    | removed found =>
        rw [located, Option.some.injEq] at found
        subst found
        exact .inr ⟨rfl, .inr rfl⟩
  · refine .inl ?_
    cases stepped with
    | unheld quiet =>
        rw [(perform_quiet quiet forwarder index call).1]
        exact located
    | opened | prepared | connected | abandoned | closed => exact located
    | registered =>
        rw [perform, AList.lookup_insert_ne same]
        exact located
    | removed =>
        rw [perform, AList.lookup_erase_ne same]
        exact located

theorem HoldStep.closes {forwarder : Forwarder} {key : String} {next : Hold} {effect : Effect}
    {socket : Nat} (stepped : HoldStep forwarder key (.closing socket) effect next) :
    effect = .close socket := by
  cases stepped
  rfl

theorem HoldStep.registers {forwarder : Forwarder} {key : String} {next : Hold} {effect : Effect}
    {socket : Nat} (stepped : HoldStep forwarder key (.registering socket) effect next) :
    effect = .register key (newTcpConnection socket key) := by
  cases stepped
  rfl

theorem isClosed_step {forwarder next : Forwarder} {label : Label} {socket : Nat} {key : String}
    (owned : forwarder.owner socket = some key)
    (taken : step pcpp forwarder label = some next) (closed : forwarder.isClosed socket) :
    next.isClosed socket := by
  cases step_forwarder taken with
  | overwritten | launched | passedThrough | passThroughFailed | cleared => exact closed
  | @resumed index task answer effect job => exact isClosed_perform owned index task.call effect closed
  | closedAll => exact isClosed_closeAll closed

theorem isClosed_of_close {forwarder : Forwarder} {socket : Nat} (index : Nat) (call : ForwardCall) :
    (forwarder.perform index call (.close socket)).isClosed socket :=
  closed_closeSocket forwarder.sockets socket

theorem Filed.resume {forwarder : Forwarder} {index socket : Nat} {task : Task} {answer : Answer}
    {effect : Effect} {job : Job} (filed : Filed forwarder socket) (owned : Owned forwarder)
    (located : forwarder.tasks[index]? = some task)
    (stepped : JobStep pcpp forwarder task.call task.job answer effect job)
    (notDropped : ∀ key, forwarder.owner socket = some key →
      ¬ DropsEntry key forwarder (.task index answer))
    (opened : forwarder.isClosed socket = false) :
    Filed (forwarder.resume task.call index effect job) socket ∨
      CloseFollows (forwarder.resume task.call index effect job) socket := by
  obtain ⟨key, connection, own, entry, rfl⟩ := filed
  have hold := stepped.hold (owned.tasks task (List.mem_of_getElem? located))
  have ownAfter := perform_keepsOwners forwarder index task.call effect _ key own
  rcases hold.keepsEntry entry index task.call with stays | ⟨rfl, registering | closing⟩
  · exact .inl ⟨key, connection, ownAfter, stays, rfl⟩
  · exact absurd ⟨task, located, rfl, registering, connection, entry, opened⟩ (notDropped _ own)
  · have moved : ⟨task.call, job⟩ ∈ (forwarder.resume task.call index effect job).tasks :=
      List.mem_of_getElem? (TaskPool.getElem?_advance_self located)
    exact .inr ⟨_, moved, closing⟩

theorem CloseFollows.stays {forwarder : Forwarder} {index socket : Nat} {task : Task}
    {answer : Answer} {effect : Effect} {job : Job} (follows : CloseFollows forwarder socket)
    (owned : Owned forwarder) (located : forwarder.tasks[index]? = some task)
    (stepped : JobStep pcpp forwarder task.call task.job answer effect job)
    (opened : (forwarder.resume task.call index effect job).isClosed socket = false) :
    CloseFollows (forwarder.resume task.call index effect job) socket := by
  obtain ⟨member, inPool, closing⟩ := follows
  obtain ⟨position, found⟩ := List.mem_iff_getElem?.mp inPool
  by_cases same : position = index
  · subst same
    rw [located, Option.some.injEq] at found
    subst found
    have hold := stepped.hold (owned.tasks task inPool)
    rw [closing] at hold
    have closed : (forwarder.resume task.call position effect job).isClosed socket = true := by
      rw [hold.closes]
      exact isClosed_of_close position task.call
    rw [opened] at closed
    cases closed
  · have within := (List.getElem?_eq_some_iff.mp found).1
    refine ⟨member, List.mem_of_getElem? (i := position) ?_, closing⟩
    rw [Forwarder.resume, TaskPool.getElem?_advance_other same within]
    exact found

theorem Registers.filed {forwarder next : Forwarder} {label : Label} {socket : Nat}
    (registers : Registers socket forwarder label) (owned : Owned forwarder)
    (taken : step pcpp forwarder label = some next) : Filed next socket := by
  have kept := step_keepsOwners taken
  cases step_forwarder taken with
  | overwritten | launched | passedThrough | passThroughFailed | closedAll | cleared =>
      exact registers.elim
  | @resumed index task answer effect job located stepped =>
      obtain ⟨same, sameLocated, registering⟩ := registers
      obtain rfl := Option.mem_unique located sameLocated
      have owns := owned.tasks task (List.mem_of_getElem? located)
      have held : heldBy task = some socket := heldBy_of_hold registering
      have hold := stepped.hold owns
      rw [registering] at hold
      refine ⟨task.call.key, newTcpConnection socket task.call.key, kept _ _ (owns.held held), ?_, rfl⟩
      rw [hold.registers]
      exact AList.lookup_insert _

theorem CloseFollows.step {forwarder next : Forwarder} {label : Label} {socket : Nat}
    (follows : CloseFollows forwarder socket) (owned : Owned forwarder)
    (taken : Forwarder.step pcpp forwarder label = some next)
    (opened : next.isClosed socket = false) : CloseFollows next socket := by
  cases step_forwarder taken with
  | overwritten | passedThrough | passThroughFailed | closedAll | cleared => exact follows
  | launched =>
      obtain ⟨task, member, closing⟩ := follows
      exact ⟨task, List.mem_append_left _ member, closing⟩
  | resumed located stepped => exact follows.stays owned located stepped opened

theorem Filed.step {forwarder next : Forwarder} {label : Label} {socket : Nat}
    (filed : Filed forwarder socket) (owned : Owned forwarder)
    (notDropped : ∀ key, forwarder.owner socket = some key → ¬ DropsEntry key forwarder label)
    (taken : Forwarder.step pcpp forwarder label = some next)
    (opened : forwarder.isClosed socket = false) : Filed next socket ∨ CloseFollows next socket := by
  have kept := step_keepsOwners taken
  cases step_forwarder taken with
  | overwritten | launched | passedThrough | passThroughFailed => exact .inl filed
  | resumed located stepped => exact filed.resume owned located stepped notDropped opened
  | closedAll =>
      obtain ⟨key, connection, own, entry, same⟩ := filed
      exact .inl ⟨key, connection, kept socket key own, entry, same⟩
  | cleared =>
      obtain ⟨key, connection, own, entry, rfl⟩ := filed
      exact absurd ⟨connection, entry, opened⟩ (notDropped key own)

theorem filed_or_closing_step {forwarder next : Forwarder} {label : Label} {socket : Nat}
    (owned : Owned forwarder)
    (notDropped : ∀ key, forwarder.owner socket = some key → ¬ DropsEntry key forwarder label)
    (taken : step pcpp forwarder label = some next) (opened : forwarder.isClosed socket = false)
    (openAfter : next.isClosed socket = false)
    (before : Filed forwarder socket ∨ CloseFollows forwarder socket) :
    Filed next socket ∨ CloseFollows next socket := by
  rcases before with filed | follows
  · exact filed.step owned notDropped taken opened
  · exact .inr (follows.step owned taken openAfter)

theorem filed_or_closing_of_run {labels : List Label} {final : Forwarder}
    (ran : Transition.run (step pcpp) initial labels = some final)
    (never : ¬ Transition.Occurs (step pcpp) DropsOpen initial labels) {socket : Nat}
    (registered : EverRegistered pcpp labels socket) (opened : final.isClosed socket = false) :
    Filed final socket ∨ CloseFollows final socket := by
  refine Transition.run_induction (fun labels forwarder =>
    ¬ Transition.Occurs (step pcpp) DropsOpen initial labels → EverRegistered pcpp labels socket →
      forwarder.isClosed socket = false → Filed forwarder socket ∨ CloseFollows forwarder socket)
    ?_ (fun _ registered => registered.elim) ran never registered opened
  intro labels forwarder label next reached within taken never registered opened
  have owned := owned_of_run reached
  rw [Transition.occurs_append_singleton reached, not_or] at never
  rcases (Transition.occurs_append_singleton reached).mp registered with before | now
  · obtain ⟨key, own⟩ := EverRegistered.owner before reached
    have openBefore : forwarder.isClosed socket = false := by
      by_contra closed
      rw [isClosed_step own taken ((Bool.not_eq_false _).mp closed)] at opened
      cases opened
    have notDropped (key : String) (_ : forwarder.owner socket = some key) :
        ¬ DropsEntry key forwarder label := fun drops => never.2 (dropsOpen_iff.mpr ⟨key, drops⟩)
    exact filed_or_closing_step owned notDropped taken openBefore opened (within never.1 before openBefore)
  · exact .inl (now.filed owned taken)

/-- Registered sockets that are open are found under the keys of their flows, at
most one for each flow. -/
structure AllFiled (pcpp : PcapPlusPlus) (labels : List Label) (final : Forwarder) : Prop where
  filed : ∀ socket, EverRegistered pcpp labels socket → final.isClosed socket = false →
    Filed final socket
  single : ∀ socket other key, EverRegistered pcpp labels socket → final.isClosed socket = false →
    EverRegistered pcpp labels other → final.isClosed other = false →
    final.owner socket = some key → final.owner other = some key → socket = other

theorem Filed.unique {forwarder : Forwarder} {socket other : Nat} {key : String}
    (filed : Filed forwarder socket) (otherFiled : Filed forwarder other)
    (own : forwarder.owner socket = some key) (otherOwn : forwarder.owner other = some key) :
    socket = other := by
  obtain ⟨_, connection, sameKey, entry, rfl⟩ := filed
  rw [own, Option.some.injEq] at sameKey
  subst sameKey
  obtain ⟨_, otherConnection, sameKey, otherEntry, rfl⟩ := otherFiled
  rw [otherOwn, Option.some.injEq] at sameKey
  subst sameKey
  rw [entry, Option.some.injEq] at otherEntry
  rw [otherEntry]

/-- Every open registered socket is its flow's only one and in the map exactly if
no open entry was ever dropped and no cleanup has yet to close what it removed. -/
theorem allFiled_iff {labels : List Label} {final : Forwarder}
    (ran : Transition.run (step pcpp) initial labels = some final) :
    AllFiled pcpp labels final ↔
      ¬ Transition.Occurs (step pcpp) DropsOpen initial labels ∧
        ∀ socket, CloseFollows final socket → final.isClosed socket := by
  constructor
  · rintro ⟨filed, -⟩
    refine ⟨fun dropped => ?_, fun socket follows => ?_⟩
    · obtain ⟨socket, registered, lost⟩ := lost_of_dropped ran dropped
      obtain ⟨key, connection, -, entry, same⟩ := filed socket registered lost.opened
      exact lost.unfiled key connection entry same
    · by_contra opened
      rw [Bool.not_eq_true] at opened
      have registered := everRegistered_of_run ran (.inr follows)
      obtain ⟨key, connection, -, entry, rfl⟩ := filed socket registered opened
      obtain ⟨task, member, closing⟩ := follows
      exact (exclusive_of_run ran).entries task member key connection entry (heldBy_of_hold closing)
  · rintro ⟨never, closed⟩
    have filed : ∀ socket, EverRegistered pcpp labels socket → final.isClosed socket = false →
        Filed final socket := by
      intro socket registered opened
      rcases filed_or_closing_of_run ran never registered opened with inMap | follows
      · exact inMap
      · rw [closed socket follows] at opened
        cases opened
    exact ⟨filed, fun socket other key registered opened otherRegistered otherOpened =>
      (filed socket registered opened).unique (filed other otherRegistered otherOpened)⟩

/-- The SYN of the handshake comes once more and its coroutine runs to its end. -/
def synAgain (isn : UInt32) : List Label :=
  .overwrite (synPacket isn).bytes :: .forwardPacket (callOf (synPacket isn).bytes) .returns ::
    List.replicate 10 (.task 2 .returns)

/-- The server ends the stream of the handshake's connection. -/
def serverEnds : List Label :=
  [.task 1 .returns, .task 1 .endOfStream, .task 1 .returns, .task 1 .returns]

theorem reconnected_allFiled :
    ∃ final, Transition.run (step .headerRules) initial (handshake 7 ++ serverEnds ++ synAgain 7) =
        some final ∧
      AllFiled .headerRules (handshake 7 ++ serverEnds ++ synAgain 7) final := by
  have observed : (Transition.run (step .headerRules) initial
      (handshake 7 ++ serverEnds ++ synAgain 7)).map
        (fun final => final.tasks.map fun task => holdOf task.job) =
      some [.nothing, .nothing, .nothing, .nothing] := by
    decide +kernel
  obtain ⟨final, ran, holds⟩ := Option.map_eq_some_iff.mp observed
  refine ⟨final, ran, (allFiled_iff ran).mpr ⟨by decide +kernel, ?_⟩⟩
  rintro socket ⟨task, member, closing⟩
  have held := List.mem_map_of_mem (f := fun task => holdOf task.job) member
  rw [holds, closing] at held
  exact absurd held (by simp)

/-- A retransmitted SYN makes a second connection, and the first one is forgotten. -/
theorem retransmitted_syn_orphans :
    ¬ ∀ (pcpp : PcapPlusPlus) (labels : List Label) (final : Forwarder),
      Transition.run (step pcpp) initial labels = some final → AllFiled pcpp labels final := by
  intro all
  have observed : (Transition.run (step .headerRules) initial (handshake 7 ++ synAgain 7)).map
      (fun final => (final.isClosed 0,
        (final.owner 0).bind fun key => final.tcpConnections.lookup key)) =
      some (false, some (newTcpConnection 1 (callOf (synPacket 7).bytes).key)) := by
    decide +kernel
  obtain ⟨final, ran, seen⟩ := Option.map_eq_some_iff.mp observed
  obtain ⟨opened, entry⟩ := Prod.mk.inj seen
  have registered : EverRegistered .headerRules (handshake 7 ++ synAgain 7) 0 := by
    unfold EverRegistered
    decide +kernel
  obtain ⟨key, connection, own, located, first⟩ := (all _ _ final ran).filed 0 registered opened
  rw [own, Option.bind_some, located, Option.some.injEq] at entry
  rw [entry] at first
  cases first

end Forwarder

end FirewallVpn
