import FirewallVpn.Forwarder.Frame

/-! Who answers for a socket. From its creation on it is in the hands of one
coroutine, then of the map, and of one coroutine again until it is closed. A
socket that leaves these hands open is out of reach for the rest of the run. -/

set_option autoImplicit false

namespace FirewallVpn

namespace Forwarder

/-- What a coroutine alone is in charge of. -/
inductive Hold where
  | nothing
  | connecting (socket : Nat)
  | registering (socket : Nat)
  | closing (socket : Nat)
  deriving DecidableEq

def Hold.socket : Hold → Option Nat
  | .nothing => none
  | .connecting socket | .registering socket | .closing socket => some socket

def Hold.isRegistering : Hold → Bool
  | .registering _ => true
  | .nothing | .connecting _ | .closing _ => false

theorem Hold.isRegistering_iff {hold : Hold} :
    hold.isRegistering = true ↔ ∃ socket, hold = .registering socket := by
  cases hold <;> simp [isRegistering]

/-- The reader and the writers of a connection use its socket without being in
charge of it. -/
def holdOf : Job → Hold
  | .tcp (.protect socket) | .tcp (.soTimeout socket) | .tcp (.connect socket) => .connecting socket
  | .tcp (.register socket) => .registering socket
  | .tcp (.close connection _) | .reader _ (.close connection) => .closing connection.socket
  | .udp _ | .tcp _ | .reader _ _ => .nothing

def heldBy (task : Task) : Option Nat := (holdOf task.job).socket

theorem hold_of_first {call : ForwardCall} {job : Job}
    (first : call.traffic.protocolByte = .udp ∧ job = .udp .extractUdpPayload ∨
      call.traffic.protocolByte = .tcp ∧ job = .tcp .getTcpFlags) : holdOf job = .nothing := by
  rcases first with ⟨-, rfl⟩ | ⟨-, rfl⟩ <;> rfl

theorem heldBy_of_hold {task : Task} {hold : Hold} (holds : holdOf task.job = hold) :
    heldBy task = hold.socket :=
  congrArg Hold.socket holds

/-- The effect changes neither the map nor a TCP socket. -/
def Quiet : Effect → Prop
  | .none | .newDatagramSocket | .closeDatagramSocket _ | .output _ | .launch _ => True
  | .newSocket | .connect _ | .close _ | .register _ _ | .remove _ => False

/-- How a statement of a coroutine with this key changes what it is in charge of. -/
inductive HoldStep (forwarder : Forwarder) (key : String) : Hold → Effect → Hold → Prop where
  | unheld {effect : Effect} (quiet : Quiet effect) :
      HoldStep forwarder key .nothing effect .nothing
  | opened : HoldStep forwarder key .nothing .newSocket (.connecting forwarder.sockets.length)
  | prepared {socket : Nat} :
      HoldStep forwarder key (.connecting socket) .none (.connecting socket)
  | connected {socket : Nat} :
      HoldStep forwarder key (.connecting socket) (.connect socket) (.registering socket)
  /-- An exception before the registration leaves the socket to nobody. -/
  | abandoned {socket : Nat} : HoldStep forwarder key (.connecting socket) .none .nothing
  | registered {socket : Nat} :
      HoldStep forwarder key (.registering socket) (.register key (newTcpConnection socket key))
        .nothing
  | removed {connection : TcpConnection}
      (located : forwarder.tcpConnections.lookup key = some connection) :
      HoldStep forwarder key .nothing (.remove key) (.closing connection.socket)
  | closed {socket : Nat} : HoldStep forwarder key (.closing socket) (.close socket) .nothing

variable {pcpp : PcapPlusPlus}

private theorem finTest_hold (finFollows : Bool) : holdOf (.tcp (finTest finFollows)) = .nothing := by
  cases finFollows <;> rfl

private theorem abandons_hold {forwarder : Forwarder} {key : String} {stage : TcpStage}
    (abandons : stage.abandons) :
    HoldStep forwarder key (holdOf (.tcp stage)) .none (holdOf (.tcp (.remove false))) := by
  cases stage with
  | protect | soTimeout | connect => exact .abandoned
  | create | buildSynAck | writeSynAck => exact .unheld True.intro
  | getTcpFlags | extractTcpPayload | register | startReader | lookup | write | remove | close
  | done => cases abandons

theorem JobStep.hold {forwarder : Forwarder} {call : ForwardCall} {job next : Job} {answer : Answer}
    {effect : Effect} (ownsJob : OwnsJob forwarder call.key job)
    (stepped : JobStep pcpp forwarder call job answer effect next) :
    HoldStep forwarder call.key (holdOf job) effect (holdOf next) := by
  cases stepped with
  | udp stepped => cases stepped <;> exact .unheld True.intro
  | tcp stepped =>
      cases stepped with
      | flagsRead | synSeen | extracted | buildFailed | built | synAckWritten | readerStarted
      | found | writeInterrupted | writeFailed => exact .unheld True.intro
      | abandoned abandons => exact abandons_hold abandons
      | created => exact .opened
      | shielded | timed => exact .prepared
      | connected => exact .connected
      | registered => exact .registered
      | nothingToWrite | written | nothingToRemove =>
          rw [finTest_hold]
          exact .unheld True.intro
      | removed located => exact .removed located
      | closed =>
          rw [finTest_hold]
          exact .closed
  | reader stepped =>
      cases stepped with
      | foundClosed | foundOpen | chunkRead | ended | buildFailed | buildThrew | built | written | writeFailed
      | nothingToRemove => exact .unheld True.intro
      | removed located =>
          rw [ownsJob.1.2] at located ⊢
          exact .removed located
      | closed => exact .closed

theorem OwnsJob.held {forwarder : Forwarder} {task : Task} {socket : Nat}
    (owns : OwnsJob forwarder task.call.key task.job) (held : heldBy task = some socket) :
    forwarder.owner socket = some task.call.key := by
  obtain ⟨call, job⟩ := task
  cases job with
  | udp stage => cases held
  | tcp stage =>
      cases stage with
      | protect | soTimeout | connect | register =>
          cases held
          exact owns
      | close =>
          cases held
          exact owns.1
      | getTcpFlags | extractTcpPayload | create | buildSynAck | writeSynAck | startReader | lookup
      | write | remove | done => cases held
  | reader connection stage =>
      cases stage with
      | close =>
          cases held
          exact owns.2.1
      | isClosed | read | build | write | remove | done => cases held

theorem lt_of_open {forwarder : Forwarder} {socket : Nat}
    (opened : forwarder.isClosed socket = false) : socket < forwarder.sockets.length := by
  by_contra beyond
  rw [isClosed, List.getElem?_eq_none (Nat.le_of_not_lt beyond)] at opened
  cases opened

theorem perform_quiet {effect : Effect} (quiet : Quiet effect) (forwarder : Forwarder) (index : Nat)
    (call : ForwardCall) :
    (forwarder.perform index call effect).tcpConnections = forwarder.tcpConnections ∧
      (forwarder.perform index call effect).sockets = forwarder.sockets := by
  cases effect with
  | none | newDatagramSocket | closeDatagramSocket | output | launch => exact ⟨rfl, rfl⟩
  | newSocket | connect | close | register | remove => exact quiet.elim

/-- What a coroutine takes charge of was in its hands already, is new, or comes
from the entry it removes. -/
theorem HoldStep.takes {forwarder : Forwarder} {key : String} {hold next : Hold} {effect : Effect}
    (stepped : HoldStep forwarder key hold effect next) {socket : Nat}
    (held : next.socket = some socket) :
    hold.socket = some socket ∨ socket = forwarder.sockets.length ∨
      effect = .remove key ∧ ∃ connection,
        forwarder.tcpConnections.lookup key = some connection ∧ connection.socket = socket := by
  cases stepped with
  | unheld | abandoned | registered | closed => cases held
  | prepared | connected => exact .inl held
  | opened =>
      cases held
      exact .inr (.inl rfl)
  | @removed connection located =>
      cases held
      exact .inr (.inr ⟨rfl, connection, located, rfl⟩)

/-- What the map holds after a step it held before, or has just been handed over. -/
theorem HoldStep.files {forwarder : Forwarder} {key filed : String} {hold next : Hold}
    {effect : Effect} (stepped : HoldStep forwarder key hold effect next) {index : Nat}
    {call : ForwardCall} {connection : TcpConnection}
    (located : (forwarder.perform index call effect).tcpConnections.lookup filed = some connection) :
    forwarder.tcpConnections.lookup filed = some connection ∧
        (filed = key → hold.isRegistering = false ∧ effect ≠ .remove key) ∨
      hold = .registering connection.socket ∧ next = .nothing := by
  cases stepped with
  | unheld quiet =>
      rw [(perform_quiet quiet forwarder index call).1] at located
      refine .inl ⟨located, fun _ => ⟨rfl, ?_⟩⟩
      rintro rfl
      exact quiet.elim
  | opened | prepared | connected | abandoned | closed => exact .inl ⟨located, fun _ => ⟨rfl, nofun⟩⟩
  | @registered socket =>
      by_cases same : filed = key
      · subst same
        rw [perform, AList.lookup_insert, Option.some.injEq] at located
        subst located
        exact .inr ⟨rfl, rfl⟩
      · rw [perform, AList.lookup_insert_ne same] at located
        exact .inl ⟨located, fun own => absurd own same⟩
  | removed =>
      by_cases same : filed = key
      · subst same
        rw [perform, AList.lookup_erase] at located
        cases located
      · rw [perform, AList.lookup_erase_ne same] at located
        exact .inl ⟨located, fun own => absurd own same⟩

/-- No socket is in two hands. -/
structure Exclusive (forwarder : Forwarder) : Prop where
  tasks : TaskPool.Exclusive heldBy forwarder.tasks
  entries : ∀ task ∈ forwarder.tasks, ∀ key connection,
    forwarder.tcpConnections.lookup key = some connection → heldBy task ≠ some connection.socket

theorem Owned.held_lt {forwarder : Forwarder} (owned : Owned forwarder) {task : Task} {socket : Nat}
    (member : task ∈ forwarder.tasks) (held : heldBy task = some socket) :
    socket < forwarder.sockets.length :=
  owner_lt ((owned.tasks task member).held held)

private theorem launched_unheld {forwarder : Forwarder} {call : ForwardCall} {job next : Job}
    {answer : Answer} {effect : Effect}
    (stepped : JobStep pcpp forwarder call job answer effect next) :
    ∀ task ∈ effect.launched call, heldBy task = none := by
  intro task member
  obtain ⟨connection, rfl⟩ := stepped.launched task member
  rfl

theorem Exclusive.resume {forwarder : Forwarder} {index : Nat} {task : Task} {answer : Answer}
    {effect : Effect} {job : Job} (exclusive : Exclusive forwarder) (owned : Owned forwarder)
    (located : forwarder.tasks[index]? = some task)
    (stepped : JobStep pcpp forwarder task.call task.job answer effect job) :
    Exclusive (forwarder.resume task.call index effect job) := by
  have inPool := List.mem_of_getElem? located
  have hold := stepped.hold (owned.tasks task inPool)
  refine ⟨exclusive.tasks.advance located ?_ (launched_unheld stepped), ?_⟩
  · intro socket held
    rcases hold.takes held with kept | rfl | ⟨-, connection, filed, rfl⟩
    · exact .inl kept
    · exact .inr fun member old holds => absurd (owned.held_lt old holds) (Nat.lt_irrefl _)
    · exact .inr fun member old => exclusive.entries member old _ _ filed
  · intro member inAfter key connection filed held
    obtain ⟨position, reached⟩ := List.mem_iff_getElem?.mp inAfter
    rcases TaskPool.getElem?_advance_cases located reached with
      ⟨rfl, rfl⟩ | ⟨distinct, old⟩ | ⟨-, new⟩
    · rcases hold.files filed with ⟨before, untouched⟩ | ⟨-, free⟩
      · have own := (owned.connections key connection before).1
        rcases hold.takes held with kept | new | ⟨removes, other, otherFiled, same⟩
        · exact exclusive.entries task inPool key connection before kept
        · exact absurd (owner_lt own) (by omega)
        · have otherOwn := (owned.connections _ other otherFiled).1
          rw [same, own, Option.some.injEq] at otherOwn
          exact (untouched otherOwn).2 removes
      · rw [heldBy, free] at held
        cases held
    · have oldMember := List.mem_of_getElem? old
      rcases hold.files filed with ⟨before, -⟩ | ⟨registering, -⟩
      · exact exclusive.entries member oldMember key connection before held
      · have handed : heldBy task = some connection.socket := heldBy_of_hold registering
        exact distinct (exclusive.tasks _ _ member task _ old located held handed)
    · rw [launched_unheld stepped member (List.mem_of_getElem? new)] at held
      cases held

theorem Exclusive.step {forwarder next : Forwarder} {label : Label} (exclusive : Exclusive forwarder)
    (owned : Owned forwarder) (taken : Forwarder.step pcpp forwarder label = some next) :
    Exclusive next := by
  cases step_forwarder taken with
  | overwritten | passedThrough => exact ⟨exclusive.tasks, exclusive.entries⟩
  | passThroughFailed => exact exclusive
  | @launched call job held first =>
      have free : heldBy ⟨call, job⟩ = none := heldBy_of_hold (hold_of_first first)
      refine ⟨?_, fun task member key connection located => ?_⟩
      · refine exclusive.tasks.append fun task member => ?_
        rw [List.mem_singleton.mp member]
        exact free
      · rcases List.mem_append.mp member with old | single
        · exact exclusive.entries task old key connection located
        · rw [List.mem_singleton.mp single, free]
          exact nofun
  | resumed located stepped => exact exclusive.resume owned located stepped
  | closedAll => exact ⟨exclusive.tasks, exclusive.entries⟩
  | cleared => exact ⟨exclusive.tasks, fun _ _ _ _ located => (by cases located)⟩

theorem exclusive_of_run {labels : List Label} {final : Forwarder}
    (ran : Transition.run (Forwarder.step pcpp) initial labels = some final) : Exclusive final := by
  refine (Transition.run_preserves (fun forwarder => Owned forwarder ∧ Exclusive forwarder) ?_ ?_ ran).2
  · rintro forwarder label next ⟨owned, exclusive⟩ taken
    exact ⟨owned.step taken, exclusive.step owned taken⟩
  · exact ⟨owned_initial, fun _ _ _ _ _ located => (by cases located), List.forall_mem_nil _⟩

/-- An open socket that no coroutine is in charge of and no entry leads to. -/
structure Lost (forwarder : Forwarder) (socket : Nat) : Prop where
  opened : forwarder.isClosed socket = false
  unheld : ∀ task ∈ forwarder.tasks, heldBy task ≠ some socket
  unfiled : ∀ key connection, forwarder.tcpConnections.lookup key = some connection →
    connection.socket ≠ socket

theorem HoldStep.isClosed {forwarder : Forwarder} {key : String} {hold next : Hold}
    {effect : Effect} (stepped : HoldStep forwarder key hold effect next) {socket : Nat}
    (opened : forwarder.isClosed socket = false) (unheld : hold.socket ≠ some socket) (index : Nat)
    (call : ForwardCall) : (forwarder.perform index call effect).isClosed socket = false := by
  rw [← opened]
  cases stepped with
  | unheld quiet => rw [Forwarder.isClosed, (perform_quiet quiet forwarder index call).2, Forwarder.isClosed]
  | opened =>
      rw [Forwarder.isClosed, perform, List.getElem?_append_left (lt_of_open opened), Forwarder.isClosed]
  | connected => exact isClosed_connect forwarder index socket call _
  | prepared | abandoned | registered | removed => rfl
  | @closed held =>
      refine isClosed_close_other ?_ index call
      rintro rfl
      exact unheld rfl

/-- An existing socket that is in no coroutine's hands gets there only as an entry
is removed. -/
theorem unheld_resume {forwarder : Forwarder} {socket index : Nat} {task : Task} {answer : Answer}
    {effect : Effect} {job : Job} (owned : Owned forwarder)
    (located : forwarder.tasks[index]? = some task)
    (stepped : JobStep pcpp forwarder task.call task.job answer effect job)
    (within : socket < forwarder.sockets.length)
    (unheld : ∀ member ∈ forwarder.tasks, heldBy member ≠ some socket)
    (stays : ∀ connection, forwarder.tcpConnections.lookup task.call.key = some connection →
      connection.socket = socket → effect ≠ .remove task.call.key) :
    ∀ member ∈ (forwarder.resume task.call index effect job).tasks, heldBy member ≠ some socket := by
  have inPool := List.mem_of_getElem? located
  have hold := stepped.hold (owned.tasks task inPool)
  refine TaskPool.forall_advance unheld ?_ ?_
  · intro held
    rcases hold.takes held with kept | new | ⟨removes, connection, filed, same⟩
    · exact unheld task inPool kept
    · exact absurd within (by omega)
    · exact stays connection filed same removes
  · intro member launched
    rw [launched_unheld stepped member launched]
    exact nofun

theorem Lost.resume {forwarder : Forwarder} {socket index : Nat} {task : Task} {answer : Answer}
    {effect : Effect} {job : Job} (lost : Lost forwarder socket) (owned : Owned forwarder)
    (located : forwarder.tasks[index]? = some task)
    (stepped : JobStep pcpp forwarder task.call task.job answer effect job) :
    Lost (forwarder.resume task.call index effect job) socket := by
  have inPool := List.mem_of_getElem? located
  have hold := stepped.hold (owned.tasks task inPool)
  have unheld := lost.unheld task inPool
  refine ⟨hold.isClosed lost.opened unheld index task.call, ?_, ?_⟩
  · refine unheld_resume owned located stepped (lt_of_open lost.opened) lost.unheld ?_
    exact fun connection filed same => absurd same (lost.unfiled _ connection filed)
  · intro key connection filed same
    rcases hold.files filed with ⟨before, -⟩ | ⟨registering, -⟩
    · exact lost.unfiled key connection before same
    · rw [heldBy_of_hold registering, ← same] at unheld
      exact unheld rfl

/-- Nothing that happens later reaches a lost socket. -/
theorem Lost.step {forwarder next : Forwarder} {socket : Nat} {label : Label}
    (lost : Lost forwarder socket) (owned : Owned forwarder)
    (taken : Forwarder.step pcpp forwarder label = some next) : Lost next socket := by
  cases step_forwarder taken with
  | overwritten | passedThrough => exact ⟨lost.opened, lost.unheld, lost.unfiled⟩
  | passThroughFailed => exact lost
  | @launched call job held first =>
      refine ⟨lost.opened, fun task member => ?_, lost.unfiled⟩
      rcases List.mem_append.mp member with old | single
      · exact lost.unheld task old
      · rw [List.mem_singleton.mp single, heldBy_of_hold (hold_of_first first)]
        exact nofun
  | resumed located stepped => exact lost.resume owned located stepped
  | closedAll => exact ⟨closeAll_spares lost.opened lost.unfiled, lost.unheld, lost.unfiled⟩
  | cleared => exact ⟨lost.opened, lost.unheld, fun _ _ located => (by cases located)⟩

end Forwarder

end FirewallVpn
