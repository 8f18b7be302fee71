import FirewallVpn.Forwarder.Inversion

/-! Which flow a socket belongs to. A socket is opened for the key of one SYN,
and whatever a coroutine, the map of connections or an effect refers to belongs
to the key it is filed under. -/

set_option autoImplicit false

namespace FirewallVpn

namespace Forwarder

def owner (forwarder : Forwarder) (socket : Nat) : Option String :=
  (forwarder.sockets[socket]?).map TcpSocket.openedFor

/-- The connection is the one that the SYN of this flow has made. -/
def OwnsConnection (forwarder : Forwarder) (key : String) (connection : TcpConnection) : Prop :=
  forwarder.owner connection.socket = some key ∧ connection.key = key

def OwnsJob (forwarder : Forwarder) (key : String) : Job → Prop
  | .udp _ => True
  | .tcp stage =>
      match stage with
      | .protect socket | .soTimeout socket | .connect socket | .register socket =>
          forwarder.owner socket = some key
      | .buildSynAck connection | .writeSynAck connection _ | .startReader connection
      | .write connection _ _ | .close connection _ => OwnsConnection forwarder key connection
      | .getTcpFlags | .extractTcpPayload _ | .create | .lookup _ _ | .remove _ | .done => True
  | .reader connection stage =>
      OwnsConnection forwarder key connection ∧
        match stage with
        | .close registered => OwnsConnection forwarder key registered
        | .isClosed | .read | .build _ | .write _ _ | .remove | .done => True

def OwnsEffect (forwarder : Forwarder) (key : String) : Effect → Prop
  | .connect socket | .close socket => forwarder.owner socket = some key
  | .register filed connection => filed = key ∧ OwnsConnection forwarder key connection
  | .remove filed => filed = key
  | .output content =>
      match content with
      | .synAck connection _ | .data connection _ _ | .upstream connection _ =>
          OwnsConnection forwarder key connection
      | .passThrough _ | .udpResponse _ _ | .datagram _ _ => True
  | .launch job => OwnsJob forwarder key job
  | .none | .newDatagramSocket | .closeDatagramSocket _ | .newSocket => True

structure Owned (forwarder : Forwarder) : Prop where
  connections : ∀ key connection, forwarder.tcpConnections.lookup key = some connection →
    OwnsConnection forwarder key connection
  tasks : ∀ task ∈ forwarder.tasks, OwnsJob forwarder task.call.key task.job

/-! Owners never change. -/

/-- Every socket of `before` keeps its owner in `after`. -/
def KeepsOwners (before after : Forwarder) : Prop :=
  ∀ socket key, before.owner socket = some key → after.owner socket = some key

theorem KeepsOwners.connection {before after : Forwarder} (kept : KeepsOwners before after)
    {key : String} {connection : TcpConnection} (owned : OwnsConnection before key connection) :
    OwnsConnection after key connection :=
  ⟨kept _ _ owned.1, owned.2⟩

theorem KeepsOwners.job {before after : Forwarder} (kept : KeepsOwners before after) {key : String}
    {job : Job} (owned : OwnsJob before key job) : OwnsJob after key job := by
  cases job with
  | udp stage => exact True.intro
  | tcp stage =>
      cases stage with
      | protect | soTimeout | connect | register => exact kept _ _ owned
      | buildSynAck | writeSynAck | startReader | write | close => exact kept.connection owned
      | getTcpFlags | extractTcpPayload | create | lookup | remove | done => exact True.intro
  | reader connection stage =>
      refine ⟨kept.connection owned.1, ?_⟩
      cases stage with
      | close registered => exact kept.connection owned.2
      | isClosed | read | build | write | remove | done => exact True.intro

theorem owner_modify (sockets : List TcpSocket) {change : TcpSocket → TcpSocket}
    (same : ∀ socket, (change socket).openedFor = socket.openedFor) (index other : Nat) :
    ((sockets.modify index change)[other]?).map TcpSocket.openedFor =
      (sockets[other]?).map TcpSocket.openedFor := by
  cases located : sockets[other]? with
  | none => simp [List.getElem?_modify, located]
  | some socket =>
      by_cases changed : index = other
      · simp [located, changed, same]
      · simp [located, changed]

theorem owner_closeSocket (sockets : List TcpSocket) (index other : Nat) :
    ((closeSocket sockets index)[other]?).map TcpSocket.openedFor =
      (sockets[other]?).map TcpSocket.openedFor :=
  owner_modify sockets (fun _ => by rfl) index other

theorem owner_lt {forwarder : Forwarder} {socket : Nat} {key : String}
    (owned : forwarder.owner socket = some key) : socket < forwarder.sockets.length := by
  obtain ⟨opened, located, -⟩ := Option.map_eq_some_iff.mp owned
  exact (List.getElem?_eq_some_iff.mp located).1

theorem perform_keepsOwners (forwarder : Forwarder) (index : Nat) (call : ForwardCall)
    (effect : Effect) : KeepsOwners forwarder (forwarder.perform index call effect) := by
  intro socket key owned
  cases effect with
  | newSocket =>
      rw [← owned, owner, perform, List.getElem?_append_left (owner_lt owned), owner]
  | connect other => rw [← owned]; exact owner_modify _ (fun _ => by rfl) other socket
  | close other => rw [← owned]; exact owner_closeSocket _ other socket
  | none | newDatagramSocket | closeDatagramSocket | register | remove | output | launch => exact owned

/-- What every single close preserves, the closing pass of `cleanup()` preserves. -/
theorem closeAll_preserves {forwarder : Forwarder} (property : List TcpSocket → Prop)
    (start : property forwarder.sockets)
    (kept : ∀ sockets, property sockets → ∀ entry ∈ forwarder.tcpConnections.entries,
      property (closeSocket sockets entry.snd.socket)) :
    property forwarder.closeAll.sockets :=
  List.foldlRecOn _ _ start kept

theorem closeAll_keepsOwners (forwarder : Forwarder) : KeepsOwners forwarder forwarder.closeAll := by
  intro socket key owned
  refine closeAll_preserves (fun sockets => (sockets[socket]?).map TcpSocket.openedFor = some key)
    owned ?_
  intro sockets kept entry _
  rw [owner_closeSocket]
  exact kept

variable {pcpp : PcapPlusPlus}

theorem step_keepsOwners {forwarder next : Forwarder} {label : Label}
    (taken : step pcpp forwarder label = some next) : KeepsOwners forwarder next := by
  cases step_forwarder taken with
  | overwritten | launched | passedThrough | passThroughFailed | cleared => exact fun _ _ owned => owned
  | @resumed index task answer effect job => exact perform_keepsOwners forwarder index task.call effect
  | closedAll => exact closeAll_keepsOwners forwarder

private theorem finTest_owned (forwarder : Forwarder) (key : String) (finFollows : Bool) :
    OwnsJob forwarder key (.tcp (finTest finFollows)) := by
  cases finFollows <;> exact True.intro

private theorem newSocket_owned (forwarder : Forwarder) (index : Nat) (call : ForwardCall) :
    (forwarder.perform index call .newSocket).owner forwarder.sockets.length = some call.key := by
  simp [owner, perform]

private theorem TcpStep.owns {forwarder : Forwarder} {call : ForwardCall} {stage next : TcpStage}
    {answer : Answer} {effect : Effect} (owned : Owned forwarder)
    (ownsJob : OwnsJob forwarder call.key (.tcp stage))
    (stepped : TcpStep pcpp forwarder call stage answer effect next) (index : Nat) :
    OwnsEffect forwarder call.key effect ∧
      OwnsJob (forwarder.perform index call effect) call.key (.tcp next) := by
  have kept := perform_keepsOwners forwarder index call effect
  cases stepped with
  | flagsRead | synSeen | extracted | buildFailed | abandoned | writeFailed =>
      exact ⟨True.intro, True.intro⟩
  | created => exact ⟨True.intro, newSocket_owned forwarder index call⟩
  | shielded | timed => exact ⟨True.intro, ownsJob⟩
  | connected => exact ⟨ownsJob, kept _ _ ownsJob⟩
  | registered => exact ⟨⟨rfl, ownsJob, rfl⟩, ⟨kept _ _ ownsJob, rfl⟩⟩
  | built packet => exact ⟨True.intro, ownsJob⟩
  | synAckWritten => exact ⟨ownsJob, ownsJob⟩
  | readerStarted => exact ⟨⟨ownsJob, True.intro⟩, True.intro⟩
  | found located nonempty => exact ⟨True.intro, owned.connections _ _ located⟩
  | nothingToWrite | nothingToRemove => exact ⟨True.intro, finTest_owned _ _ _⟩
  | written opened => exact ⟨ownsJob, finTest_owned _ _ _⟩
  | writeInterrupted opened => exact ⟨ownsJob, True.intro⟩
  | removed located => exact ⟨rfl, owned.connections _ _ located⟩
  | closed => exact ⟨ownsJob.1, finTest_owned _ _ _⟩

private theorem ReaderStep.owns {forwarder : Forwarder} {call : ForwardCall}
    {connection : TcpConnection} {stage next : ReaderStage} {answer : Answer} {effect : Effect}
    (owned : Owned forwarder) (ownsJob : OwnsJob forwarder call.key (.reader connection stage))
    (stepped : ReaderStep pcpp forwarder call connection stage answer effect next) (index : Nat) :
    OwnsEffect forwarder call.key effect ∧
      OwnsJob (forwarder.perform index call effect) call.key (.reader connection next) := by
  obtain ⟨own, closes⟩ := ownsJob
  have kept := perform_keepsOwners forwarder index call effect
  cases stepped with
  | foundClosed | foundOpen | chunkRead | ended | buildFailed | buildThrew | built | writeFailed
  | nothingToRemove => exact ⟨True.intro, kept.connection own, True.intro⟩
  | written => exact ⟨own, kept.connection own, True.intro⟩
  | removed located =>
      have registered := owned.connections _ _ located
      rw [own.2] at registered
      exact ⟨own.2, kept.connection own, kept.connection registered⟩
  | closed => exact ⟨closes.1, kept.connection own, True.intro⟩

theorem JobStep.owns {forwarder : Forwarder} {call : ForwardCall} {job next : Job}
    {answer : Answer} {effect : Effect} (owned : Owned forwarder)
    (ownsJob : OwnsJob forwarder call.key job)
    (stepped : JobStep pcpp forwarder call job answer effect next) (index : Nat) :
    OwnsEffect forwarder call.key effect ∧
      OwnsJob (forwarder.perform index call effect) call.key next := by
  cases stepped with
  | udp stepped =>
      refine ⟨?_, True.intro⟩
      cases stepped <;> exact True.intro
  | tcp stepped => exact stepped.owns owned ownsJob index
  | reader stepped => exact stepped.owns owned ownsJob index

private theorem perform_connections {forwarder : Forwarder} {call : ForwardCall} {effect : Effect}
    (owned : Owned forwarder) (ownsEffect : OwnsEffect forwarder call.key effect) (index : Nat) :
    ∀ key connection,
      (forwarder.perform index call effect).tcpConnections.lookup key = some connection →
        OwnsConnection (forwarder.perform index call effect) key connection := by
  intro key connection located
  have kept := perform_keepsOwners forwarder index call effect
  cases effect with
  | register filed registered =>
      obtain ⟨rfl, own⟩ := ownsEffect
      by_cases same : key = call.key
      · subst same
        rw [perform, AList.lookup_insert, Option.some.injEq] at located
        subst located
        exact own
      · rw [perform, AList.lookup_insert_ne same] at located
        exact owned.connections key connection located
  | remove filed =>
      by_cases same : key = filed
      · subst same
        rw [perform, AList.lookup_erase] at located
        cases located
      · rw [perform, AList.lookup_erase_ne same] at located
        exact owned.connections key connection located
  | none | newDatagramSocket | closeDatagramSocket | newSocket | connect | close | output | launch =>
      exact kept.connection (owned.connections key connection located)

theorem Owned.resume {forwarder : Forwarder} {index : Nat} {task : Task} {answer : Answer}
    {effect : Effect} {job : Job} (owned : Owned forwarder)
    (located : forwarder.tasks[index]? = some task)
    (stepped : JobStep pcpp forwarder task.call task.job answer effect job) :
    Owned (forwarder.resume task.call index effect job) := by
  have kept := perform_keepsOwners forwarder index task.call effect
  have current := owned.tasks task (List.mem_of_getElem? located)
  obtain ⟨ownsEffect, ownsNext⟩ := stepped.owns owned current index
  refine ⟨perform_connections owned ownsEffect index, ?_⟩
  refine TaskPool.forall_advance (fun member inPool => kept.job (owned.tasks member inPool)) ownsNext ?_
  intro launched member
  cases effect with
  | launch job =>
      rw [List.mem_singleton.mp member]
      exact ownsEffect
  | none | newDatagramSocket | closeDatagramSocket | newSocket | connect | close | register | remove
  | output => cases member

theorem Owned.step {forwarder next : Forwarder} {label : Label} (owned : Owned forwarder)
    (taken : Forwarder.step pcpp forwarder label = some next) : Owned next := by
  cases step_forwarder taken with
  | overwritten fits => exact ⟨owned.connections, owned.tasks⟩
  | launched held first =>
      refine ⟨owned.connections, fun task member => ?_⟩
      rcases List.mem_append.mp member with old | single
      · exact owned.tasks task old
      · rw [List.mem_singleton.mp single]
        rcases first with ⟨-, rfl⟩ | ⟨-, rfl⟩ <;> exact True.intro
  | passedThrough held other => exact ⟨owned.connections, owned.tasks⟩
  | passThroughFailed other => exact owned
  | resumed located stepped => exact owned.resume located stepped
  | closedAll =>
      have kept := closeAll_keepsOwners forwarder
      exact ⟨fun key connection located => kept.connection (owned.connections key connection located),
        fun task member => kept.job (owned.tasks task member)⟩
  | cleared pending => exact ⟨fun _ _ located => (by cases located), owned.tasks⟩

theorem owned_initial : Owned initial :=
  ⟨fun _ _ located => (by cases located), List.forall_mem_nil _⟩

theorem owned_of_run {labels : List Label} {final : Forwarder}
    (ran : Transition.run (Forwarder.step pcpp) initial labels = some final) : Owned final :=
  Transition.run_preserves Owned (fun _ _ _ owned taken => owned.step taken) owned_initial ran

end Forwarder

end FirewallVpn
