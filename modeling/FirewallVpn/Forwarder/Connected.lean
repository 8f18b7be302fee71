import FirewallVpn.Forwarder.FlowKey
import FirewallVpn.Forwarder.Frame

/-! Where the sockets lead. A socket that is registered, or that a coroutine goes
on to use, is connected to the destination of the flow it was opened for. -/

set_option autoImplicit false

namespace FirewallVpn

/-- The socket was opened for the flow and is connected to its destination. -/
def TcpSocket.Connects (socket : TcpSocket) (endpoints : Endpoints) : Prop :=
  socket.openedFor = endpoints.key ∧
    socket.remote = some (endpoints.dst.toString, (endpoints.portDst.toNat : Int))

namespace Forwarder

def ConnectedTo (forwarder : Forwarder) (socket : Nat) (endpoints : Endpoints) : Prop :=
  ∃ opened ∈ forwarder.sockets[socket]?, opened.Connects endpoints

/-- The sockets a coroutine of the flow will use are connected for it. -/
def ConnectedJob (forwarder : Forwarder) (endpoints : Endpoints) : Job → Prop
  | .tcp (.register socket) => forwarder.ConnectedTo socket endpoints
  | .tcp (.buildSynAck connection) | .tcp (.writeSynAck connection _)
  | .tcp (.startReader connection) | .tcp (.write connection _ _) | .reader connection _ =>
      forwarder.ConnectedTo connection.socket endpoints
  | .udp _ | .tcp _ => True

def ConnectedContent (forwarder : Forwarder) (endpoints : Endpoints) : Content → Prop
  | .synAck connection _ | .data connection _ _ | .upstream connection _ =>
      forwarder.ConnectedTo connection.socket endpoints
  | .passThrough _ | .udpResponse _ _ | .datagram _ _ => True

structure Connected (forwarder : Forwarder) : Prop where
  connections : ∀ key connection, forwarder.tcpConnections.lookup key = some connection →
    ∃ endpoints : Endpoints, key = endpoints.key ∧ forwarder.ConnectedTo connection.socket endpoints
  tasks : ∀ task ∈ forwarder.tasks, ∃ endpoints, task.call.traffic.Reports endpoints ∧
    forwarder.ConnectedJob endpoints task.job
  outputs : ∀ output ∈ forwarder.outputs, ∃ endpoints, output.call.traffic.Reports endpoints ∧
    forwarder.ConnectedContent endpoints output.content

/-- Every connection of `before` stays in `after`. -/
def KeepsConnected (before after : Forwarder) : Prop :=
  ∀ socket endpoints, before.ConnectedTo socket endpoints → after.ConnectedTo socket endpoints

theorem KeepsConnected.job {before after : Forwarder} (kept : KeepsConnected before after)
    {endpoints : Endpoints} {job : Job} (connected : before.ConnectedJob endpoints job) :
    after.ConnectedJob endpoints job := by
  cases job with
  | udp stage => exact True.intro
  | tcp stage =>
      cases stage with
      | register | buildSynAck | writeSynAck | startReader | write => exact kept _ _ connected
      | getTcpFlags | extractTcpPayload | create | protect | soTimeout | connect | lookup | remove
      | close | done => exact True.intro
  | reader connection stage => exact kept _ _ connected

theorem KeepsConnected.content {before after : Forwarder} (kept : KeepsConnected before after)
    {endpoints : Endpoints} {content : Content} (connected : before.ConnectedContent endpoints content) :
    after.ConnectedContent endpoints content := by
  cases content with
  | synAck | data | upstream => exact kept _ _ connected
  | passThrough | udpResponse | datagram => exact True.intro

private theorem connects_modify {sockets : List TcpSocket} {change : TcpSocket → TcpSocket}
    {index socket : Nat} {endpoints : Endpoints}
    (kept : index = socket → ∀ opened, opened.Connects endpoints → (change opened).Connects endpoints)
    (connected : ∃ opened ∈ sockets[socket]?, opened.Connects endpoints) :
    ∃ opened ∈ (sockets.modify index change)[socket]?, opened.Connects endpoints := by
  obtain ⟨opened, located, connects⟩ := connected
  rw [Option.mem_def] at located
  by_cases changed : index = socket
  · exact ⟨change opened, by simp [changed, located], kept changed opened connects⟩
  · exact ⟨opened, by simp [changed, located], connects⟩

/-- Only a connect changes an endpoint, and it connects to the same one again. -/
theorem perform_keepsConnected {forwarder : Forwarder} {call : ForwardCall} {effect : Effect}
    {endpoints : Endpoints} (owns : OwnsEffect forwarder call.key effect)
    (reported : call.traffic.Reports endpoints) (known : call.traffic.protocolByte ≠ .unknown)
    (index : Nat) : KeepsConnected forwarder (forwarder.perform index call effect) := by
  intro socket other connected
  cases effect with
  | newSocket =>
      obtain ⟨opened, located, connects⟩ := connected
      have within : socket < forwarder.sockets.length := (List.getElem?_eq_some_iff.mp located).1
      refine ⟨opened, ?_, connects⟩
      rw [perform, Option.mem_def, List.getElem?_append_left within]
      exact located
  | connect target =>
      refine connects_modify ?_ connected
      rintro rfl opened ⟨openedFor, -⟩
      obtain ⟨found, located, connects⟩ := connected
      have owner : call.key = other.key := by
        have ownKey : (forwarder.sockets[target]?).map TcpSocket.openedFor = some call.key := owns
        rw [Option.mem_def.mp located, Option.map_some, connects.1, Option.some.injEq] at ownKey
        exact ownKey.symm
      have same : endpoints = other := Endpoints.eq_of_key_eq ((reported.key known).symm.trans owner)
      subst same
      exact ⟨openedFor, by rw [reported.2.1, (reported.2.2 known).2]⟩
  | close target => exact connects_modify (fun _ _ connects => connects) connected
  | none | newDatagramSocket | closeDatagramSocket | register | remove | output | launch =>
      exact connected

def ConnectedEffect (forwarder : Forwarder) (endpoints : Endpoints) : Effect → Prop
  | .register key connection =>
      key = endpoints.key ∧ forwarder.ConnectedTo connection.socket endpoints
  | .output content => forwarder.ConnectedContent endpoints content
  | .launch job => forwarder.ConnectedJob endpoints job
  | _ => True

variable {pcpp : PcapPlusPlus}

private theorem finTest_connected (forwarder : Forwarder) (endpoints : Endpoints)
    (finFollows : Bool) : forwarder.ConnectedJob endpoints (.tcp (finTest finFollows)) := by
  cases finFollows <;> exact True.intro

private theorem connect_connects {forwarder : Forwarder} {call : ForwardCall} {socket : Nat}
    {endpoints : Endpoints} (owned : forwarder.owner socket = some call.key)
    (reported : call.traffic.Reports endpoints) (known : call.traffic.protocolByte ≠ .unknown)
    (index : Nat) : (forwarder.perform index call (.connect socket)).ConnectedTo socket endpoints := by
  obtain ⟨opened, located, openedFor⟩ := Option.map_eq_some_iff.mp owned
  refine ⟨{ opened with remote := some (call.traffic.dstIp, call.traffic.dstPort) }, ?_, ?_, ?_⟩
  · simp [perform, located]
  · exact openedFor.trans (reported.key known)
  · rw [reported.2.1, (reported.2.2 known).2]

private theorem TcpStep.connects {forwarder : Forwarder} {call : ForwardCall} {stage next : TcpStage}
    {answer : Answer} {effect : Effect} {endpoints : Endpoints} (all : Connected forwarder)
    (reported : call.traffic.Reports endpoints) (known : call.traffic.protocolByte ≠ .unknown)
    (owns : OwnsJob forwarder call.key (.tcp stage))
    (connected : forwarder.ConnectedJob endpoints (.tcp stage))
    (stepped : TcpStep pcpp forwarder call stage answer effect next) (index : Nat) :
    forwarder.ConnectedEffect endpoints effect ∧
      (forwarder.perform index call effect).ConnectedJob endpoints (.tcp next) := by
  cases stepped with
  | flagsRead | synSeen | extracted | created | shielded | timed | buildFailed | abandoned
  | writeFailed | removed => exact ⟨True.intro, True.intro⟩
  | connected => exact ⟨True.intro, connect_connects owns reported known index⟩
  | registered => exact ⟨⟨reported.key known, connected⟩, connected⟩
  | built packet => exact ⟨True.intro, connected⟩
  | synAckWritten => exact ⟨connected, connected⟩
  | readerStarted => exact ⟨connected, True.intro⟩
  | found located nonempty =>
      obtain ⟨other, sameKey, connects⟩ := all.connections _ _ located
      have same : endpoints = other :=
        Endpoints.eq_of_key_eq ((reported.key known).symm.trans sameKey)
      subst same
      exact ⟨True.intro, connects⟩
  | nothingToWrite | nothingToRemove | closed => exact ⟨True.intro, finTest_connected _ _ _⟩
  | written opened => exact ⟨connected, finTest_connected _ _ _⟩
  | writeInterrupted opened => exact ⟨connected, True.intro⟩

private theorem ReaderStep.connects {forwarder : Forwarder} {call : ForwardCall}
    {connection : TcpConnection} {stage next : ReaderStage} {answer : Answer} {effect : Effect}
    {endpoints : Endpoints} (connected : forwarder.ConnectedTo connection.socket endpoints)
    (stepped : ReaderStep pcpp forwarder call connection stage answer effect next) :
    forwarder.ConnectedEffect endpoints effect := by
  cases stepped with
  | written => exact connected
  | foundClosed | foundOpen | chunkRead | ended | buildFailed | buildThrew | built | writeFailed | removed
  | nothingToRemove | closed => exact True.intro

theorem JobStep.connects {forwarder : Forwarder} {call : ForwardCall} {job next : Job}
    {answer : Answer} {effect : Effect} {endpoints : Endpoints} (all : Connected forwarder)
    (reported : call.traffic.Reports endpoints) (known : call.traffic.protocolByte ≠ .unknown)
    (owns : OwnsJob forwarder call.key job) (ownsEffect : OwnsEffect forwarder call.key effect)
    (connected : forwarder.ConnectedJob endpoints job)
    (stepped : JobStep pcpp forwarder call job answer effect next) (index : Nat) :
    forwarder.ConnectedEffect endpoints effect ∧
      (forwarder.perform index call effect).ConnectedJob endpoints next := by
  cases stepped with
  | udp stepped =>
      refine ⟨?_, True.intro⟩
      cases stepped <;> exact True.intro
  | tcp stepped => exact stepped.connects all reported known owns connected index
  | reader stepped =>
      have kept := perform_keepsConnected ownsEffect reported known index
      exact ⟨stepped.connects connected, kept _ _ connected⟩

private theorem perform_connectedConnections {forwarder : Forwarder} {call : ForwardCall}
    {effect : Effect} {endpoints : Endpoints} (all : Connected forwarder)
    (connected : forwarder.ConnectedEffect endpoints effect) (index : Nat)
    (kept : KeepsConnected forwarder (forwarder.perform index call effect)) :
    ∀ key connection,
      (forwarder.perform index call effect).tcpConnections.lookup key = some connection →
        ∃ endpoints : Endpoints, key = endpoints.key ∧
          (forwarder.perform index call effect).ConnectedTo connection.socket endpoints := by
  intro key connection located
  have old : forwarder.tcpConnections.lookup key = some connection →
      ∃ endpoints : Endpoints, key = endpoints.key ∧
        (forwarder.perform index call effect).ConnectedTo connection.socket endpoints := by
    intro registered
    obtain ⟨found, sameKey, connects⟩ := all.connections key connection registered
    exact ⟨found, sameKey, kept _ _ connects⟩
  cases effect with
  | register filed registered =>
      by_cases same : key = filed
      · subst same
        rw [perform, AList.lookup_insert, Option.some.injEq] at located
        subst located
        exact ⟨endpoints, connected.1, connected.2⟩
      · rw [perform, AList.lookup_insert_ne same] at located
        exact old located
  | remove filed =>
      by_cases same : key = filed
      · subst same
        rw [perform, AList.lookup_erase] at located
        cases located
      · rw [perform, AList.lookup_erase_ne same] at located
        exact old located
  | none | newDatagramSocket | closeDatagramSocket | newSocket | connect | close | output | launch =>
      exact old located

private theorem Connected.resume {forwarder : Forwarder} {index : Nat} {task : Task} {answer : Answer}
    {effect : Effect} {job : Job} (all : Connected forwarder) (owned : Owned forwarder)
    (known : task.call.traffic.protocolByte ≠ .unknown)
    (located : forwarder.tasks[index]? = some task)
    (stepped : JobStep pcpp forwarder task.call task.job answer effect job) :
    Connected (forwarder.resume task.call index effect job) := by
  have member := List.mem_of_getElem? located
  obtain ⟨endpoints, reported, connected⟩ := all.tasks task member
  obtain ⟨ownsEffect, -⟩ := stepped.owns owned (owned.tasks task member) index
  obtain ⟨connectedEffect, connectedNext⟩ := stepped.connects all reported known
    (owned.tasks task member) ownsEffect connected index
  have kept := perform_keepsConnected ownsEffect reported known index
  refine ⟨perform_connectedConnections all connectedEffect index kept, ?_, ?_⟩
  · apply TaskPool.forall_advance
    · intro old inPool
      obtain ⟨other, otherReported, otherConnected⟩ := all.tasks old inPool
      exact ⟨other, otherReported, kept.job otherConnected⟩
    · exact ⟨endpoints, reported, connectedNext⟩
    · intro new inLaunched
      cases effect with
      | launch launched =>
          rw [List.mem_singleton.mp inLaunched]
          exact ⟨endpoints, reported, connectedEffect⟩
      | none | newDatagramSocket | closeDatagramSocket | newSocket | connect | close | register
      | remove | output => cases inLaunched
  · intro output written
    have old : output ∈ forwarder.outputs → ∃ endpoints, output.call.traffic.Reports endpoints ∧
        (forwarder.resume task.call index effect job).ConnectedContent endpoints output.content := by
      intro before
      obtain ⟨other, otherReported, otherConnected⟩ := all.outputs output before
      exact ⟨other, otherReported, kept.content otherConnected⟩
    change output ∈ (forwarder.perform index task.call effect).outputs at written
    rw [perform_outputs] at written
    split at written
    · rcases List.mem_append.mp written with before | single
      · exact old before
      · rw [List.mem_singleton.mp single]
        exact ⟨endpoints, reported, connectedEffect⟩
    · exact old written

/-- The app's packet has the endpoints that `parseRealPacket` prints. -/
def Label.Printed : Label → Prop
  | .forwardPacket call _ => ∃ endpoints, call.traffic.Reports endpoints
  | .overwrite _ | .task _ _ | .cleanup | .clear => True

private theorem closeAll_keepsConnected (forwarder : Forwarder) :
    KeepsConnected forwarder forwarder.closeAll := by
  intro socket endpoints connected
  exact closeAll_preserves (fun sockets => ∃ opened ∈ sockets[socket]?, opened.Connects endpoints)
    connected fun _ connected _ _ => connects_modify (fun _ _ connects => connects) connected

theorem Connected.step {forwarder next : Forwarder} {label : Label} (all : Connected forwarder)
    (owned : Owned forwarder) (known : ∀ task ∈ forwarder.tasks, task.call.traffic.protocolByte ≠ .unknown)
    (printed : label.Printed) (taken : Forwarder.step pcpp forwarder label = some next) :
    Connected next := by
  cases step_forwarder taken with
  | overwritten fits => exact ⟨all.connections, all.tasks, all.outputs⟩
  | launched held first =>
      refine ⟨all.connections, fun task member => ?_, all.outputs⟩
      rcases List.mem_append.mp member with old | single
      · exact all.tasks task old
      · obtain ⟨endpoints, reported⟩ := printed
        rw [List.mem_singleton.mp single]
        refine ⟨endpoints, reported, ?_⟩
        rcases first with ⟨-, rfl⟩ | ⟨-, rfl⟩ <;> exact True.intro
  | passedThrough held other =>
      refine ⟨all.connections, all.tasks, fun output member => ?_⟩
      rcases List.mem_append.mp member with old | single
      · exact all.outputs output old
      · obtain ⟨endpoints, reported⟩ := printed
        rw [List.mem_singleton.mp single]
        exact ⟨endpoints, reported, True.intro⟩
  | passThroughFailed other => exact all
  | resumed located stepped =>
      exact all.resume owned (known _ (List.mem_of_getElem? located)) located stepped
  | closedAll =>
      have kept := closeAll_keepsConnected forwarder
      refine ⟨fun key connection located => ?_, fun task member => ?_, fun output member => ?_⟩
      · obtain ⟨endpoints, sameKey, connects⟩ := all.connections key connection located
        exact ⟨endpoints, sameKey, kept _ _ connects⟩
      · obtain ⟨endpoints, reported, connected⟩ := all.tasks task member
        exact ⟨endpoints, reported, kept.job connected⟩
      · obtain ⟨endpoints, reported, connected⟩ := all.outputs output member
        exact ⟨endpoints, reported, kept.content connected⟩
  | cleared pending => exact ⟨fun _ _ located => (by cases located), all.tasks, all.outputs⟩

/-- If every packet has printed endpoints, every socket in use is connected. -/
theorem connected_of_run {labels : List Label} {final : Forwarder}
    (printed : ∀ label ∈ labels, label.Printed)
    (ran : Transition.run (Forwarder.step pcpp) initial labels = some final) : Connected final := by
  refine ((Transition.guarded_of_labels initial printed).preserves (fun forwarder =>
    Transition.Reachable (Forwarder.step pcpp) initial forwarder ∧ Connected forwarder) ?_ ?_ ran).2
  · rintro forwarder label next ⟨reachable, all⟩ guarded taken
    refine ⟨reachable.tail taken, ?_⟩
    obtain ⟨before, reached⟩ := reachable
    have known : ∀ task ∈ forwarder.tasks, task.call.traffic.protocolByte ≠ .unknown := by
      intro task member
      rw [(((builtInvariant pcpp).run reached).1 task member).1]
      cases task.job <;> exact nofun
    exact all.step (owned_of_run reached) known guarded taken
  · exact ⟨.refl _, fun _ _ located => (by cases located), List.forall_mem_nil _,
      List.forall_mem_nil _⟩

end Forwarder

end FirewallVpn
