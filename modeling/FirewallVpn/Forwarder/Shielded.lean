import FirewallVpn.Forwarder.DatagramSockets
import FirewallVpn.Forwarder.Holders

/-! Sockets and the tunnel. What the firewall sends on its own stays out of its TUN only
if each socket has been handed to `protect` before anything goes through it. No variable
keeps account of that: it rests on the order of the statements, and on who gets hold of a
socket. -/

set_option autoImplicit false

namespace FirewallVpn

inductive NetSocket where
  | datagram (socket : Nat)
  | tcp (socket : Nat)
  deriving DecidableEq

namespace Forwarder

/-- The socket for which the statement calls `protect`. -/
def protectsSocket : Job → Option NetSocket
  | .udp (.protect socket _) => some (.datagram socket)
  | .tcp (.protect socket) => some (.tcp socket)
  | .udp _ | .tcp _ | .reader _ _ => none

/-- The socket through which the statement reaches the network. -/
def reachesThrough : Job → Option NetSocket
  | .udp (.send socket _) | .udp (.receive socket) => some (.datagram socket)
  | .tcp (.connect socket) => some (.tcp socket)
  | .tcp (.write connection _ _) | .reader connection .read => some (.tcp connection.socket)
  | .udp _ | .tcp _ | .reader _ _ => none

/-- The socket the coroutine goes on to use, behind the call of `protect`. -/
def inUse : Job → Option NetSocket
  | .udp (.soTimeout socket _) | .udp (.getByName socket _) | .udp (.send socket _)
  | .udp (.receive socket) => some (.datagram socket)
  | .tcp (.soTimeout socket) | .tcp (.connect socket) | .tcp (.register socket) =>
      some (.tcp socket)
  | .tcp (.buildSynAck connection) | .tcp (.writeSynAck connection _)
  | .tcp (.startReader connection) | .tcp (.write connection _ _) | .reader connection _ =>
      some (.tcp connection.socket)
  | .udp _ | .tcp _ => none

/-- `protect` returns for the socket. -/
def Protects (socket : NetSocket) (forwarder : Forwarder) : Label → Prop
  | .task index answer =>
      answer = .returns ∧ ∃ task ∈ forwarder.tasks[index]?, protectsSocket task.job = some socket
  | .overwrite _ | .forwardPacket _ _ | .cleanup | .clear => False

/-- Something is sent or received through the socket, or it is connected, or fails at that. -/
def Reaches (socket : NetSocket) (forwarder : Forwarder) : Label → Prop
  | .task index _ => ∃ task ∈ forwarder.tasks[index]?, reachesThrough task.job = some socket
  | .overwrite _ | .forwardPacket _ _ | .cleanup | .clear => False

instance (socket : NetSocket) (forwarder : Forwarder) :
    ∀ label, Decidable (Protects socket forwarder label)
  | .task _ _ => inferInstanceAs (Decidable (_ ∧ ∃ task ∈ _, _))
  | .overwrite _ | .forwardPacket _ _ | .cleanup | .clear => .isFalse id

instance (socket : NetSocket) (forwarder : Forwarder) :
    ∀ label, Decidable (Reaches socket forwarder label)
  | .task _ _ => inferInstanceAs (Decidable (∃ task ∈ _, _))
  | .overwrite _ | .forwardPacket _ _ | .cleanup | .clear => .isFalse id

variable {pcpp : PcapPlusPlus} {forwarder next : Forwarder} {label : Label}

theorem inUse_of_reaches {job : Job} {socket : NetSocket}
    (reaches : reachesThrough job = some socket) : inUse job = some socket := by
  cases job with
  | udp stage =>
      cases stage with
      | send | receive => exact reaches
      | extractUdpPayload | create | protect | soTimeout | getByName | build | write | close
      | done => cases reaches
  | tcp stage =>
      cases stage with
      | connect | write => exact reaches
      | getTcpFlags | extractTcpPayload | create | protect | soTimeout | register | buildSynAck
      | writeSynAck | startReader | lookup | remove | close | done => cases reaches
  | reader connection stage =>
      cases stage with
      | read => exact reaches
      | isClosed | build | write | remove | close | done => cases reaches

private theorem finTest_inUse (finFollows : Bool) : inUse (.tcp (finTest finFollows)) = none := by
  cases finFollows <;> rfl

private theorem inUse_of_first {call : ForwardCall} {job : Job}
    (first : call.traffic.protocolByte = .udp ∧ job = .udp .extractUdpPayload ∨
      call.traffic.protocolByte = .tcp ∧ job = .tcp .getTcpFlags) : inUse job = none := by
  rcases first with ⟨-, rfl⟩ | ⟨-, rfl⟩ <;> rfl

/-- A coroutine gets to use a socket by its own call of `protect`, or from the map. -/
theorem JobStep.inUse {call : ForwardCall} {job after : Job} {answer : Answer} {effect : Effect}
    (stepped : JobStep pcpp forwarder call job answer effect after) {socket : NetSocket}
    (uses : inUse after = some socket) :
    Forwarder.inUse job = some socket ∨
      (answer = .returns ∧ protectsSocket job = some socket) ∨
        ∃ connection, forwarder.tcpConnections.lookup call.key = some connection ∧
          socket = .tcp connection.socket := by
  cases stepped with
  | udp stepped =>
      cases stepped with
      | shielded => exact .inr (.inl ⟨rfl, uses⟩)
      | timed | resolved | sent => exact .inl uses
      | noPayload | extracted | created | abandoned | received | timedOut | receiveFailed
      | buildFailed | built | buildThrew | written | writeFailed | closed => cases uses
  | tcp stepped =>
      cases stepped with
      | shielded => exact .inr (.inl ⟨rfl, uses⟩)
      | timed | connected | registered | built | synAckWritten => exact .inl uses
      | @found flags payload connection located nonempty =>
          exact .inr (.inr ⟨connection, located, (Option.some.inj uses).symm⟩)
      | nothingToWrite | written | nothingToRemove | closed =>
          rw [finTest_inUse] at uses
          cases uses
      | flagsRead | synSeen | extracted | created | buildFailed | abandoned | readerStarted
      | writeInterrupted | writeFailed | removed => cases uses
  | reader stepped => exact .inl uses

theorem inUse_of_registering {job : Job} {socket : Nat}
    (registering : holdOf job = .registering socket) : inUse job = some (.tcp socket) := by
  cases job with
  | udp stage => cases registering
  | tcp stage =>
      cases stage with
      | register =>
          cases registering
          rfl
      | getTcpFlags | extractTcpPayload | create | protect | soTimeout | connect | buildSynAck
      | writeSynAck | startReader | lookup | write | remove | close | done => cases registering
  | reader connection stage => cases stage <;> cases registering

theorem JobStep.launchedInUse {call : ForwardCall} {job after launched : Job} {answer : Answer}
    (stepped : JobStep pcpp forwarder call job answer (.launch launched) after) :
    Forwarder.inUse launched = Forwarder.inUse job := by
  cases stepped with
  | udp stepped => cases stepped
  | tcp stepped =>
      cases stepped with
      | readerStarted => rfl
  | reader stepped => cases stepped

/-- Only these sockets are in use, and the map leads to no others. -/
structure UsesOnly (allowed : NetSocket → Prop) (forwarder : Forwarder) : Prop where
  tasks : ∀ task ∈ forwarder.tasks, ∀ socket, inUse task.job = some socket → allowed socket
  entries : ∀ key connection, forwarder.tcpConnections.lookup key = some connection →
    allowed (.tcp connection.socket)

variable {allowed wider : NetSocket → Prop}

theorem UsesOnly.mono (usesOnly : UsesOnly allowed forwarder)
    (weaker : ∀ socket, allowed socket → wider socket) : UsesOnly wider forwarder where
  tasks task member socket uses := weaker socket (usesOnly.tasks task member socket uses)
  entries key connection filed := weaker _ (usesOnly.entries key connection filed)

private theorem UsesOnly.resume {index : Nat} {task : Task} {answer : Answer} {effect : Effect}
    {job : Job} (usesOnly : UsesOnly allowed forwarder) (owned : Owned forwarder)
    (located : forwarder.tasks[index]? = some task)
    (protects : ∀ socket, answer = .returns → protectsSocket task.job = some socket →
      allowed socket)
    (stepped : JobStep pcpp forwarder task.call task.job answer effect job) :
    UsesOnly allowed (forwarder.resume task.call index effect job) := by
  have inPool := List.mem_of_getElem? located
  have current := usesOnly.tasks task inPool
  constructor
  · refine TaskPool.forall_advance usesOnly.tasks ?_ ?_
    · intro socket uses
      rcases stepped.inUse uses with kept | ⟨returned, granted⟩ | ⟨connection, filed, rfl⟩
      · exact current socket kept
      · exact protects socket returned granted
      · exact usesOnly.entries _ connection filed
    · intro started member socket uses
      cases effect with
      | launch launched =>
          rw [List.mem_singleton.mp member, stepped.launchedInUse] at uses
          exact current socket uses
      | none | newDatagramSocket | closeDatagramSocket | newSocket | connect | close | register
      | remove | output => cases member
  · intro key connection filed
    have hold := stepped.hold (owned.tasks task inPool)
    rcases hold.files filed with ⟨before, -⟩ | ⟨registering, -⟩
    · exact usesOnly.entries key connection before
    · exact current _ (inUse_of_registering registering)

theorem UsesOnly.step (usesOnly : UsesOnly allowed forwarder) (owned : Owned forwarder)
    (protects : ∀ socket, Protects socket forwarder label → allowed socket)
    (taken : Forwarder.step pcpp forwarder label = some next) : UsesOnly allowed next := by
  cases step_forwarder taken with
  | overwritten | passedThrough | passThroughFailed | closedAll =>
      exact ⟨usesOnly.tasks, usesOnly.entries⟩
  | cleared => exact ⟨usesOnly.tasks, fun _ _ filed => (by cases filed)⟩
  | @launched call job held first =>
      refine ⟨fun task member socket uses => ?_, usesOnly.entries⟩
      rcases List.mem_append.mp member with old | single
      · exact usesOnly.tasks task old socket uses
      · rw [List.mem_singleton.mp single, inUse_of_first first] at uses
        cases uses
  | @resumed index task answer effect job located stepped =>
      exact usesOnly.resume owned located
        (fun socket returned granted => protects socket ⟨returned, task, located, granted⟩) stepped

theorem usesOnly_of_run {labels : List Label} {final : Forwarder}
    (ran : Transition.run (Forwarder.step pcpp) initial labels = some final) :
    UsesOnly (fun socket => Transition.Occurs (Forwarder.step pcpp) (Protects socket) initial labels)
      final := by
  refine Transition.run_induction (fun labels forwarder => UsesOnly
    (fun socket => Transition.Occurs (Forwarder.step pcpp) (Protects socket) initial labels) forwarder)
    ?_ ⟨List.forall_mem_nil _, fun _ _ filed => (by cases filed)⟩ ran
  intro labels forwarder label next reached usesOnly taken
  refine (usesOnly.mono fun socket before => ?_).step (owned_of_run reached) (fun socket now => ?_) taken
  · exact (Transition.occurs_append_singleton reached).mpr (.inl before)
  · exact (Transition.occurs_append_singleton reached).mpr (.inr now)

/-! Each request is sent once, through a socket of its own. -/

def sentThrough : Content → Option Nat
  | .datagram socket _ => some socket
  | .passThrough _ | .udpResponse _ _ | .synAck _ _ | .data _ _ _ | .upstream _ _ => none

/-- The sockets of the datagrams that have been sent. -/
def sentSockets (forwarder : Forwarder) : List Nat :=
  forwarder.outputs.filterMap fun output => sentThrough output.content

/-- The socket of a request that has yet to be sent. -/
def unsentSocket : Job → Option Nat
  | .udp (.protect socket _) | .udp (.soTimeout socket _) | .udp (.getByName socket _)
  | .udp (.send socket _) => some socket
  | .udp _ | .tcp _ | .reader _ _ => none

theorem held_of_unsent {job : Job} {socket : Nat} (unsent : unsentSocket job = some socket) :
    datagramSocketOf job = some socket := by
  cases job with
  | udp stage =>
      cases stage with
      | protect | soTimeout | getByName | send => exact unsent
      | extractUdpPayload | create | receive | build | write | close | done => cases unsent
  | tcp | reader => cases unsent

def effectSends : Effect → Option Nat
  | .output content => sentThrough content
  | .none | .newDatagramSocket | .closeDatagramSocket _ | .newSocket | .connect _ | .close _
  | .register _ _ | .remove _ | .launch _ => none

theorem sentSockets_perform (forwarder : Forwarder) (index : Nat) (call : ForwardCall)
    (effect : Effect) :
    sentSockets (forwarder.perform index call effect) =
      sentSockets forwarder ++ (effectSends effect).toList := by
  cases effect with
  | output content =>
      simp only [sentSockets, perform, List.filterMap_append, effectSends]
      cases through : sentThrough content <;> simp [through]
  | none | newDatagramSocket | closeDatagramSocket | newSocket | connect | close | register | remove
  | launch => exact (List.append_nil _).symm

/-- How a statement changes the request that its coroutine has yet to send. -/
inductive SendStep (forwarder : Forwarder) : Option Nat → Effect → Option Nat → Prop where
  | created : SendStep forwarder none .newDatagramSocket (some forwarder.datagramSockets.length)
  | kept {unsent after : Option Nat} {effect : Effect} (silent : effectSends effect = none)
      (same : after = unsent ∨ after = none) : SendStep forwarder unsent effect after
  | sent {socket : Nat} {payload : List UInt8} :
      SendStep forwarder (some socket) (.output (.datagram socket payload)) none

theorem JobStep.sends {call : ForwardCall} {job after : Job} {answer : Answer} {effect : Effect}
    (stepped : JobStep pcpp forwarder call job answer effect after) :
    SendStep forwarder (unsentSocket job) effect (unsentSocket after) := by
  cases stepped with
  | udp stepped =>
      cases stepped with
      | created => exact .created
      | sent => exact .sent
      | shielded | timed | resolved => exact .kept rfl (.inl rfl)
      | noPayload | extracted | abandoned | received | timedOut | receiveFailed | buildFailed | built
      | buildThrew | written | writeFailed | closed => exact .kept rfl (.inr rfl)
  | tcp stepped => cases stepped <;> exact .kept rfl (.inl rfl)
  | reader stepped => cases stepped <;> exact .kept rfl (.inl rfl)

/-- What a step sends, it sends through the socket of its own coroutine. -/
theorem SendStep.own {unsent after : Option Nat} {effect : Effect} {socket : Nat}
    (stepped : SendStep forwarder unsent effect after) (sends : effectSends effect = some socket) :
    unsent = some socket ∧ after = none := by
  cases stepped with
  | created => cases sends
  | kept silent =>
      rw [silent] at sends
      cases sends
  | sent =>
      cases sends
      exact ⟨rfl, rfl⟩

theorem SendStep.takes {unsent after : Option Nat} {effect : Effect} {socket : Nat}
    (stepped : SendStep forwarder unsent effect after) (taken : after = some socket) :
    unsent = some socket ∨ socket = forwarder.datagramSockets.length := by
  cases stepped with
  | created => exact .inr (Option.some.inj taken).symm
  | kept silent same =>
      rcases same with same | same
      · exact .inl (same.symm.trans taken)
      · rw [same] at taken
        cases taken
  | sent => cases taken

structure SentOnce (forwarder : Forwarder) : Prop where
  once : (sentSockets forwarder).Nodup
  within : ∀ socket ∈ sentSockets forwarder, socket < forwarder.datagramSockets.length
  unsent : ∀ task ∈ forwarder.tasks, ∀ socket, unsentSocket task.job = some socket →
    socket ∉ sentSockets forwarder

private theorem SentOnce.resume {index : Nat} {task : Task} {answer : Answer} {effect : Effect}
    {job : Job} (sentOnce : SentOnce forwarder) (held : DatagramsHeld forwarder)
    (located : forwarder.tasks[index]? = some task)
    (stepped : JobStep pcpp forwarder task.call task.job answer effect job) :
    SentOnce (forwarder.resume task.call index effect job) := by
  have inPool := List.mem_of_getElem? located
  have sends := stepped.sends
  have more : sentSockets (forwarder.resume task.call index effect job) =
      sentSockets forwarder ++ (effectSends effect).toList :=
    sentSockets_perform forwarder index task.call effect
  constructor
  · rw [more]
    cases through : effectSends effect with
    | none => simpa using sentOnce.once
    | some socket =>
        have new := sentOnce.unsent task inPool socket (sends.own through).1
        rw [Option.toList_some, ← List.concat_eq_append]
        exact sentOnce.once.concat new
  · intro socket member
    rw [more] at member
    apply stepped.datagramSocket.within
    rcases List.mem_append.mp member with old | new
    · exact sentOnce.within socket old
    · have own := sends.own (Option.mem_toList.mp new)
      exact datagram_lt_of_open (held.opened task inPool socket (held_of_unsent own.1))
  · intro member inAfter socket unsent sent
    rw [more] at sent
    obtain ⟨position, reached⟩ := List.mem_iff_getElem?.mp inAfter
    rcases TaskPool.getElem?_advance_cases located reached with
      ⟨rfl, rfl⟩ | ⟨distinct, old⟩ | ⟨-, new⟩
    · rcases List.mem_append.mp sent with before | now
      · rcases sends.takes unsent with kept | rfl
        · exact sentOnce.unsent task inPool socket kept before
        · exact absurd (sentOnce.within _ before) (Nat.lt_irrefl _)
      · rw [(sends.own (Option.mem_toList.mp now)).2] at unsent
        cases unsent
    · rcases List.mem_append.mp sent with before | now
      · exact sentOnce.unsent member (List.mem_of_getElem? old) socket unsent before
      · have own := sends.own (Option.mem_toList.mp now)
        exact distinct (held.exclusive _ _ member task socket old located (held_of_unsent unsent)
          (held_of_unsent own.1))
    · obtain ⟨connection, rfl⟩ := stepped.launched member (List.mem_of_getElem? new)
      cases unsent

private theorem unsent_of_first {call : ForwardCall} {job : Job}
    (first : call.traffic.protocolByte = .udp ∧ job = .udp .extractUdpPayload ∨
      call.traffic.protocolByte = .tcp ∧ job = .tcp .getTcpFlags) : unsentSocket job = none := by
  rcases first with ⟨-, rfl⟩ | ⟨-, rfl⟩ <;> rfl

theorem SentOnce.step (sentOnce : SentOnce forwarder) (held : DatagramsHeld forwarder)
    (taken : Forwarder.step pcpp forwarder label = some next) : SentOnce next := by
  cases step_forwarder taken with
  | overwritten | passThroughFailed | closedAll | cleared =>
      exact ⟨sentOnce.once, sentOnce.within, sentOnce.unsent⟩
  | @passedThrough call _ other =>
      have same : sentSockets { forwarder with
          outputs := forwarder.outputs ++ [⟨none, call, .passThrough call.packet⟩] } =
          sentSockets forwarder := by
        simp [sentSockets, sentThrough]
      constructor
      · rw [same]
        exact sentOnce.once
      · rw [same]
        exact sentOnce.within
      · rw [same]
        exact sentOnce.unsent
  | @launched call job _ first =>
      refine ⟨sentOnce.once, sentOnce.within, fun task member socket unsent => ?_⟩
      rcases List.mem_append.mp member with old | single
      · exact sentOnce.unsent task old socket unsent
      · rw [List.mem_singleton.mp single, unsent_of_first first] at unsent
        cases unsent
  | resumed located stepped => exact sentOnce.resume held located stepped

theorem sentOnce_of_run {labels : List Label} {final : Forwarder}
    (ran : Transition.run (Forwarder.step pcpp) initial labels = some final) : SentOnce final := by
  refine Transition.run_induction (fun _ forwarder => SentOnce forwarder) ?_ ?_ ran
  · intro labels forwarder label next reached sentOnce taken
    exact sentOnce.step (datagramsHeld_of_run reached) taken
  · exact ⟨List.nodup_nil, List.forall_mem_nil _, List.forall_mem_nil _⟩

/-! Each socket for a connection is connected once, by the coroutine that made it. -/

/-- What is still to be connected is open, and nobody has connected it. -/
def Unconnected (forwarder : Forwarder) : Prop :=
  ∀ task ∈ forwarder.tasks, ∀ socket, holdOf task.job = .connecting socket →
    forwarder.sockets[socket]? =
      some { openedFor := task.call.key, remote := none, closed := false }

/-- A step leaves the sockets alone that its coroutine is not in charge of. -/
theorem HoldStep.spares {key : String} {hold after : Hold} {effect : Effect} {socket : Nat}
    (stepped : HoldStep forwarder key hold effect after) (unheld : hold.socket ≠ some socket)
    (within : socket < forwarder.sockets.length) (index : Nat) (call : ForwardCall) :
    (forwarder.perform index call effect).sockets[socket]? = forwarder.sockets[socket]? := by
  cases stepped with
  | unheld quiet => rw [(perform_quiet quiet forwarder index call).2]
  | opened => exact List.getElem?_append_left within
  | prepared | abandoned | registered | removed => rfl
  | connected | closed =>
      refine List.getElem?_modify_ne _ _ fun same => unheld ?_
      rw [same]
      rfl

private theorem Unconnected.resume {index : Nat} {task : Task} {answer : Answer} {effect : Effect}
    {job : Job} (unconnected : Unconnected forwarder) (owned : Owned forwarder)
    (exclusive : Exclusive forwarder) (located : forwarder.tasks[index]? = some task)
    (stepped : JobStep pcpp forwarder task.call task.job answer effect job) :
    Unconnected (forwarder.resume task.call index effect job) := by
  have inPool := List.mem_of_getElem? located
  have hold := stepped.hold (owned.tasks task inPool)
  intro member inAfter socket connecting
  obtain ⟨position, reached⟩ := List.mem_iff_getElem?.mp inAfter
  rcases TaskPool.getElem?_advance_cases located reached with
    ⟨rfl, rfl⟩ | ⟨distinct, old⟩ | ⟨-, new⟩
  · have current := unconnected task inPool
    simp only at connecting
    generalize holdOf task.job = before, holdOf job = after at hold current connecting
    cases hold with
    | opened =>
        cases connecting
        exact List.getElem?_concat_length
    | prepared => exact current socket connecting
    | unheld | connected | abandoned | registered | removed | closed => cases connecting
  · have found := unconnected member (List.mem_of_getElem? old) socket connecting
    have holds : heldBy member = some socket := heldBy_of_hold connecting
    refine (hold.spares (fun held => ?_) (List.getElem?_eq_some_iff.mp found).1 index
      task.call).trans found
    exact distinct (exclusive.tasks _ _ member task socket old located holds held)
  · obtain ⟨connection, rfl⟩ := stepped.launched member (List.mem_of_getElem? new)
    cases connecting

theorem Unconnected.step (unconnected : Unconnected forwarder) (owned : Owned forwarder)
    (exclusive : Exclusive forwarder) (taken : Forwarder.step pcpp forwarder label = some next) :
    Unconnected next := by
  cases step_forwarder taken with
  | overwritten | passedThrough | passThroughFailed | cleared => exact unconnected
  | @launched call job _ first =>
      intro task member socket connecting
      rcases List.mem_append.mp member with old | single
      · exact unconnected task old socket connecting
      · rw [List.mem_singleton.mp single, hold_of_first first] at connecting
        cases connecting
  | resumed located stepped => exact unconnected.resume owned exclusive located stepped
  | closedAll =>
      intro task member socket connecting
      refine closeAll_preserves (fun sockets => sockets[socket]? = some _)
        (unconnected task member socket connecting) ?_
      intro sockets kept entry filed
      have distinct : entry.snd.socket ≠ socket := by
        intro same
        subst same
        exact exclusive.entries task member entry.fst entry.snd (AList.mem_lookup_iff.mpr filed)
          (heldBy_of_hold connecting)
      exact (List.getElem?_modify_ne _ _ distinct).trans kept

theorem unconnected_of_run {labels : List Label} {final : Forwarder}
    (ran : Transition.run (Forwarder.step pcpp) initial labels = some final) : Unconnected final := by
  refine Transition.run_induction (fun _ forwarder => Unconnected forwarder) ?_ ?_ ran
  · intro labels forwarder label next reached unconnected taken
    exact unconnected.step (owned_of_run reached) (exclusive_of_run reached) taken
  · intro task member
    cases member

/-- How the forwarder reaches the network: nothing goes through a socket, and none is
connected, unless `protect` has returned for it before; a socket is connected once at most,
and carries one datagram at most. -/
structure Sheltered (pcpp : PcapPlusPlus) (labels : List Label) (final : Forwarder) : Prop where
  protects : ∀ socket,
    Transition.Preceded (step pcpp) (Reaches socket) (Protects socket) initial labels
  connects : ∀ task ∈ final.tasks, ∀ socket, task.job = .tcp (.connect socket) →
    final.sockets[socket]? = some { openedFor := task.call.key, remote := none, closed := false }
  sends : (sentSockets final).Nodup

theorem sheltered_of_run {labels : List Label} {final : Forwarder}
    (ran : Transition.run (step pcpp) initial labels = some final) :
    Sheltered pcpp labels final where
  protects socket before label forwarder _ reached reaches := by
    cases label with
    | task index answer =>
        obtain ⟨task, located, through⟩ := reaches
        exact (usesOnly_of_run reached).tasks task (List.mem_of_getElem? located) socket
          (inUse_of_reaches through)
    | overwrite | forwardPacket | cleanup | clear => exact reaches.elim
  connects task member socket connecting := by
    refine unconnected_of_run ran task member socket ?_
    rw [connecting]
    rfl
  sends := (sentOnce_of_run ran).once

theorem handshake_sheltered :
    ∃ final, Transition.run (step .headerRules) initial (handshake 7 ++ readChunk [0x48, 0x69]) =
        some final ∧ Sheltered .headerRules (handshake 7 ++ readChunk [0x48, 0x69]) final ∧
      Transition.Occurs (step .headerRules) (Protects (.tcp 0)) initial
        (handshake 7 ++ readChunk [0x48, 0x69]) := by
  have observed : (Transition.run (step .headerRules) initial
      (handshake 7 ++ readChunk [0x48, 0x69])).isSome = true := by
    decide +kernel
  obtain ⟨final, ran⟩ := Option.isSome_iff_exists.mp observed
  have reaches : Transition.Occurs (step .headerRules) (Reaches (.tcp 0)) initial
      (handshake 7 ++ readChunk [0x48, 0x69]) := by
    decide +kernel
  have sheltered := sheltered_of_run ran
  exact ⟨final, ran, sheltered, (sheltered.protects (.tcp 0)).occurs ran reaches⟩

end Forwarder

end FirewallVpn
