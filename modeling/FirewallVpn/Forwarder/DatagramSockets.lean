import FirewallVpn.Forwarder.Datagrams

/-! The socket of a UDP request. Only the inner `try` of `forwardUdpPacket` closes
it; what throws before that is caught and logged outside, where nothing does. -/

set_option autoImplicit false

namespace FirewallVpn

/-- The socket in the local variable `socket`, until it is closed. -/
def UdpStage.socket : UdpStage → Option Nat
  | .protect socket _ | .soTimeout socket _ | .getByName socket _ | .send socket _ | .receive socket
  | .build socket _ | .write socket _ _ | .close socket => some socket
  | .extractUdpPayload | .create _ | .done => none

namespace Forwarder

/-- A socket that does not exist counts as closed. -/
def datagramClosed (forwarder : Forwarder) (socket : Nat) : Bool :=
  (forwarder.datagramSockets[socket]?).elim true DatagramSocket.closed

def datagramSocketOf : Job → Option Nat
  | .udp stage => stage.socket
  | .tcp _ | .reader _ _ => none

private theorem datagram_of_first {call : ForwardCall} {job : Job}
    (first : call.traffic.protocolByte = .udp ∧ job = .udp .extractUdpPayload ∨
      call.traffic.protocolByte = .tcp ∧ job = .tcp .getTcpFlags) : datagramSocketOf job = none := by
  rcases first with ⟨-, rfl⟩ | ⟨-, rfl⟩ <;> rfl

/-- What an answer does to the duty of closing a datagram socket. -/
inductive Duty where
  | unchanged
  | arises
  /-- The exception passes by the `finally` that closes the socket. -/
  | forgotten
  deriving DecidableEq

def dutyOf : Job → Answer → Duty
  | .udp (.create _), .returns => .arises
  | .udp (.protect _ _), .throws | .udp (.soTimeout _ _), .throws | .udp (.getByName _ _), .throws
  | .udp (.send _ _), .throws => .forgotten
  | _, _ => .unchanged

/-- The step is the coroutine's `DatagramSocket()`. -/
def CreatesDatagram (index socket : Nat) (forwarder : Forwarder) : Label → Prop
  | .task moved answer => moved = index ∧ socket = forwarder.datagramSockets.length ∧
      ∃ task ∈ forwarder.tasks[index]?, dutyOf task.job answer = .arises
  | .overwrite _ | .forwardPacket _ _ | .cleanup | .clear => False

/-- In this step `protect`, the setting of the timeout, `getByName` or `send` of the
coroutine throws. -/
def ThrowsUnguarded (index : Nat) (forwarder : Forwarder) : Label → Prop
  | .task moved answer => moved = index ∧
      ∃ task ∈ forwarder.tasks[index]?, dutyOf task.job answer = .forgotten
  | .overwrite _ | .forwardPacket _ _ | .cleanup | .clear => False

instance (index socket : Nat) (forwarder : Forwarder) :
    ∀ label, Decidable (CreatesDatagram index socket forwarder label)
  | .task _ _ => inferInstanceAs (Decidable (_ ∧ _ ∧ ∃ task ∈ _, _))
  | .overwrite _ | .forwardPacket _ _ | .cleanup | .clear => .isFalse id

instance (index : Nat) (forwarder : Forwarder) :
    ∀ label, Decidable (ThrowsUnguarded index forwarder label)
  | .task _ _ => inferInstanceAs (Decidable (_ ∧ ∃ task ∈ _, _))
  | .overwrite _ | .forwardPacket _ _ | .cleanup | .clear => .isFalse id

/-- How a statement with this duty changes the datagram socket of its coroutine. -/
inductive SocketStep (forwarder : Forwarder) : Option Nat → Duty → Effect → Option Nat → Prop where
  | kept {held : Option Nat} {effect : Effect} (same : ∀ (index : Nat) (call : ForwardCall),
      (forwarder.perform index call effect).datagramSockets = forwarder.datagramSockets) :
      SocketStep forwarder held .unchanged effect held
  | created : SocketStep forwarder none .arises .newDatagramSocket
      (some forwarder.datagramSockets.length)
  | forgotten {socket : Nat} : SocketStep forwarder (some socket) .forgotten .none none
  | closed {socket : Nat} :
      SocketStep forwarder (some socket) .unchanged (.closeDatagramSocket socket) none

variable {pcpp : PcapPlusPlus} {forwarder next : Forwarder} {index socket : Nat} {label : Label}

private theorem abandons_socket {stage : UdpStage} (abandons : stage.abandons) :
    SocketStep forwarder (datagramSocketOf (.udp stage)) (dutyOf (.udp stage) .throws) .none none := by
  cases stage with
  | create => exact .kept fun _ _ => rfl
  | protect | soTimeout | getByName | send => exact .forgotten
  | extractUdpPayload | receive | build | write | close | done => cases abandons

theorem JobStep.datagramSocket {call : ForwardCall} {job after : Job} {answer : Answer}
    {effect : Effect} (stepped : JobStep pcpp forwarder call job answer effect after) :
    SocketStep forwarder (datagramSocketOf job) (dutyOf job answer) effect (datagramSocketOf after) := by
  cases stepped with
  | udp stepped =>
      cases stepped with
      | noPayload | extracted | shielded | timed | resolved | sent | received | timedOut
      | receiveFailed | buildFailed | built | buildThrew | written | writeFailed =>
          exact .kept fun _ _ => rfl
      | created => exact .created
      | abandoned abandons => exact abandons_socket abandons
      | closed => exact .closed
  | tcp stepped => cases stepped <;> exact .kept fun _ _ => rfl
  | reader stepped => cases stepped <;> exact .kept fun _ _ => rfl

theorem datagramClosed_close (forwarder : Forwarder) (socket index : Nat) (call : ForwardCall) :
    (forwarder.perform index call (.closeDatagramSocket socket)).datagramClosed socket := by
  have found : (forwarder.datagramSockets.modify socket fun _ => { closed := true })[socket]? =
      (forwarder.datagramSockets[socket]?).map fun _ => { closed := true } :=
    List.getElem?_modify_eq _ _ _
  cases before : forwarder.datagramSockets[socket]? with
  | none => simp [datagramClosed, perform, found, before]
  | some => simp [datagramClosed, perform, found, before]

theorem datagram_lt_of_open (opened : forwarder.datagramClosed socket = false) :
    socket < forwarder.datagramSockets.length := by
  by_contra beyond
  rw [datagramClosed, List.getElem?_eq_none (Nat.le_of_not_lt beyond)] at opened
  cases opened

theorem SocketStep.takes {held after : Option Nat} {duty : Duty} {effect : Effect}
    (stepped : SocketStep forwarder held duty effect after) (taken : after = some socket) :
    held = some socket ∨ duty = .arises ∧ socket = forwarder.datagramSockets.length := by
  cases stepped with
  | kept => exact .inl taken
  | created => exact .inr ⟨rfl, (Option.some.inj taken).symm⟩
  | forgotten | closed => cases taken

/-- Another coroutine's socket is as it was. -/
theorem SocketStep.spares {held after : Option Nat} {duty : Duty} {effect : Effect}
    (stepped : SocketStep forwarder held duty effect after) (unheld : held ≠ some socket)
    (within : socket < forwarder.datagramSockets.length) (moved : Nat) (call : ForwardCall) :
    (forwarder.perform moved call effect).datagramClosed socket = forwarder.datagramClosed socket := by
  cases stepped with
  | kept same => rw [datagramClosed, same, datagramClosed]
  | created => rw [datagramClosed, perform, List.getElem?_append_left within, datagramClosed]
  | forgotten => rfl
  | @closed held =>
      have distinct : held ≠ socket := fun same => unheld (congrArg some same)
      exact congrArg (fun found : Option DatagramSocket => found.elim true DatagramSocket.closed)
        (List.getElem?_modify_ne _ _ distinct)

theorem SocketStep.within {held after : Option Nat} {duty : Duty} {effect : Effect}
    (stepped : SocketStep forwarder held duty effect after)
    (within : socket < forwarder.datagramSockets.length) (moved : Nat) (call : ForwardCall) :
    socket < (forwarder.perform moved call effect).datagramSockets.length := by
  cases stepped with
  | kept same =>
      rw [same]
      exact within
  | created =>
      rw [perform, List.length_append]
      exact Nat.lt_add_right _ within
  | forgotten => exact within
  | closed =>
      rw [perform, List.length_modify]
      exact within

theorem SocketStep.opened {held after : Option Nat} {duty : Duty} {effect : Effect}
    (stepped : SocketStep forwarder held duty effect after)
    (opened : ∀ socket, held = some socket → forwarder.datagramClosed socket = false)
    (taken : after = some socket) (moved : Nat) (call : ForwardCall) :
    (forwarder.perform moved call effect).datagramClosed socket = false := by
  cases stepped with
  | kept same =>
      rw [datagramClosed, same]
      exact opened socket taken
  | created =>
      cases taken
      rw [datagramClosed, perform, List.getElem?_concat_length]
      rfl
  | forgotten | closed => cases taken

/-- The sockets in the coroutines' hands are open, and each is in those of one. -/
structure DatagramsHeld (forwarder : Forwarder) : Prop where
  exclusive : TaskPool.Exclusive (fun task : Task => datagramSocketOf task.job) forwarder.tasks
  opened : ∀ task ∈ forwarder.tasks, ∀ socket, datagramSocketOf task.job = some socket →
    forwarder.datagramClosed socket = false

private theorem DatagramsHeld.resume {task : Task} {answer : Answer} {effect : Effect} {job : Job}
    (sound : DatagramsHeld forwarder) (located : forwarder.tasks[index]? = some task)
    (stepped : JobStep pcpp forwarder task.call task.job answer effect job) :
    DatagramsHeld (forwarder.resume task.call index effect job) := by
  have inPool := List.mem_of_getElem? located
  have moved := stepped.datagramSocket
  have none : ∀ member ∈ effect.launched task.call, datagramSocketOf member.job = none := by
    intro member launched
    obtain ⟨connection, rfl⟩ := stepped.launched member launched
    rfl
  have fresh : ∀ member ∈ forwarder.tasks,
      datagramSocketOf member.job ≠ some forwarder.datagramSockets.length := fun member old holds =>
    absurd (datagram_lt_of_open (sound.opened member old _ holds)) (Nat.lt_irrefl _)
  constructor
  · refine sound.exclusive.advance located ?_ none
    intro socket holds
    rcases moved.takes holds with kept | ⟨-, rfl⟩
    · exact .inl kept
    · exact .inr fresh
  · intro member inAfter socket holds
    obtain ⟨position, reached⟩ := List.mem_iff_getElem?.mp inAfter
    rcases TaskPool.getElem?_advance_cases located reached with
      ⟨rfl, rfl⟩ | ⟨distinct, old⟩ | ⟨-, new⟩
    · exact moved.opened (sound.opened task inPool) holds position task.call
    · have oldMember := List.mem_of_getElem? old
      have opened := sound.opened member oldMember socket holds
      rw [← opened]
      refine moved.spares (fun held => ?_) (datagram_lt_of_open opened) index task.call
      exact distinct (sound.exclusive _ _ member task _ old located holds held)
    · rw [none member (List.mem_of_getElem? new)] at holds
      cases holds

theorem DatagramsHeld.step (sound : DatagramsHeld forwarder)
    (taken : Forwarder.step pcpp forwarder label = some next) : DatagramsHeld next := by
  cases step_forwarder taken with
  | overwritten | passedThrough | passThroughFailed | closedAll | cleared =>
      exact ⟨sound.exclusive, sound.opened⟩
  | @launched call job held first =>
      constructor
      · refine sound.exclusive.append fun task member => ?_
        rw [List.mem_singleton.mp member]
        exact datagram_of_first first
      · intro task member socket holds
        rcases List.mem_append.mp member with old | single
        · exact sound.opened task old socket holds
        · rw [List.mem_singleton.mp single, datagram_of_first first] at holds
          cases holds
  | resumed located stepped => exact sound.resume located stepped

theorem datagramsHeld_of_run {labels : List Label} {final : Forwarder}
    (ran : Transition.run (Forwarder.step pcpp) initial labels = some final) : DatagramsHeld final :=
  Transition.run_preserves DatagramsHeld (fun _ _ _ sound taken => sound.step taken)
    ⟨fun _ _ _ _ _ located => (by cases located), List.forall_mem_nil _⟩ ran

/-- The coroutine at `index` has this socket and has yet to close it. -/
def InHand (index : Nat) (forwarder : Forwarder) (socket : Nat) : Prop :=
  ∃ task ∈ forwarder.tasks[index]?, datagramSocketOf task.job = some socket

/-- The coroutine at `index` is over, and no coroutine has this socket. -/
structure GivenUp (index : Nat) (forwarder : Forwarder) (socket : Nat) : Prop where
  ended : ∃ task ∈ forwarder.tasks[index]?, task.job = .udp .done
  within : socket < forwarder.datagramSockets.length
  unheld : ∀ task ∈ forwarder.tasks, datagramSocketOf task.job ≠ some socket

/-- The coroutine has created this socket in a run with these labels. -/
def Created (pcpp : PcapPlusPlus) (index : Nat) (labels : List Label) (socket : Nat) : Prop :=
  Transition.Occurs (step pcpp) (CreatesDatagram index socket) initial labels

/-- One of the four calls outside the inner `try` has thrown. -/
def ThrewUnguarded (pcpp : PcapPlusPlus) (index : Nat) (labels : List Label) : Prop :=
  Transition.Occurs (step pcpp) (ThrowsUnguarded index) initial labels

/-- What becomes of the sockets that the coroutine at `index` creates. -/
structure Fate (pcpp : PcapPlusPlus) (index : Nat) (labels : List Label) (forwarder : Forwarder) :
    Prop where
  inHand : ∀ socket, InHand index forwarder socket →
    Created pcpp index labels socket ∧ ¬ ThrewUnguarded pcpp index labels
  created : ∀ socket, Created pcpp index labels socket → InHand index forwarder socket ∨
    GivenUp index forwarder socket ∧
      (forwarder.datagramClosed socket ↔ ¬ ThrewUnguarded pcpp index labels)
  threw : ThrewUnguarded pcpp index labels → ∃ socket, Created pcpp index labels socket

theorem JobStep.not_done {call : ForwardCall} {job : Job} {answer : Answer} {effect : Effect} :
    ¬ JobStep pcpp forwarder call (.udp .done) answer effect job := by
  intro stepped
  cases stepped with
  | udp stepped =>
      cases stepped with
      | abandoned abandons => cases abandons

/-- A coroutine that no longer has its socket is over. -/
theorem JobStep.datagram_done {call : ForwardCall} {job after : Job} {answer : Answer}
    {effect : Effect} (stepped : JobStep pcpp forwarder call job answer effect after)
    (held : datagramSocketOf job = some socket) (released : datagramSocketOf after ≠ some socket) :
    after = .udp .done := by
  cases stepped with
  | udp stepped =>
      cases stepped with
      | noPayload | extracted | created => cases held
      | abandoned | closed => rfl
      | shielded | timed | resolved | sent | received | timedOut | receiveFailed | buildFailed
      | built | buildThrew | written | writeFailed => exact absurd held released
  | tcp | reader => cases held

private theorem unheld_datagram {task : Task} {answer : Answer} {effect : Effect} {job : Job}
    (located : forwarder.tasks[index]? = some task)
    (stepped : JobStep pcpp forwarder task.call task.job answer effect job)
    (others : ∀ position member, position ≠ index → forwarder.tasks[position]? = some member →
      datagramSocketOf member.job ≠ some socket)
    (moved : datagramSocketOf job ≠ some socket) :
    ∀ member ∈ (forwarder.resume task.call index effect job).tasks,
      datagramSocketOf member.job ≠ some socket := by
  intro member inAfter
  obtain ⟨position, reached⟩ := List.mem_iff_getElem?.mp inAfter
  rcases TaskPool.getElem?_advance_cases located reached with
    ⟨rfl, rfl⟩ | ⟨distinct, old⟩ | ⟨-, new⟩
  · exact moved
  · exact others position member distinct old
  · obtain ⟨connection, rfl⟩ := stepped.launched member (List.mem_of_getElem? new)
    exact nofun

/-- A socket that was given up stays as it is. -/
theorem GivenUp.step (givenUp : GivenUp index forwarder socket)
    (taken : Forwarder.step pcpp forwarder label = some next) :
    GivenUp index next socket ∧ next.datagramClosed socket = forwarder.datagramClosed socket := by
  obtain ⟨⟨ended, endedLocated, done⟩, within, unheld⟩ := givenUp
  cases step_forwarder taken with
  | overwritten | passedThrough | passThroughFailed | closedAll | cleared =>
      exact ⟨⟨⟨ended, endedLocated, done⟩, within, unheld⟩, rfl⟩
  | @launched call job held first =>
      have before := (List.getElem?_eq_some_iff.mp endedLocated).1
      refine ⟨⟨⟨ended, ?_, done⟩, within, fun task member => ?_⟩, rfl⟩
      · exact (List.getElem?_append_left before).trans endedLocated
      · rcases List.mem_append.mp member with old | single
        · exact unheld task old
        · rw [List.mem_singleton.mp single, datagram_of_first first]
          exact nofun
  | @resumed moved task answer effect job located stepped =>
      have distinct : index ≠ moved := by
        rintro rfl
        obtain rfl := Option.mem_unique located endedLocated
        rw [done] at stepped
        exact stepped.not_done
      have step := stepped.datagramSocket
      have free := unheld task (List.mem_of_getElem? located)
      have same := step.spares free within moved task.call
      have before := (List.getElem?_eq_some_iff.mp endedLocated).1
      refine ⟨⟨⟨ended, ?_, done⟩, ?_, ?_⟩, same⟩
      · exact (TaskPool.getElem?_advance_other distinct before).trans endedLocated
      · exact step.within within moved task.call
      · refine unheld_datagram located stepped ?_ fun holds => ?_
        · exact fun _ member _ found => unheld member (List.mem_of_getElem? found)
        · rcases step.takes holds with kept | ⟨-, fresh⟩
          · exact free kept
          · omega

/-- A coroutine that lets go of its socket gives it up, closed by then or open for good. -/
private theorem givenUp_resume {task : Task} {answer : Answer} {effect : Effect} {job : Job}
    (sound : DatagramsHeld forwarder) (located : forwarder.tasks[index]? = some task)
    (stepped : JobStep pcpp forwarder task.call task.job answer effect job)
    (held : datagramSocketOf task.job = some socket) (released : datagramSocketOf job ≠ some socket) :
    GivenUp index (forwarder.resume task.call index effect job) socket := by
  have moved := stepped.datagramSocket
  have opened := sound.opened task (List.mem_of_getElem? located) socket held
  refine ⟨⟨_, TaskPool.getElem?_advance_self located, stepped.datagram_done held released⟩, ?_, ?_⟩
  · exact moved.within (datagram_lt_of_open opened) index task.call
  · refine unheld_datagram located stepped (fun position member distinct found holds => ?_) released
    exact distinct (sound.exclusive _ _ member task socket found located holds held)

theorem inHand_own {task : Task} (located : forwarder.tasks[index]? = some task) :
    InHand index forwarder socket ↔ datagramSocketOf task.job = some socket := by
  simp [InHand, located]

private theorem inHand_resume {task : Task} {effect : Effect} {job : Job}
    (located : forwarder.tasks[index]? = some task) :
    InHand index (forwarder.resume task.call index effect job) socket ↔
      datagramSocketOf job = some socket := by
  have moved : (forwarder.resume task.call index effect job).tasks[index]? = some ⟨task.call, job⟩ :=
    TaskPool.getElem?_advance_self located
  exact inHand_own moved

theorem creates_own {task : Task} {answer : Answer} (located : forwarder.tasks[index]? = some task) :
    CreatesDatagram index socket forwarder (.task index answer) ↔
      socket = forwarder.datagramSockets.length ∧ dutyOf task.job answer = .arises := by
  simp [CreatesDatagram, located]

theorem throws_own {task : Task} {answer : Answer} (located : forwarder.tasks[index]? = some task) :
    ThrowsUnguarded index forwarder (.task index answer) ↔ dutyOf task.job answer = .forgotten := by
  simp [ThrowsUnguarded, located]

/-- A step of another coroutine, or of none. -/
theorem InHand.step_other (taken : Forwarder.step pcpp forwarder label = some next)
    (other : ∀ answer, label ≠ .task index answer) :
    InHand index next socket ↔ InHand index forwarder socket := by
  cases step_forwarder taken with
  | overwritten | passedThrough | passThroughFailed | closedAll | cleared => exact Iff.rfl
  | @launched call job held first =>
      constructor
      · rintro ⟨task, located, holds⟩
        rcases TaskPool.getElem?_append_cases located with old | ⟨-, new⟩
        · exact ⟨task, old, holds⟩
        · rw [List.mem_singleton.mp (List.mem_of_getElem? new), datagram_of_first first] at holds
          cases holds
      · rintro ⟨task, located, holds⟩
        have within := (List.getElem?_eq_some_iff.mp located).1
        exact ⟨task, (List.getElem?_append_left within).trans located, holds⟩
  | @resumed moved task answer effect job located stepped =>
      have distinct : index ≠ moved := by
        rintro rfl
        exact other answer rfl
      constructor
      · rintro ⟨member, found, holds⟩
        rcases TaskPool.getElem?_advance_cases located found with
          ⟨same, -⟩ | ⟨-, old⟩ | ⟨-, new⟩
        · exact absurd same distinct
        · exact ⟨member, old, holds⟩
        · obtain ⟨connection, rfl⟩ := stepped.launched member (List.mem_of_getElem? new)
          cases holds
      · rintro ⟨member, found, holds⟩
        have within := (List.getElem?_eq_some_iff.mp found).1
        exact ⟨member, (TaskPool.getElem?_advance_other distinct within).trans found, holds⟩

section Step

variable {labels : List Label} (fate : Fate pcpp index labels forwarder)
  (reached : Transition.run (step pcpp) initial labels = some forwarder)

include fate reached

private theorem Fate.uneventful (taken : step pcpp forwarder label = some next)
    (notCreates : ∀ socket, ¬ CreatesDatagram index socket forwarder label)
    (notThrows : ¬ ThrowsUnguarded index forwarder label)
    (inHand : ∀ socket, InHand index next socket → InHand index forwarder socket)
    (kept : ∀ socket, InHand index forwarder socket → InHand index next socket ∨
      GivenUp index next socket ∧ next.datagramClosed socket) :
    Fate pcpp index (labels ++ [label]) next := by
  have threw : ThrewUnguarded pcpp index (labels ++ [label]) ↔ ThrewUnguarded pcpp index labels :=
    (Transition.occurs_append_singleton reached).trans (or_iff_left notThrows)
  have created (socket : Nat) :
      Created pcpp index (labels ++ [label]) socket ↔ Created pcpp index labels socket :=
    (Transition.occurs_append_singleton reached).trans (or_iff_left (notCreates socket))
  constructor
  · intro socket holds
    rw [created, threw]
    exact fate.inHand socket (inHand socket holds)
  · intro socket earlier
    rw [created] at earlier
    rw [threw]
    rcases fate.created socket earlier with holds | ⟨givenUp, closed⟩
    · rcases kept socket holds with still | ⟨givenUp, closed⟩
      · exact .inl still
      · exact .inr ⟨givenUp, iff_of_true closed (fate.inHand socket holds).2⟩
    · obtain ⟨stays, same⟩ := givenUp.step taken
      rw [same]
      exact .inr ⟨stays, closed⟩
  · simpa only [threw, created] using fate.threw

section Own

variable {task : Task} {answer : Answer} {effect : Effect} {job : Job}
  (located : forwarder.tasks[index]? = some task)
  (stepped : JobStep pcpp forwarder task.call task.job answer effect job)

include located stepped

omit reached in
/-- While the coroutine is not over, a socket it created is still in its hand. -/
private theorem Fate.still (created : Created pcpp index labels socket) :
    datagramSocketOf task.job = some socket := by
  rcases fate.created socket created with holds | ⟨⟨⟨ended, found, done⟩, -, -⟩, -⟩
  · exact (inHand_own located).mp holds
  · obtain rfl := Option.mem_unique located found
    rw [done] at stepped
    exact stepped.not_done.elim

private theorem Fate.create (held : datagramSocketOf task.job = none)
    (arises : dutyOf task.job answer = .arises)
    (taken : datagramSocketOf job = some forwarder.datagramSockets.length) :
    Fate pcpp index (labels ++ [.task index answer])
      (forwarder.resume task.call index effect job) := by
  have none (socket : Nat) : ¬ Created pcpp index labels socket := fun created => by
    rw [fate.still located stepped created] at held
    cases held
  have quiet : ¬ ThrewUnguarded pcpp index (labels ++ [.task index answer]) := by
    rw [ThrewUnguarded, Transition.occurs_append_singleton reached, throws_own located, arises]
    exact not_or.mpr ⟨fun threw => (fate.threw threw).elim none, nofun⟩
  have created (socket : Nat) : Created pcpp index (labels ++ [.task index answer]) socket ↔
      socket = forwarder.datagramSockets.length := by
    rw [Created, Transition.occurs_append_singleton reached, creates_own located]
    exact ⟨fun created => (created.resolve_left (none socket)).1, fun same => .inr ⟨same, arises⟩⟩
  have holds (socket : Nat) : InHand index (forwarder.resume task.call index effect job) socket ↔
      socket = forwarder.datagramSockets.length := by
    rw [inHand_resume located, taken, Option.some.injEq, eq_comm]
  refine ⟨fun socket inHand => ⟨?_, quiet⟩, fun socket before => .inl ?_, fun threw => ?_⟩
  · exact (created socket).mpr ((holds socket).mp inHand)
  · exact (holds socket).mpr ((created socket).mp before)
  · exact absurd threw quiet

private theorem Fate.forget (held : datagramSocketOf task.job = some socket)
    (forgotten : dutyOf task.job answer = .forgotten) (released : datagramSocketOf job = none)
    (opened : (forwarder.resume task.call index effect job).datagramClosed socket = false) :
    Fate pcpp index (labels ++ [.task index answer])
      (forwarder.resume task.call index effect job) := by
  have threw : ThrewUnguarded pcpp index (labels ++ [.task index answer]) := by
    rw [ThrewUnguarded, Transition.occurs_append_singleton reached, throws_own located]
    exact .inr forgotten
  have created (other : Nat) : Created pcpp index (labels ++ [.task index answer]) other ↔
      Created pcpp index labels other := by
    rw [Created, Transition.occurs_append_singleton reached, creates_own located, forgotten]
    exact or_iff_left fun created => by cases created.2
  refine ⟨fun other inHand => ?_, fun other before => ?_, fun _ => ⟨socket, ?_⟩⟩
  · rw [inHand_resume located, released] at inHand
    cases inHand
  · rw [created] at before
    have same := fate.still located stepped before
    rw [held, Option.some.injEq] at same
    subst same
    have letGo : datagramSocketOf job ≠ some socket := by
      rw [released]
      exact nofun
    refine .inr ⟨givenUp_resume (datagramsHeld_of_run reached) located stepped held letGo, ?_⟩
    rw [opened]
    exact iff_of_false nofun (not_not_intro threw)
  · exact (created socket).mpr (fate.inHand socket ⟨task, located, held⟩).1

private theorem Fate.resume (taken : step pcpp forwarder (.task index answer) =
      some (forwarder.resume task.call index effect job)) :
    Fate pcpp index (labels ++ [.task index answer])
      (forwarder.resume task.call index effect job) := by
  have sound := datagramsHeld_of_run reached
  have moved := stepped.datagramSocket
  generalize heldNow : datagramSocketOf task.job = held at moved
  generalize dutyNow : dutyOf task.job answer = duty at moved
  generalize heldNext : datagramSocketOf job = after at moved
  cases moved with
  | kept =>
      refine fate.uneventful reached taken ?_ ?_ ?_ ?_
      · simp [creates_own located, dutyNow]
      · simp [throws_own located, dutyNow]
      · intro socket holds
        rwa [inHand_resume located, heldNext, ← heldNow, ← inHand_own located] at holds
      · intro socket holds
        rw [inHand_resume located, heldNext, ← heldNow, ← inHand_own located]
        exact .inl holds
  | created => exact fate.create reached located stepped heldNow dutyNow heldNext
  | @forgotten held =>
      refine fate.forget reached located stepped heldNow dutyNow heldNext ?_
      exact sound.opened task (List.mem_of_getElem? located) held heldNow
  | @closed held =>
      have letGo : datagramSocketOf job ≠ some held := by
        rw [heldNext]
        exact nofun
      refine fate.uneventful reached taken ?_ ?_ ?_ ?_
      · simp [creates_own located, dutyNow]
      · simp [throws_own located, dutyNow]
      · intro socket holds
        rw [inHand_resume located, heldNext] at holds
        cases holds
      · intro socket holds
        rw [inHand_own located, heldNow, Option.some.injEq] at holds
        subst holds
        refine .inr ⟨givenUp_resume sound located stepped heldNow letGo, ?_⟩
        exact datagramClosed_close forwarder held index task.call

end Own

end Step

theorem fate_of_run {labels : List Label} {final : Forwarder}
    (ran : Transition.run (step pcpp) initial labels = some final) :
    Fate pcpp index labels final := by
  refine Transition.run_induction (Fate pcpp index) ?_ ?_ ran
  · intro labels forwarder label next reached fate taken
    by_cases own : ∃ answer, label = .task index answer
    · obtain ⟨answer, rfl⟩ := own
      cases step_forwarder taken with
      | resumed located stepped => exact fate.resume reached located stepped taken
    · have other (answer : Answer) : label ≠ .task index answer := fun same => own ⟨answer, same⟩
      refine fate.uneventful reached taken ?_ ?_ ?_ ?_
      · intro socket creates
        cases label with
        | task moved answer => exact other answer (congrArg (Label.task · answer) creates.1)
        | overwrite | forwardPacket | cleanup | clear => exact creates
      · intro throws
        cases label with
        | task moved answer => exact other answer (congrArg (Label.task · answer) throws.1)
        | overwrite | forwardPacket | cleanup | clear => exact throws
      · exact fun socket => (InHand.step_other taken other).mp
      · exact fun socket holds => .inl ((InHand.step_other taken other).mpr holds)
  · refine ⟨?_, fun _ created => created.elim, fun threw => threw.elim⟩
    rintro socket ⟨task, located, -⟩
    cases located

/-- A request that is over has closed its socket exactly if none of the calls
between the creation of the socket and `receive` threw. -/
theorem datagramSocket_closed_iff {labels : List Label} {final : Forwarder} {call : ForwardCall}
    (ran : Transition.run (step pcpp) initial labels = some final)
    (located : final.tasks[index]? = some ⟨call, .udp .done⟩) :
    (∀ socket, Created pcpp index labels socket → final.datagramClosed socket) ↔
      ¬ ThrewUnguarded pcpp index labels := by
  have fate : Fate pcpp index labels final := fate_of_run ran
  have settled (socket : Nat) (created : Created pcpp index labels socket) :
      final.datagramClosed socket ↔ ¬ ThrewUnguarded pcpp index labels := by
    rcases fate.created socket created with holds | ⟨-, closed⟩
    · cases (inHand_own located).mp holds
    · exact closed
  constructor
  · intro all threw
    obtain ⟨socket, created⟩ := fate.threw threw
    exact (settled socket created).mp (all socket created) threw
  · exact fun quiet socket created => (settled socket created).mpr quiet

/-- The request up to `send`, which throws. -/
def requestUnsent : List Label :=
  .overwrite datagramToPort9000.bytes :: .forwardPacket (callOf datagramToPort9000.bytes) .returns ::
    List.replicate 5 (.task 0 .returns) ++ [.task 0 .throws]

theorem shortReply_closes : ∃ final,
    Transition.run (step .headerRules) initial (request shortReply) = some final ∧
      Created .headerRules 0 (request shortReply) 0 ∧
      ∀ socket, Created .headerRules 0 (request shortReply) socket → final.datagramClosed socket := by
  have observed : (Transition.run (step .headerRules) initial (request shortReply)).map
      (fun final => final.tasks[0]?) = some (some ⟨callOf datagramToPort9000.bytes, .udp .done⟩) := by
    decide +kernel
  obtain ⟨final, ran, located⟩ := Option.map_eq_some_iff.mp observed
  have quiet : ¬ ThrewUnguarded .headerRules 0 (request shortReply) := by
    unfold ThrewUnguarded
    decide +kernel
  refine ⟨final, ran, ?_, (datagramSocket_closed_iff ran located).mpr quiet⟩
  unfold Created
  decide +kernel

/-- An exception of `send` leaves the socket open for good. -/
theorem unsent_request_leaks :
    ¬ ∀ (pcpp : PcapPlusPlus) (labels : List Label) (final : Forwarder) (index : Nat)
        (call : ForwardCall),
      Transition.run (step pcpp) initial labels = some final →
      final.tasks[index]? = some ⟨call, .udp .done⟩ →
      ∀ socket, Created pcpp index labels socket → final.datagramClosed socket := by
  intro all
  have observed : (Transition.run (step .headerRules) initial requestUnsent).map
      (fun final => (final.tasks[0]?, final.datagramClosed 0)) =
      some (some ⟨callOf datagramToPort9000.bytes, .udp .done⟩, false) := by
    decide +kernel
  obtain ⟨final, ran, seen⟩ := Option.map_eq_some_iff.mp observed
  obtain ⟨located, opened⟩ := Prod.mk.inj seen
  have created : Created .headerRules 0 requestUnsent 0 := by
    unfold Created
    decide +kernel
  have closed := all .headerRules requestUnsent final 0 _ ran located 0 created
  rw [opened] at closed
  cases closed

end Forwarder

end FirewallVpn
