import FirewallVpn.Forwarder.LastPacket
import FirewallVpn.Forwarder.Shutdown
import Mathlib.Data.List.TakeWhile

/-! The stream from a remote end to the app. The reader of a connection writes what
it reads for as long as the connection keeps its entry and a read never has to wait
longer than `soTimeout`. -/

set_option autoImplicit false

namespace FirewallVpn

/-- The stages of the loop, without the `finally` behind it. -/
def ReaderStage.inLoop : ReaderStage → Bool
  | .isClosed | .read | .build _ | .write _ _ => true
  | .remove | .close _ | .done => false

/-- `cleanupTcpConnection` has returned from `tcpConnections.remove(key)`. -/
def ReaderStage.hasRemoved : ReaderStage → Bool
  | .close _ | .done => true
  | .isClosed | .read | .build _ | .write _ _ | .remove => false

/-- What is read and not yet written. -/
def ReaderStage.inBuffer : ReaderStage → List UInt8
  | .build responseData => responseData
  | .write _ responsePacket => tcpPayload responsePacket
  | .isClosed | .read | .remove | .close _ | .done => []

namespace Forwarder

def chunkOf : Answer → List UInt8
  | .chunk bytes => bytes
  | .returns | .throws | .throwsAfter _ | .timesOut | .datagram _ | .endOfStream => []

/-- The bytes that the reads of a coroutine have returned. -/
def bytesRead (history : List Answer) : List UInt8 := history.flatMap chunkOf

def dataPayload : Content → List UInt8
  | .data _ _ packet => tcpPayload packet
  | .passThrough _ | .udpResponse _ _ | .synAck _ _ | .upstream _ _ | .datagram _ _ => []

/-- The payloads of the data packets among the outputs of a coroutine. -/
def bytesForwarded (written : List Content) : List UInt8 := written.flatMap dataPayload

/-- The labels of a run up to the read that finds the end of the stream. -/
def beforeEnd (index : Nat) (labels : List Label) : List Label :=
  labels.takeWhile fun label => answerFor index label ≠ some .endOfStream

/-- The connection is the one registered under its key. -/
def HasEntry (connection : TcpConnection) (forwarder : Forwarder) : Prop :=
  ∃ registered ∈ forwarder.tcpConnections.lookup connection.key,
    registered.socket = connection.socket

/-- From its registration on the connection has its entry. -/
def StaysRegistered (pcpp : PcapPlusPlus) (connection : TcpConnection) (labels : List Label) : Prop :=
  ∀ history forwarder, history <+: labels →
    Transition.run (step pcpp) initial history = some forwarder →
      EverRegistered pcpp history connection.socket → HasEntry connection forwarder

/-- No statement of the reader fails on an open connection, and `cleanup()` is not
called. -/
def Faultless (index : Nat) (connection : TcpConnection) (forwarder : Forwarder) : Label → Prop
  | .task other answer => other = index → answer = .throws → forwarder.isClosed connection.socket
  | .cleanup | .clear => False
  | .overwrite _ | .forwardPacket _ _ => True

/-- The app ends the flow with the packet that is forwarded. -/
def endsFlow (pcpp : PcapPlusPlus) (key : String) : Label → Bool
  | .forwardPacket call _ => call.traffic.protocolByte = .tcp && call.key = key &&
      endsConnection (getTcpFlags pcpp call.packet call.length)
  | .overwrite _ | .task _ _ | .cleanup | .clear => false

/-- What the remote end sends arrives in order, and the end of the stream after it;
neither the app nor the VPN ends the connection, and nothing fails. -/
structure Streams (pcpp : PcapPlusPlus) (index : Nat) (connection : TcpConnection)
    (sent : List UInt8) (labels : List Label) : Prop where
  inOrder : bytesRead (answers index labels) <+: sent
  ended : .endOfStream ∈ answers index labels → bytesRead (answers index labels) = sent
  faultless : Transition.Guarded (step pcpp) (Faultless index connection) initial labels
  goesOn : ∀ label ∈ labels, endsFlow pcpp connection.key label = false

/-- No read of the reader times out, and while the connection has its entry no other
coroutine of the flow registers one or executes `tcpConnections.remove(key)`. -/
def Undisturbed (index : Nat) (connection : TcpConnection) (forwarder : Forwarder) : Label → Prop
  | .task other answer =>
      if other = index then answer ≠ .timesOut
      else HasEntry connection forwarder → ∀ task ∈ forwarder.tasks[other]?,
        task.call.key = connection.key →
          (holdOf task.job).isRegistering = false ∧ removes task.job = false
  | .overwrite _ | .forwardPacket _ _ | .cleanup | .clear => True

instance (connection : TcpConnection) (forwarder : Forwarder) :
    Decidable (HasEntry connection forwarder) :=
  inferInstanceAs (Decidable (∃ registered ∈ _, _))

instance (index : Nat) (connection : TcpConnection) (forwarder : Forwarder) :
    ∀ label, Decidable (Faultless index connection forwarder label)
  | .task _ _ => inferInstanceAs (Decidable (_ → _ → _))
  | .cleanup | .clear => .isFalse id
  | .overwrite _ | .forwardPacket _ _ => .isTrue True.intro

instance (index : Nat) (connection : TcpConnection) (forwarder : Forwarder) :
    ∀ label, Decidable (Undisturbed index connection forwarder label)
  | .task other _ =>
      if same : other = index then
        decidable_of_iff (_ ≠ _) (iff_of_eq (if_pos same)).symm
      else
        decidable_of_iff (HasEntry connection forwarder → ∀ task ∈ forwarder.tasks[other]?, _ → _ ∧ _)
          (iff_of_eq (if_neg same)).symm
  | .overwrite _ | .forwardPacket _ _ | .cleanup | .clear => .isTrue True.intro

variable {pcpp : PcapPlusPlus}

/-! What is read is in the buffer or written, whatever else happens. -/

/-- How far a reader has come with what it has read. -/
inductive Streaming : ReaderStage → List Answer → List Content → Prop where
  | inLoop {stage history written} (goes : stage.inLoop) (notEnded : .endOfStream ∉ history)
      (inTime : .timesOut ∉ history)
      (balanced : bytesRead history = bytesForwarded written ++ stage.inBuffer) :
      Streaming stage history written
  | left {stage history written} (past : stage.inLoop = false)
      (complete : .endOfStream ∈ history →
        .timesOut ∉ history ∧ bytesRead history = bytesForwarded written) :
      Streaming stage history written

theorem Streaming.step {forwarder : Forwarder} {call : ForwardCall} {connection : TcpConnection}
    {stage next : ReaderStage} {answer : Answer} {effect : Effect} {history : List Answer}
    {written : List Content} (streaming : Streaming stage history written)
    (stepped : ReaderStep pcpp forwarder call connection stage answer effect next) :
    Streaming next (history ++ [answer]) (written ++ effect.contents) := by
  have read : bytesRead (history ++ [answer]) = bytesRead history ++ chunkOf answer := by
    simp [bytesRead]
  have forwarded : bytesForwarded (written ++ effect.contents) =
      bytesForwarded written ++ effect.contents.flatMap dataPayload := List.flatMap_append
  cases streaming with
  | inLoop goes notEnded inTime balanced =>
      cases stepped with
      | foundClosed | buildFailed | buildThrew | writeFailed =>
          refine .left rfl fun ended => ?_
          simp [notEnded] at ended
      | foundOpen =>
          refine .inLoop rfl (by simp [notEnded]) (by simp [inTime]) ?_
          rw [read, forwarded, balanced]
          simp [chunkOf, Effect.contents, ReaderStage.inBuffer]
      | chunkRead =>
          refine .inLoop rfl (by simp [notEnded]) (by simp [inTime]) ?_
          rw [read, forwarded, balanced]
          simp [chunkOf, Effect.contents, ReaderStage.inBuffer]
      | ended ends =>
          refine .left rfl fun ended => ?_
          rcases ends with rfl | rfl | rfl
          · refine ⟨by simp [inTime], ?_⟩
            rw [read, forwarded, balanced]
            simp [chunkOf, Effect.contents, ReaderStage.inBuffer]
          · simp [notEnded] at ended
          · simp [notEnded] at ended
      | built packet =>
          refine .inLoop rfl (by simp [notEnded]) (by simp [inTime]) ?_
          rw [read, forwarded, balanced]
          simp [chunkOf, Effect.contents, ReaderStage.inBuffer,
            buildTcpResponsePacket_payload pcpp packet]
      | written =>
          refine .inLoop rfl (by simp [notEnded]) (by simp [inTime]) ?_
          rw [read, forwarded, balanced]
          simp [chunkOf, Effect.contents, ReaderStage.inBuffer, dataPayload]
      | removed | nothingToRemove | closed => cases goes
  | left past complete =>
      cases stepped with
      | foundClosed | foundOpen | chunkRead | ended | buildFailed | buildThrew | built | written | writeFailed =>
          cases past
      | removed | nothingToRemove | closed =>
          refine .left rfl fun ended => ?_
          obtain ⟨inTime, same⟩ := complete (by simpa using ended)
          refine ⟨by simp [inTime], ?_⟩
          rw [read, forwarded, same]
          simp [chunkOf, Effect.contents]

/-- The reader of a connection, if the coroutine at hand is such. -/
def StreamShare (_ : ForwardCall) (job : Job) (history : List Answer) (written : List Content) : Prop :=
  match job with
  | .reader _ stage => Streaming stage history written
  | .udp _ | .tcp _ => True

theorem streaming_of_run {index : Nat} {labels : List Label} {final : Forwarder}
    (ran : Transition.run (step pcpp) initial labels = some final) {call : ForwardCall}
    {connection : TcpConnection} {stage : ReaderStage}
    (located : final.tasks[index]? = some ⟨call, .reader connection stage⟩) :
    Streaming stage (answers index labels) (contents index final) := by
  have share : Share StreamShare index labels final := by
    refine share_of_run index ?_ ?_ (Transition.guarded_true initial labels) ran
    · intro call job first
      cases first with
      | udp | tcp => exact True.intro
      | reader => exact .inLoop rfl List.not_mem_nil List.not_mem_nil rfl
    · intro forwarder call job answer effect next history written _ _ stepped share
      cases stepped with
      | udp | tcp => exact True.intro
      | reader stepped => exact Streaming.step share stepped
  exact share.started _ located

/-! A coroutine is the reader of its connection from the start, and the socket of a
connection belongs to the connection's key. -/

structure Hosts (index : Nat) (call : ForwardCall) (connection : TcpConnection)
    (forwarder : Forwarder) : Prop where
  key : ∀ key, forwarder.owner connection.socket = some key → key = connection.key
  reader : ∀ task, forwarder.tasks[index]? = some task →
    ∃ stage, task = ⟨call, .reader connection stage⟩

theorem JobStep.reader_from {forwarder : Forwarder} {call : ForwardCall} {job : Job}
    {answer : Answer} {effect : Effect} {connection : TcpConnection} {stage : ReaderStage}
    (stepped : JobStep pcpp forwarder call job answer effect (.reader connection stage)) :
    ∃ before, job = .reader connection before := by
  cases stepped with
  | reader => exact ⟨_, rfl⟩

theorem Hosts.before {forwarder next : Forwarder} {label : Label} {index : Nat} {call : ForwardCall}
    {connection : TcpConnection} (taken : step pcpp forwarder label = some next)
    (hosts : Hosts index call connection next) : Hosts index call connection forwarder := by
  constructor
  · exact fun key own => hosts.key key (step_keepsOwners taken _ _ own)
  · intro task located
    have within := (List.getElem?_eq_some_iff.mp located).1
    cases step_forwarder taken with
    | overwritten | passedThrough | passThroughFailed | closedAll | cleared =>
        exact hosts.reader task located
    | launched =>
        exact hosts.reader task ((List.getElem?_append_left within).trans located)
    | @resumed other moved answer effect job found stepped =>
        by_cases same : index = other
        · subst same
          rw [located, Option.some.injEq] at found
          subst found
          obtain ⟨stage, reads⟩ := hosts.reader _ (TaskPool.getElem?_advance_self located)
          obtain ⟨rfl, rfl⟩ := Task.mk.inj reads
          obtain ⟨before, same⟩ := stepped.reader_from
          exact ⟨before, by rw [← same]⟩
        · exact hosts.reader task ((TaskPool.getElem?_advance_other same within).trans located)

theorem hosts_of_run {labels : List Label} {final : Forwarder} {index : Nat} {call : ForwardCall}
    {connection : TcpConnection} {stage : ReaderStage}
    (ran : Transition.run (step pcpp) initial labels = some final)
    (located : final.tasks[index]? = some ⟨call, .reader connection stage⟩) {history : List Label}
    {forwarder : Forwarder} (earlier : history <+: labels)
    (reached : Transition.run (step pcpp) initial history = some forwarder) :
    Hosts index call connection forwarder := by
  obtain ⟨rest, rfl⟩ := earlier
  obtain ⟨middle, toMiddle, fromMiddle⟩ := Transition.run_append_iff.mp ran
  rw [reached, Option.some.injEq] at toMiddle
  subst toMiddle
  have owns := (owned_of_run ran).tasks _ (List.mem_of_getElem? located)
  refine Transition.run_reflects (Hosts index call connection)
    (fun _ _ _ taken hosts => hosts.before taken) fromMiddle ⟨fun key own => ?_, fun task found => ?_⟩
  · rw [owns.1.1, Option.some.injEq] at own
    rw [← own, owns.1.2]
  · rw [located, Option.some.injEq] at found
    exact ⟨stage, found.symm⟩

/-! The entry of the connection. -/

theorem HasEntry.filed {forwarder : Forwarder} {connection : TcpConnection} (owned : Owned forwarder)
    (entry : HasEntry connection forwarder) : Filed forwarder connection.socket := by
  obtain ⟨registered, located, same⟩ := entry
  exact same ▸ owned.filed located

theorem Hosts.entry {forwarder : Forwarder} {index : Nat} {call : ForwardCall}
    {connection : TcpConnection} (hosts : Hosts index call connection forwarder)
    (filed : Filed forwarder connection.socket) : HasEntry connection forwarder := by
  obtain ⟨key, registered, own, located, same⟩ := filed
  rw [hosts.key key own] at located
  exact ⟨registered, located, same⟩

/-- The connection is registered and its socket open, once it has been registered,
and its reader is in the loop. -/
structure Alive (index : Nat) (connection : TcpConnection) (registered : Prop)
    (forwarder : Forwarder) : Prop where
  entry : registered → HasEntry connection forwarder ∧ forwarder.isClosed connection.socket = false
  reading : ∀ call stage, forwarder.tasks[index]? = some ⟨call, .reader connection stage⟩ →
    stage.inLoop

private theorem data_built {call : ForwardCall} {endpoints : Endpoints}
    (reported : call.traffic.Reports endpoints) (responseData : List UInt8) :
    buildTcpResponsePacket pcpp responseData call.traffic.dstIp call.traffic.dstPort "10.0.0.2"
      call.traffic.srcPort ≠ none := by
  obtain ⟨-, dstIp, -⟩ := reported
  have source : IPv4Address.ofString call.traffic.dstIp = some endpoints.dst := by
    rw [dstIp, IPv4Address.ofString_toString]
  simp [buildTcpResponsePacket, source, vpnAddress_text]

/-- A reader leaves the loop only at an end of the stream, a failure or a timeout. -/
theorem ReaderStep.goes_on {forwarder : Forwarder} {call : ForwardCall} {connection : TcpConnection}
    {stage next : ReaderStage} {answer : Answer} {effect : Effect} {endpoints : Endpoints}
    (stepped : ReaderStep pcpp forwarder call connection stage answer effect next)
    (reported : call.traffic.Reports endpoints) (inLoop : stage.inLoop)
    (opened : forwarder.isClosed connection.socket = false) (notEnded : answer ≠ .endOfStream)
    (inTime : answer ≠ .timesOut) (succeeds : answer ≠ .throws) : next.inLoop ∧ Quiet effect := by
  cases stepped with
  | foundClosed closed =>
      rw [opened] at closed
      cases closed
  | foundOpen | chunkRead | built | written => exact ⟨rfl, True.intro⟩
  | ended ends =>
      rcases ends with ended | timedOut | failed
      · exact absurd ended notEnded
      · exact absurd timedOut inTime
      · exact absurd failed succeeds
  | buildFailed invalid => exact absurd invalid (data_built reported _)
  | buildThrew | writeFailed => exact absurd rfl succeeds
  | removed | nothingToRemove | closed => cases inLoop

section Step

variable {labels : List Label} {forwarder : Forwarder} {index : Nat} {call : ForwardCall}
  {connection : TcpConnection}

theorem reader_registered
    (reached : Transition.run (step pcpp) initial labels = some forwarder) {stage : ReaderStage}
    (located : forwarder.tasks[index]? = some ⟨call, .reader connection stage⟩) :
    EverRegistered pcpp labels connection.socket :=
  carried_registered reached (List.mem_of_getElem? located) rfl

private theorem initial_idle (index : Nat) : initial.tasks[index]? = none := List.getElem?_nil

/-- The reader after a step is where it was, is a new one, or has taken the step. -/
theorem reader_of_step {next : Forwarder} {label : Label} {stage : ReaderStage}
    (taken : Forwarder.step pcpp forwarder label = some next)
    (located : next.tasks[index]? = some ⟨call, .reader connection stage⟩) :
    forwarder.tasks[index]? = some ⟨call, .reader connection stage⟩ ∨ stage = .isClosed ∨
      ∃ before answer effect, label = .task index answer ∧
        forwarder.tasks[index]? = some ⟨call, .reader connection before⟩ ∧
        JobStep pcpp forwarder call (.reader connection before) answer effect (.reader connection stage) ∧
        next = forwarder.resume call index effect (.reader connection stage) := by
  have stepped := step_forwarder taken
  cases stepped with
  | overwritten | passedThrough | passThroughFailed | closedAll | cleared => exact .inl located
  | launched held first =>
      rcases TaskPool.getElem?_append_cases located with old | ⟨-, new⟩
      · exact .inl old
      · cases List.mem_singleton.mp (List.mem_of_getElem? new)
        rcases first with ⟨-, job⟩ | ⟨-, job⟩ <;> cases job
  | @resumed other task answer effect job found stepped =>
      rcases TaskPool.getElem?_advance_cases found located with ⟨rfl, same⟩ | ⟨-, old⟩ | ⟨-, new⟩
      · obtain ⟨sameCall, sameJob⟩ := Task.mk.inj same
        obtain ⟨taskCall, taskJob⟩ := task
        subst sameCall sameJob
        obtain ⟨before, rfl⟩ := stepped.reader_from
        exact .inr (.inr ⟨before, answer, effect, rfl, found, stepped, rfl⟩)
      · exact .inl old
      · obtain ⟨started, same⟩ := stepped.launched _ (List.mem_of_getElem? new)
        rw [Task.mk.injEq, Job.reader.injEq] at same
        exact .inr (.inl same.2.2)

/-- A step that the reader takes itself. -/
theorem Alive.own {endpoints : Endpoints} {before : ReaderStage} {answer : Answer} {effect : Effect}
    {job : Job} (alive : Alive index connection (EverRegistered pcpp labels connection.socket) forwarder)
    (reached : Transition.run (step pcpp) initial labels = some forwarder)
    (reported : call.traffic.Reports endpoints)
    (located : forwarder.tasks[index]? = some ⟨call, .reader connection before⟩)
    (stepped : JobStep pcpp forwarder call (.reader connection before) answer effect job)
    (faultless : Faultless index connection forwarder (.task index answer))
    (inTime : answer ≠ .timesOut) (notEnded : answer ≠ .endOfStream) :
    Quiet effect ∧ ∀ stage, job = .reader connection stage → stage.inLoop := by
  obtain ⟨-, opened⟩ := alive.entry (reader_registered reached located)
  have succeeds : answer ≠ .throws := by
    intro failed
    exact nomatch opened.symm.trans (faultless rfl failed)
  cases stepped with
  | reader stepped =>
      obtain ⟨inLoop, quiet⟩ := stepped.goes_on reported (alive.reading _ _ located) opened notEnded
        inTime succeeds
      refine ⟨quiet, fun stage same => ?_⟩
      cases same
      exact inLoop

/-- Another coroutine takes a step. -/
theorem Alive.other {other : Nat} {task : Task} {answer : Answer} {effect : Effect} {job : Job}
    (alive : Alive index connection (EverRegistered pcpp labels connection.socket) forwarder)
    (reached : Transition.run (step pcpp) initial labels = some forwarder)
    (hosts : Hosts index call connection (forwarder.resume task.call other effect job))
    (taken : step pcpp forwarder (.task other answer) = some (forwarder.resume task.call other effect job))
    (located : forwarder.tasks[other]? = some task) (distinct : index ≠ other)
    (stepped : JobStep pcpp forwarder task.call task.job answer effect job)
    (undisturbed : Undisturbed index connection forwarder (.task other answer))
    (registered : EverRegistered pcpp (labels ++ [.task other answer]) connection.socket) :
    HasEntry connection (forwarder.resume task.call other effect job) ∧
      (forwarder.resume task.call other effect job).isClosed connection.socket = false := by
  have owned := owned_of_run reached
  have exclusive := exclusive_of_run reached
  have inPool := List.mem_of_getElem? located
  have hold := stepped.hold (owned.tasks task inPool)
  rw [Undisturbed, if_neg distinct.symm] at undisturbed
  rcases (Transition.occurs_append_singleton reached).mp registered with before | now
  · obtain ⟨entry, opened⟩ := alive.entry before
    obtain ⟨held, filed, same⟩ := entry
    constructor
    · rcases hold.keepsEntry filed other task.call with stays | ⟨ofFlow, registers | closing⟩
      · exact ⟨held, stays, same⟩
      · have calm := undisturbed ⟨held, filed, same⟩ task located ofFlow.symm
        rw [calm.1] at registers
        cases registers
      · have calm := undisturbed ⟨held, filed, same⟩ task located ofFlow.symm
        obtain ⟨removed, closes, -⟩ := closes_iff.mp closing
        rw [stepped.closes_removed closes] at calm
        cases calm.2
    · exact hold.isClosed opened (same ▸ exclusive.entries task inPool _ held filed) other task.call
  · refine ⟨hosts.entry (now.filed owned taken), ?_⟩
    obtain ⟨same, sameLocated, registering⟩ := now
    obtain rfl := Option.mem_unique located sameLocated
    have opened := opening_open reached ⟨task, inPool, .inr registering⟩
    rw [registering] at hold
    rw [hold.registers]
    exact opened

theorem Alive.step {endpoints : Endpoints} {next : Forwarder} {label : Label}
    (alive : Alive index connection (EverRegistered pcpp labels connection.socket) forwarder)
    (reached : Transition.run (Forwarder.step pcpp) initial labels = some forwarder)
    (reported : call.traffic.Reports endpoints) (before : Hosts index call connection forwarder)
    (after : Hosts index call connection next)
    (faultless : Faultless index connection forwarder label)
    (undisturbed : Undisturbed index connection forwarder label)
    (notEnded : answerFor index label ≠ some .endOfStream)
    (taken : Forwarder.step pcpp forwarder label = some next) :
    Alive index connection (EverRegistered pcpp (labels ++ [label]) connection.socket) next := by
  have ownAnswer : ∀ answer, label = .task index answer →
      answer ≠ .timesOut ∧ answer ≠ .endOfStream := by
    rintro answer rfl
    rw [Undisturbed, if_pos rfl] at undisturbed
    refine ⟨undisturbed, ?_⟩
    rintro rfl
    exact notEnded (if_pos rfl)
  constructor
  · intro registered
    have once : EverRegistered pcpp labels connection.socket ∨
        Registers connection.socket forwarder label :=
      (Transition.occurs_append_singleton reached).mp registered
    have stepped := step_forwarder taken
    cases stepped with
    | overwritten | passedThrough | passThroughFailed | launched =>
        exact alive.entry (once.resolve_right id)
    | closedAll | cleared => exact faultless.elim
    | @resumed other task answer effect job located stepped =>
        by_cases own : index = other
        · subst own
          obtain ⟨stage, rfl⟩ := before.reader task located
          obtain ⟨inTime, goesOn⟩ := ownAnswer answer rfl
          obtain ⟨quiet, -⟩ := alive.own reached reported located stepped faultless inTime goesOn
          obtain ⟨sameMap, sameSockets⟩ := perform_quiet quiet forwarder index call
          obtain ⟨entry, opened⟩ := alive.entry (reader_registered reached located)
          constructor
          · change ∃ registered ∈ (forwarder.perform index call effect).tcpConnections.lookup _, _
            rw [sameMap]
            exact entry
          · change ((forwarder.perform index call effect).sockets[_]?).elim true _ = false
            rw [sameSockets]
            exact opened
        · exact alive.other reached after taken located own stepped undisturbed registered
  · intro reads stage located
    rcases reader_of_step taken located with
      old | rfl | ⟨last, answer, effect, rfl, found, stepped, -⟩
    · exact alive.reading reads stage old
    · rfl
    · obtain ⟨same, sameReads⟩ := before.reader _ found
      obtain ⟨rfl, -⟩ := Task.mk.inj sameReads
      obtain ⟨inTime, goesOn⟩ := ownAnswer answer rfl
      exact (alive.own reached reported found stepped faultless inTime goesOn).2 stage rfl

theorem alive_of_run {endpoints : Endpoints}
    (ran : Transition.run (Forwarder.step pcpp) initial labels = some forwarder)
    (hosts : Hosts index call connection forwarder) (reported : call.traffic.Reports endpoints)
    (guarded : Transition.Guarded (Forwarder.step pcpp) (fun state label =>
      Faultless index connection state label ∧ Undisturbed index connection state label ∧
        answerFor index label ≠ some .endOfStream) initial labels) :
    Alive index connection (EverRegistered pcpp labels connection.socket) forwarder := by
  refine guarded.induction (fun labels forwarder => Hosts index call connection forwarder →
    Alive index connection (EverRegistered pcpp labels connection.socket) forwarder) ?_ ?_ ran hosts
  · intro labels forwarder label next reached admitted alive taken hosts
    have before := hosts.before taken
    exact (alive before).step reached reported before hosts admitted.1 admitted.2.1 admitted.2.2 taken
  · exact fun _ => ⟨False.elim, fun _ _ located => nomatch (initial_idle index).symm.trans located⟩

theorem JobStep.removes_entry {answer : Answer} {effect : Effect}
    {stage next : ReaderStage}
    (stepped : JobStep pcpp forwarder call (.reader connection stage) answer effect
      (.reader connection next))
    (before : stage.hasRemoved = false) (after : next.hasRemoved) :
    removes (.reader connection stage) := by
  cases stepped with
  | reader stepped =>
      cases stepped with
      | foundClosed | foundOpen | chunkRead | ended | buildFailed | buildThrew | built | written | writeFailed =>
          cases after
      | removed | nothingToRemove => rfl
      | closed => cases before

/-- A reader whose connection keeps its entry has not removed it. -/
theorem reader_not_removed
    (ran : Transition.run (Forwarder.step pcpp) initial labels = some forwarder)
    (hosts : Hosts index call connection forwarder)
    (stays : StaysRegistered pcpp connection labels) {stage : ReaderStage}
    (located : forwarder.tasks[index]? = some ⟨call, .reader connection stage⟩) :
    stage.hasRemoved = false := by
  refine Transition.run_induction (fun labels forwarder => Hosts index call connection forwarder →
    StaysRegistered pcpp connection labels → ∀ stage,
      forwarder.tasks[index]? = some ⟨call, .reader connection stage⟩ → stage.hasRemoved = false)
    ?_ (fun _ _ _ located => nomatch (initial_idle index).symm.trans located) ran hosts stays stage located
  intro labels forwarder label next reached kept taken hosts stays stage located
  have earlier : StaysRegistered pcpp connection labels :=
    fun history middle within => stays history middle (within.trans (List.prefix_append _ _))
  rcases reader_of_step taken located with
    old | rfl | ⟨last, answer, effect, rfl, found, stepped, rfl⟩
  · exact kept (hosts.before taken) earlier stage old
  · rfl
  · by_contra removed
    have notYet := kept (hosts.before taken) earlier last found
    have owns := (owned_of_run reached).tasks _ (List.mem_of_getElem? found)
    obtain ⟨registered, entry, -⟩ : HasEntry connection _ := stays _ _ (List.prefix_refl _)
      (Transition.run_append_singleton reached taken)
      ((reader_registered reached found).earlier reached _)
    have removes := stepped.removes_entry notYet (Bool.not_eq_false _ ▸ removed)
    rw [Option.mem_def, owns.1.2] at entry
    rcases (stepped.entry owns index).mp (Option.isSome_of_eq_some entry) with
      registering | ⟨-, stays⟩
    · cases last <;> cases registering
    · exact stays removes

end Step

/-! The run up to the end of the stream. -/

theorem beforeEnd_prefix (index : Nat) (labels : List Label) : beforeEnd index labels <+: labels :=
  List.takeWhile_prefix _

theorem not_end_of_mem {index : Nat} {labels : List Label} {label : Label}
    (member : label ∈ beforeEnd index labels) : answerFor index label ≠ some .endOfStream := by
  unfold beforeEnd at member
  have selected := List.mem_takeWhile_imp member
  simpa using selected

theorem beforeEnd_eq_self {index : Nat} {labels : List Label}
    (never : .endOfStream ∉ answers index labels) : beforeEnd index labels = labels := by
  refine List.takeWhile_eq_self_iff.mpr fun label member => decide_eq_true fun ends => never ?_
  exact List.mem_filterMap.mpr ⟨label, member, ends⟩

section Relayed

variable {labels : List Label} {final : Forwarder} {index : Nat} {call : ForwardCall}
  {connection : TcpConnection} {sent : List UInt8}

theorem StaysRegistered.ends (stays : StaysRegistered pcpp connection (beforeEnd index labels))
    (ran : Transition.run (step pcpp) initial labels = some final)
    (located : final.tasks[index]? = some ⟨call, .reader connection .done⟩) :
    .endOfStream ∈ answers index labels := by
  by_contra never
  rw [beforeEnd_eq_self never] at stays
  exact nomatch reader_not_removed ran (hosts_of_run ran located (List.prefix_refl _) ran) stays located

/-- A coroutine of the flow that leaves the connection its entry neither registers
nor removes one. -/
theorem JobStep.spares_entry {forwarder : Forwarder} {other : Nat} {task : Task} {answer : Answer}
    {effect : Effect} {job : Job} (owned : Owned forwarder) (exclusive : Exclusive forwarder)
    (inPool : task ∈ forwarder.tasks) (ofFlow : task.call.key = connection.key)
    (stepped : JobStep pcpp forwarder task.call task.job answer effect job)
    (before : HasEntry connection forwarder)
    (after : HasEntry connection (forwarder.resume task.call other effect job)) :
    (holdOf task.job).isRegistering = false ∧ removes task.job = false := by
  have owns := owned.tasks task inPool
  obtain ⟨held, filed, same⟩ := before
  obtain ⟨later, located, sameLater⟩ := after
  rw [Option.mem_def, ← ofFlow] at filed located
  have unregistering : (holdOf task.job).isRegistering = false := by
    by_contra registering
    obtain ⟨socket, registering⟩ := Hold.isRegistering_iff.mp ((Bool.not_eq_false _).mp registering)
    have hold := stepped.hold owns
    rw [registering] at hold
    rw [Forwarder.resume, hold.registers, perform, AList.lookup_insert, Option.some.injEq] at located
    subst located
    have handed : heldBy task = some socket := heldBy_of_hold registering
    exact exclusive.entries task inPool _ held filed (handed.trans (congrArg some (sameLater.trans same.symm)))
  refine ⟨unregistering, Bool.eq_false_iff.mpr fun removes => ?_⟩
  rcases (stepped.entry owns other).mp (Option.isSome_of_eq_some located) with registering | ⟨-, stays⟩
  · rw [unregistering] at registering
    cases registering
  · exact stays removes

theorem StaysRegistered.undisturbed {history : List Label} {label : Label} {forwarder next : Forwarder}
    (stays : StaysRegistered pcpp connection (history ++ [label]))
    (reached : Transition.run (step pcpp) initial history = some forwarder)
    (taken : step pcpp forwarder label = some next)
    (inTime : answerFor index label ≠ some .timesOut) : Undisturbed index connection forwarder label := by
  cases label with
  | overwrite | forwardPacket | cleanup | clear => exact True.intro
  | task other answer =>
      by_cases own : other = index
      · rw [Undisturbed, if_pos own]
        rintro rfl
        exact inTime (if_pos own)
      · rw [Undisturbed, if_neg own]
        intro entry task located ofFlow
        have owned := owned_of_run reached
        have registered := everRegistered_of_run reached (.inl (entry.filed owned))
        have after : HasEntry connection next := stays _ _ (List.prefix_refl _)
          (Transition.run_append_singleton reached taken) (registered.earlier reached _)
        cases step_forwarder taken with
        | resumed found stepped =>
            rw [Option.mem_def, found, Option.some.injEq] at located
            subst located
            exact stepped.spares_entry owned (exclusive_of_run reached) (List.mem_of_getElem? found) ofFlow
              entry after

/-- The bytes of the remote end come through, and the connection keeps its entry up
to the end of the stream, exactly if the reader is not disturbed before that. -/
theorem relayed_iff (ran : Transition.run (step pcpp) initial labels = some final)
    (located : final.tasks[index]? = some ⟨call, .reader connection .done⟩) {endpoints : Endpoints}
    (reported : call.traffic.Reports endpoints)
    (streams : Streams pcpp index connection sent labels) :
    bytesForwarded (contents index final) = sent ∧
        StaysRegistered pcpp connection (beforeEnd index labels) ↔
      Transition.Guarded (step pcpp) (Undisturbed index connection) initial (beforeEnd index labels) := by
  have within := beforeEnd_prefix index labels
  have streaming := streaming_of_run ran located
  constructor
  · rintro ⟨-, stays⟩
    have inTime : .timesOut ∉ answers index labels := by
      cases streaming with
      | inLoop goes => cases goes
      | left _ complete => exact (complete (stays.ends ran located)).1
    refine Transition.guarded_iff_forall_step.mpr fun history label forwarder inside reached => ?_
    obtain ⟨next, taken⟩ := Transition.step_of_prefix ran (inside.trans within) reached
    have staysInside : StaysRegistered pcpp connection (history ++ [label]) :=
      fun before middle first => stays before middle (first.trans inside)
    refine staysInside.undisturbed reached taken fun timesOut => inTime ?_
    refine List.mem_filterMap.mpr ⟨label, ?_, timesOut⟩
    exact (inside.trans within).subset (List.mem_append_right _ List.mem_cons_self)
  · intro undisturbed
    have alive (history : List Label) (forwarder : Forwarder) (inside : history <+: beforeEnd index labels)
        (reached : Transition.run (step pcpp) initial history = some forwarder) :
        Alive index connection (EverRegistered pcpp history connection.socket) forwarder := by
      refine alive_of_run reached (hosts_of_run ran located (inside.trans within) reached) reported ?_
      refine Transition.guarded_iff_forall_step.mpr fun before label state first toState => ⟨?_, ?_, ?_⟩
      · exact Transition.guarded_iff_forall_step.mp streams.faultless before label state
          ((first.trans inside).trans within) toState
      · exact Transition.guarded_iff_forall_step.mp undisturbed before label state (first.trans inside) toState
      · exact not_end_of_mem ((first.trans inside).subset (List.mem_append_right _ List.mem_cons_self))
    have stays : StaysRegistered pcpp connection (beforeEnd index labels) :=
      fun history forwarder inside reached registered => ((alive history forwarder inside reached).entry registered).1
    have ended := stays.ends ran located
    refine ⟨?_, stays⟩
    cases streaming with
    | inLoop goes => cases goes
    | left _ complete => rw [← (complete ended).2, streams.ended ended]

end Relayed

/-- The connection of the handshake, whose reader is the coroutine at 1. -/
def webConnection : TcpConnection := newTcpConnection 0 webKey

def greeting : List UInt8 := [0x68, 0x69]

/-- The server greets and ends its stream. -/
def greeted : List Label := handshake 0 ++ readChunk greeting ++ serverEnds

private theorem web_reported : (callOf (synPacket 0).bytes).traffic.Reports
    ⟨vpnAddress, 40000, ⟨93, 184, 216, 34⟩, 443⟩ := by
  decide +kernel

theorem greeting_relayed :
    ∃ final, Transition.run (step .headerRules) initial greeted = some final ∧
      bytesForwarded (contents 1 final) = greeting ∧
        StaysRegistered .headerRules webConnection (beforeEnd 1 greeted) := by
  have observed : (Transition.run (step .headerRules) initial greeted).map
      (fun final => final.tasks[1]?) =
        some (some ⟨callOf (synPacket 0).bytes, .reader webConnection .done⟩) := by
    decide +kernel
  obtain ⟨final, ran, located⟩ := Option.map_eq_some_iff.mp observed
  have streams : Streams .headerRules 1 webConnection greeting greeted :=
    ⟨by decide +kernel, by decide +kernel, by decide +kernel, by decide +kernel⟩
  exact ⟨final, ran, (relayed_iff ran located web_reported streams).mpr (by decide +kernel)⟩

/-- The server greets, and is silent for longer than `soTimeout` before it goes on. -/
def pausing : List Label :=
  handshake 0 ++ readChunk greeting ++
    [.task 1 .returns, .task 1 .timesOut, .task 1 .returns, .task 1 .returns]

theorem pause_ends_relay :
    ¬ ∀ (pcpp : PcapPlusPlus) (labels : List Label) (final : Forwarder) (index : Nat)
        (call : ForwardCall) (connection : TcpConnection) (endpoints : Endpoints) (sent : List UInt8),
      Transition.run (step pcpp) initial labels = some final →
      final.tasks[index]? = some ⟨call, .reader connection .done⟩ →
      call.traffic.Reports endpoints → Streams pcpp index connection sent labels →
      bytesForwarded (contents index final) = sent ∧
        StaysRegistered pcpp connection (beforeEnd index labels) := by
  intro all
  have observed : (Transition.run (step .headerRules) initial pausing).map
      (fun final => (final.tasks[1]?, bytesForwarded (contents 1 final))) =
        some (some ⟨callOf (synPacket 0).bytes, .reader webConnection .done⟩, greeting) := by
    decide +kernel
  obtain ⟨final, ran, seen⟩ := Option.map_eq_some_iff.mp observed
  obtain ⟨located, relayed⟩ := Prod.mk.inj seen
  have streams : Streams .headerRules 1 webConnection (greeting ++ [0x21]) pausing :=
    ⟨by decide +kernel, by decide +kernel, by decide +kernel, by decide +kernel⟩
  have complete := (all _ _ final 1 _ _ _ _ ran located web_reported streams).1
  rw [relayed] at complete
  exact absurd complete (by decide)

end Forwarder

end FirewallVpn
