import FirewallVpn.Forwarder.Frame

/-! A flow whose coroutines write in the order of their packets and whose
connection is cleaned up only when nothing is left to write: the schedules under
which the stream of the app reaches the remote side whole. -/

set_option autoImplicit false

namespace FirewallVpn

namespace Forwarder

open TaskPool

/-- A coroutine of `forwardTcpPacket` for the flow. -/
def ofFlow (key : String) (task : Task) : Bool :=
  match task.job with
  | .tcp _ => task.call.key = key
  | _ => false

/-- The flow's packets from a coroutine on, each with the index of its coroutine. -/
def packets (key : String) (first : Nat) (forwarder : Forwarder) : List (ForwardCall × Nat) :=
  (view (ofFlow key) first forwarder.tasks).map fun entry => (entry.1.call, entry.2)

/-- The open socket is the one filed under the key. -/
def Registered (key : String) (socket : Nat) (forwarder : Forwarder) : Prop :=
  (forwarder.tcpConnections.lookup key).map TcpConnection.socket = some socket ∧
    forwarder.isClosed socket = false

instance (key : String) (socket : Nat) (forwarder : Forwarder) :
    Decidable (Registered key socket forwarder) :=
  inferInstanceAs (Decidable (_ ∧ _))

section Schedule

/-! `flagsOf` and `payloadOf` are what the coroutine of a call is to see in the
buffer; coroutines from index `first` on count as the flow's. -/

variable (pcpp : PcapPlusPlus) (flagsOf : ForwardCall → Nat) (payloadOf : ForwardCall → List UInt8)
  (key : String) (socket first : Nat)

/-- The bytes a coroutine at this stage has still to write. -/
def pendingPayload (call : ForwardCall) : TcpStage → List UInt8
  | .getTcpFlags | .extractTcpPayload _ => payloadOf call
  | .lookup _ payload => payload.getD []
  | .write _ payload _ => payload
  | _ => []

def taskPending (task : Task) : List UInt8 :=
  match task.job with
  | .tcp stage => pendingPayload payloadOf task.call stage
  | _ => []

/-- The write a payload leads to, if it is not empty. -/
def asWrite (index : Nat) (payload : List UInt8) : List (Nat × List UInt8) :=
  if payload = [] then [] else [(index, payload)]

/-- The writes that the flow's coroutines have still to make. -/
def pendingWrites (forwarder : Forwarder) : List (Nat × List UInt8) :=
  (view (ofFlow key) first forwarder.tasks).flatMap fun entry =>
    asWrite entry.2 (taskPending payloadOf entry.1)

/-- The writes of all packets of the flow, in the order of the packets. -/
def packetWrites (forwarder : Forwarder) : List (Nat × List UInt8) :=
  (packets key first forwarder).flatMap fun packet => asWrite packet.2 (payloadOf packet.1)

def EarlierWritten (forwarder : Forwarder) (index : Nat) : Prop :=
  ∀ task ∈ forwarder.tasks.take index, ofFlow key task → taskPending payloadOf task = []

/-- A coroutine of the flow sees its own packet in the buffer. -/
def SeesPacket (forwarder : Forwarder) (task : Task) : Prop :=
  match task.job with
  | .tcp .getTcpFlags => getTcpFlags pcpp forwarder.byteArray task.call.length = flagsOf task.call
  | .tcp (.extractTcpPayload _) =>
      (extractTcpPayload pcpp forwarder.byteArray task.call.length).getD [] = payloadOf task.call
  | _ => True

/-- A coroutine with the flow's key writes or cleans up when it is its turn. -/
def TaskInTurn (forwarder : Forwarder) (index : Nat) (answer : Answer) (task : Task) : Prop :=
  match task.job with
  | .tcp (.write _ _ _) => answer = .returns ∧ EarlierWritten payloadOf key forwarder index
  | .tcp (.remove _) => EarlierWritten payloadOf key forwarder index
  | .reader _ .remove | .reader _ (.close _) => pendingWrites payloadOf key first forwarder = []
  | _ => True

/-- A packet of the flow finds the connection registered, is no SYN and follows
no FIN; its coroutine sees it. -/
def AsSent (forwarder : Forwarder) : Label → Prop
  | .forwardPacket call _ =>
      call.key = key → call.traffic.protocolByte = .tcp →
        Registered key socket forwarder ∧ hasSyn (flagsOf call) = false ∧
          ∀ packet ∈ packets key first forwarder, hasFin (flagsOf packet.1) = false
  | .task index _ =>
      ∀ task ∈ forwarder.tasks[index]?, task.call.key = key →
        SeesPacket pcpp flagsOf payloadOf forwarder task
  | .overwrite _ | .cleanup | .clear => True

/-- No payload is written before an earlier one, or lost to a failing write or
to a connection closed too early. -/
def InTurn (forwarder : Forwarder) : Label → Prop
  | .task index answer =>
      ∀ task ∈ forwarder.tasks[index]?, task.call.key = key →
        TaskInTurn payloadOf key first forwarder index answer task
  | .cleanup | .clear => pendingWrites payloadOf key first forwarder = []
  | .overwrite _ | .forwardPacket _ _ => True

def InOrder (forwarder : Forwarder) (label : Label) : Prop :=
  AsSent pcpp flagsOf payloadOf key socket first forwarder label ∧
    InTurn payloadOf key first forwarder label

instance (forwarder : Forwarder) (index : Nat) :
    Decidable (EarlierWritten payloadOf key forwarder index) :=
  inferInstanceAs (Decidable (∀ task ∈ forwarder.tasks.take index, _ → _))

instance (forwarder : Forwarder) :
    ∀ task, Decidable (SeesPacket pcpp flagsOf payloadOf forwarder task)
  | ⟨_, .tcp .getTcpFlags⟩ => inferInstanceAs (Decidable (_ = _))
  | ⟨_, .tcp (.extractTcpPayload _)⟩ => inferInstanceAs (Decidable (_ = _))
  | ⟨_, .udp _⟩ | ⟨_, .reader _ _⟩ | ⟨_, .tcp .create⟩ | ⟨_, .tcp (.protect _)⟩
  | ⟨_, .tcp (.soTimeout _)⟩ | ⟨_, .tcp (.connect _)⟩ | ⟨_, .tcp (.register _)⟩
  | ⟨_, .tcp (.buildSynAck _)⟩ | ⟨_, .tcp (.writeSynAck _ _)⟩ | ⟨_, .tcp (.startReader _)⟩
  | ⟨_, .tcp (.lookup _ _)⟩ | ⟨_, .tcp (.write _ _ _)⟩ | ⟨_, .tcp (.remove _)⟩
  | ⟨_, .tcp (.close _ _)⟩ | ⟨_, .tcp .done⟩ => .isTrue trivial

instance (forwarder : Forwarder) (index : Nat) (answer : Answer) :
    ∀ task, Decidable (TaskInTurn payloadOf key first forwarder index answer task)
  | ⟨_, .tcp (.write _ _ _)⟩ => inferInstanceAs (Decidable (_ ∧ _))
  | ⟨_, .tcp (.remove _)⟩ => inferInstanceAs (Decidable (EarlierWritten _ _ _ _))
  | ⟨_, .reader _ .remove⟩ => inferInstanceAs (Decidable (_ = _))
  | ⟨_, .reader _ (.close _)⟩ => inferInstanceAs (Decidable (_ = _))
  | ⟨_, .udp _⟩ | ⟨_, .tcp .getTcpFlags⟩ | ⟨_, .tcp (.extractTcpPayload _)⟩ | ⟨_, .tcp .create⟩
  | ⟨_, .tcp (.protect _)⟩ | ⟨_, .tcp (.soTimeout _)⟩ | ⟨_, .tcp (.connect _)⟩
  | ⟨_, .tcp (.register _)⟩ | ⟨_, .tcp (.buildSynAck _)⟩ | ⟨_, .tcp (.writeSynAck _ _)⟩
  | ⟨_, .tcp (.startReader _)⟩ | ⟨_, .tcp (.lookup _ _)⟩ | ⟨_, .tcp (.close _ _)⟩
  | ⟨_, .tcp .done⟩ | ⟨_, .reader _ .isClosed⟩ | ⟨_, .reader _ .read⟩ | ⟨_, .reader _ (.build _)⟩
  | ⟨_, .reader _ (.write _ _)⟩ | ⟨_, .reader _ .done⟩ => .isTrue trivial

instance (forwarder : Forwarder) :
    ∀ label, Decidable (AsSent pcpp flagsOf payloadOf key socket first forwarder label)
  | .forwardPacket _ _ => inferInstanceAs (Decidable (_ → _ → _ ∧ _ ∧ ∀ packet ∈ packets _ _ _, _))
  | .task index _ => inferInstanceAs (Decidable (∀ task ∈ forwarder.tasks[index]?, _ → _))
  | .overwrite _ | .cleanup | .clear => .isTrue trivial

instance (forwarder : Forwarder) :
    ∀ label, Decidable (InTurn payloadOf key first forwarder label)
  | .task index _ => inferInstanceAs (Decidable (∀ task ∈ forwarder.tasks[index]?, _ → _))
  | .cleanup | .clear => inferInstanceAs (Decidable (_ = _))
  | .overwrite _ | .forwardPacket _ _ => .isTrue trivial

instance (forwarder : Forwarder) (label : Label) :
    Decidable (InOrder pcpp flagsOf payloadOf key socket first forwarder label) :=
  inferInstanceAs (Decidable (_ ∧ _))

/-- Where a coroutine of the flow can be, and what it then holds. -/
def FlowStage (call : ForwardCall) : TcpStage → Prop
  | .getTcpFlags | .done => True
  | .extractTcpPayload flags => flags = flagsOf call
  | .lookup flags payload => flags = flagsOf call ∧ payload.getD [] = payloadOf call
  | .write connection payload flags =>
      flags = flagsOf call ∧ payload = payloadOf call ∧ payload ≠ [] ∧ connection.socket = socket
  | .remove finFollows | .close _ finFollows => finFollows = false ∧ hasFin (flagsOf call)
  | _ => False

/-- No coroutine of the flow has begun to close the connection. -/
structure Established (forwarder : Forwarder) : Prop where
  registered : Registered key socket forwarder
  unclosed : ∀ entry ∈ view (ofFlow key) first forwarder.tasks, ∀ connection finFollows,
    entry.1.job ≠ .tcp (.close connection finFollows)

/-- Nothing is left to write, and no packet can come any more. -/
structure Ended (forwarder : Forwarder) : Prop where
  drained : pendingWrites payloadOf key first forwarder = []
  last : (∃ packet ∈ packets key first forwarder, hasFin (flagsOf packet.1)) ∨
    ¬ Registered key socket forwarder

/-- The coroutines of the flow from before `first` are done. -/
def Settled (forwarder : Forwarder) : Prop :=
  ∀ task ∈ forwarder.tasks.take first, ofFlow key task → task.job = .tcp .done

def FlowDone (forwarder : Forwarder) : Prop :=
  ∀ task ∈ forwarder.tasks, ofFlow key task → task.job = .tcp .done

instance (forwarder : Forwarder) : Decidable (FlowDone key forwarder) :=
  inferInstanceAs (Decidable (∀ task ∈ forwarder.tasks, _ → _))

structure FlowState (base : List (Nat × List UInt8)) (forwarder : Forwarder) : Prop where
  owned : Owned forwarder
  owner : forwarder.owner socket = some key
  reached : first ≤ forwarder.tasks.length
  settled : Settled key first forwarder
  stages : ∀ entry ∈ view (ofFlow key) first forwarder.tasks,
    hasSyn (flagsOf entry.1.call) = false ∧
      ∀ stage, entry.1.job = .tcp stage → FlowStage flagsOf payloadOf socket entry.1.call stage
  fins : (packets key first forwarder).Pairwise fun earlier _ => hasFin (flagsOf earlier.1) = false
  balance : upstreamWrites socket forwarder ++ pendingWrites payloadOf key first forwarder =
    base ++ packetWrites payloadOf key first forwarder
  phase : Established key socket first forwarder ∨
    Ended flagsOf payloadOf key socket first forwarder

variable {pcpp flagsOf payloadOf key socket first}

@[simp] theorem asWrite_nil (index : Nat) : asWrite index [] = [] := rfl

theorem asWrite_eq_nil_iff {index : Nat} {payload : List UInt8} :
    asWrite index payload = [] ↔ payload = [] := by
  by_cases empty : payload = [] <;> simp [asWrite, empty]

theorem pendingWrites_eq_nil_iff {forwarder : Forwarder} :
    pendingWrites payloadOf key first forwarder = [] ↔
      ∀ entry ∈ view (ofFlow key) first forwarder.tasks, taskPending payloadOf entry.1 = [] := by
  simp only [pendingWrites, List.flatMap_eq_nil_iff, asWrite_eq_nil_iff]

theorem FlowDone.pendingWrites {forwarder : Forwarder} (done : FlowDone key forwarder) :
    pendingWrites payloadOf key first forwarder = [] := by
  refine pendingWrites_eq_nil_iff.mpr fun entry member => ?_
  obtain ⟨located, -, chosen⟩ := mem_view member
  rw [taskPending, done entry.1 (List.mem_of_getElem? located) chosen]
  rfl

end Schedule

end Forwarder

end FirewallVpn
