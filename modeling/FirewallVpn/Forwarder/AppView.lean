import FirewallVpn.Forwarder.Orphans
import FirewallVpn.Forwarder.OwnSteps
import FirewallVpn.Forwarder.Removal
import FirewallVpn.Forwarder.UpstreamOrder

/-! What the app believes of a flow, against the map of connections. The app sees
nothing but the packets on the TUN: a SYN-ACK opens the connection, a FIN or RST
of either side ends it. An observer of the run keeps the app's view. -/

set_option autoImplicit false

namespace FirewallVpn

namespace Forwarder

/-- FIN or RST is among the flags. -/
def endsConnection (flags : Nat) : Bool := flags &&& (TCP_FIN ||| TCP_RST) ≠ 0

/-- The app ends the flow with this packet. -/
def appEnds (pcpp : PcapPlusPlus) (key : String) (packet : List UInt8) : Bool :=
  let sent : ForwardCall :=
    { packet, traffic := parseRealPacket pcpp packet packet.length "", sourcePackageName := none }
  sent.traffic.protocolByte = .tcp && sent.key = key &&
    endsConnection (getTcpFlags pcpp packet packet.length)

/-- Whether the app believes the flow open after an output. -/
def hear (key : String) (believed : Bool) (output : Output) : Bool :=
  if output.call.key = key then
    match output.content with
    | .synAck _ _ => true
    | .data _ _ packet => believed && !endsConnection (tcpFlags packet)
    | .passThrough _ | .udpResponse _ _ | .upstream _ _ | .datagram _ _ => believed
  else believed

variable (pcpp : PcapPlusPlus) (key : String)

/-- What a step puts out. -/
def newOutputs (forwarder : Forwarder) (label : Label) : List Output :=
  match step pcpp forwarder label with
  | some next => next.outputs.drop forwarder.outputs.length
  | none => []

def appView (forwarder : Forwarder) (label : Label) (believed : Bool) : Bool :=
  match label with
  | .overwrite packet => believed && !appEnds pcpp key packet
  | .forwardPacket _ _ | .task _ _ | .cleanup | .clear =>
      (newOutputs pcpp forwarder label).foldl (hear key) believed

/-- The forwarder, and whether the app believes the flow open. -/
def viewed : Forwarder × Bool → Label → Option (Forwarder × Bool) :=
  Transition.observed (step pcpp) (appView pcpp key)

def unopened : Forwarder × Bool := (initial, false)

theorem viewed_run (labels : List Label) :
    (Transition.run (viewed pcpp key) unopened labels).map Prod.fst =
      Transition.run (step pcpp) initial labels :=
  Transition.run_observed initial _ labels

/-- A connection that the app believes open has its entry. -/
def Remembered (state : Forwarder × Bool) : Prop :=
  state.2 = true → (state.1.tcpConnections.lookup key).isSome

def writesSynAck : Job → Bool
  | .tcp (.writeSynAck _ _) => true
  | .udp _ | .tcp _ | .reader _ _ => false

/-- A coroutine does not execute `tcpConnections.remove(key)` while the app believes
its flow open, and writes a SYN-ACK only while the flow has an entry. -/
def JobKeeps (forwarder : Forwarder) (call : ForwardCall) (job : Job) (answer : Answer)
    (believed : Bool) : Prop :=
  (removes job → believed = false) ∧
    (writesSynAck job → answer = .returns → (forwarder.tcpConnections.lookup call.key).isSome)

/-- The coroutines of the flow keep what the app believes, and the map is not
cleared while it believes the flow open. -/
def KeepsBelieved (state : Forwarder × Bool) : Label → Prop
  | .task index answer => ∀ task ∈ state.1.tasks[index]?, task.call.key = key →
      JobKeeps state.1 task.call task.job answer state.2
  | .clear => state.2 = false
  | .overwrite _ | .forwardPacket _ _ | .cleanup => True

instance (forwarder : Forwarder) (call : ForwardCall) (job : Job) (answer : Answer) (believed : Bool) :
    Decidable (JobKeeps forwarder call job answer believed) :=
  inferInstanceAs (Decidable (_ ∧ _))

instance (state : Forwarder × Bool) : ∀ label, Decidable (KeepsBelieved key state label)
  | .task _ _ => inferInstanceAs (Decidable (∀ task ∈ _, _ → _))
  | .clear => inferInstanceAs (Decidable (_ = _))
  | .overwrite _ | .forwardPacket _ _ | .cleanup => .isTrue True.intro

variable {pcpp key}

/-- The forwarder itself never tells the app that a connection has ended. -/
theorem data_never_ends {labels : List Label} {final : Forwarder}
    (ran : Transition.run (step pcpp) initial labels = some final) {output : Output}
    (written : output ∈ final.outputs) {connection : TcpConnection} {responseData packet : List UInt8}
    (data : output.content = .data connection responseData packet) :
    endsConnection (tcpFlags packet) = false := by
  have built := ((builtInvariant pcpp).run ran).2 output written
  rw [data] at built
  rw [buildTcpResponsePacket_flags pcpp built.2]
  decide

theorem newOutputs_same {forwarder next : Forwarder} {label : Label}
    (taken : step pcpp forwarder label = some next) (same : next.outputs = forwarder.outputs) :
    newOutputs pcpp forwarder label = [] := by
  simp only [newOutputs, taken, same, List.drop_length]

theorem newOutputs_resumed {forwarder : Forwarder} {index : Nat} {task : Task} {answer : Answer}
    {effect : Effect} {job : Job}
    (taken : step pcpp forwarder (.task index answer) =
      some (forwarder.resume task.call index effect job)) :
    newOutputs pcpp forwarder (.task index answer) =
      effect.contents.map fun content => ⟨some index, task.call, content⟩ := by
  have outputs : (forwarder.resume task.call index effect job).outputs =
      forwarder.outputs ++ effect.contents.map fun content => ⟨some index, task.call, content⟩ := by
    change (forwarder.perform index task.call effect).outputs = _
    rw [perform_outputs]
    cases effect <;> simp [Effect.contents]
  simp only [newOutputs, taken, outputs, List.drop_left]

private theorem abandons_entry {stage : TcpStage} (abandons : stage.abandons) :
    removes (.tcp stage) = false ∧ (holdOf (.tcp stage)).isRegistering = false := by
  cases stage with
  | create | protect | soTimeout | connect | buildSynAck | writeSynAck => exact ⟨rfl, rfl⟩
  | getTcpFlags | extractTcpPayload | register | startReader | lookup | write | remove | close
  | done => cases abandons

/-- What a statement of a coroutine does to the entry of its flow. -/
theorem JobStep.entry {forwarder : Forwarder} {call : ForwardCall} {job next : Job} {answer : Answer}
    {effect : Effect} (owns : OwnsJob forwarder call.key job)
    (stepped : JobStep pcpp forwarder call job answer effect next) (index : Nat) :
    ((forwarder.perform index call effect).tcpConnections.lookup call.key).isSome ↔
      (holdOf job).isRegistering ∨
        (forwarder.tcpConnections.lookup call.key).isSome ∧ ¬ removes job := by
  cases stepped with
  | udp stepped => cases stepped <;> simp [removes, holdOf, Hold.isRegistering, perform]
  | tcp stepped =>
      cases stepped with
      | registered => simp [holdOf, Hold.isRegistering, perform]
      | removed located => simp [removes, holdOf, Hold.isRegistering, perform]
      | nothingToRemove absent => simp [removes, holdOf, Hold.isRegistering, perform, absent]
      | abandoned abandons =>
          rw [(abandons_entry abandons).1, (abandons_entry abandons).2]
          simp [perform]
      | _ => simp [removes, holdOf, Hold.isRegistering, perform]
  | reader stepped =>
      cases stepped with
      | removed located =>
          rw [owns.1.2]
          simp [removes, holdOf, Hold.isRegistering, perform]
      | nothingToRemove absent =>
          rw [owns.1.2] at absent
          simp [removes, holdOf, Hold.isRegistering, perform, absent]
      | _ => simp [removes, holdOf, Hold.isRegistering, perform]

theorem jobStep_remembered {forwarder : Forwarder} {call : ForwardCall} {job next : Job}
    {answer : Answer} {effect : Effect} {believed : Bool} (owns : OwnsJob forwarder call.key job)
    (stepped : JobStep pcpp forwarder call job answer effect next)
    (remembered : believed = true → (forwarder.tcpConnections.lookup call.key).isSome) (index : Nat) :
    ((effect.contents.map fun content => ⟨some index, call, content⟩).foldl (hear call.key) believed =
        true →
      ((forwarder.perform index call effect).tcpConnections.lookup call.key).isSome) ↔
    JobKeeps forwarder call job answer believed := by
  cases stepped with
  | udp stepped =>
      cases stepped <;>
        simpa [JobKeeps, removes, writesSynAck, Effect.contents, hear, perform] using remembered
  | tcp stepped =>
      cases stepped with
      | registered => simp [JobKeeps, removes, writesSynAck, perform]
      | synAckWritten => simp [JobKeeps, removes, writesSynAck, Effect.contents, hear, perform]
      | removed located => simp [JobKeeps, removes, writesSynAck, Effect.contents, perform]
      | nothingToRemove absent =>
          simp only [absent, Option.isSome_none, Bool.false_eq_true, imp_false] at remembered
          simp [JobKeeps, removes, writesSynAck, Effect.contents, perform, absent, remembered]
      | abandoned abandons =>
          refine iff_of_true ?_ ⟨fun removing => ?_, fun _ returned => ?_⟩
          · simpa [Effect.contents, perform] using remembered
          · rw [(abandons_entry abandons).1] at removing
            cases removing
          · cases returned
      | _ => simpa [JobKeeps, removes, writesSynAck, Effect.contents, hear, perform] using remembered
  | reader stepped =>
      cases stepped with
      | removed located =>
          rw [owns.1.2]
          simp [JobKeeps, removes, writesSynAck, Effect.contents, perform]
      | nothingToRemove absent =>
          rw [owns.1.2] at absent
          simp only [absent, Option.isSome_none, Bool.false_eq_true, imp_false] at remembered
          simp [JobKeeps, removes, writesSynAck, Effect.contents, perform, absent, remembered]
      | written =>
          refine iff_of_true (fun believes => remembered ?_)
            ⟨fun removing => (by cases removing), fun writes => (by cases writes)⟩
          simp only [Effect.contents, List.map_cons, List.map_nil, List.foldl_cons, List.foldl_nil,
            hear, if_true, Bool.and_eq_true] at believes
          exact believes.1
      | _ => simpa [JobKeeps, removes, writesSynAck, Effect.contents, hear, perform] using remembered

theorem hear_foreign {call : ForwardCall} (foreign : call.key ≠ key) (effect : Effect) (index : Nat)
    (believed : Bool) :
    (effect.contents.map fun content => ⟨some index, call, content⟩).foldl (hear key) believed =
      believed := by
  cases effect <;> simp [Effect.contents, hear, foreign]

theorem remembered_step {state next : Forwarder × Bool} {label : Label} (owned : Owned state.1)
    (remembered : Remembered key state) (taken : viewed pcpp key state label = some next) :
    Remembered key next ↔ KeepsBelieved key state label := by
  obtain ⟨forwarder, believed⟩ := state
  obtain ⟨after, believes⟩ := next
  obtain ⟨stepped, rfl⟩ := Transition.observed_iff.mp taken
  cases step_forwarder stepped with
  | overwritten =>
      refine iff_of_true (fun believes => remembered ?_) True.intro
      exact (Bool.and_eq_true_iff.mp believes).1
  | launched | passThroughFailed | closedAll =>
      refine iff_of_true ?_ True.intro
      simpa only [Remembered, appView, newOutputs_same stepped rfl, List.foldl_nil] using remembered
  | @passedThrough call held other =>
      have output : newOutputs pcpp forwarder (.forwardPacket call .returns) =
          [⟨none, call, .passThrough call.packet⟩] := by
        simp only [newOutputs, stepped, List.drop_left]
      refine iff_of_true ?_ True.intro
      simpa [Remembered, appView, output, hear] using remembered
  | cleared =>
      simp only [Remembered, appView, newOutputs_same stepped rfl, KeepsBelieved]
      simp
  | @resumed index task answer effect job located jobStepped =>
      simp only [Remembered, appView, newOutputs_resumed stepped, KeepsBelieved, located,
        Option.mem_def, Option.some.injEq, forall_eq']
      have owns := owned.tasks task (List.mem_of_getElem? located)
      by_cases ofFlow : task.call.key = key
      · subst ofFlow
        simp only [forall_const]
        exact jobStep_remembered owns jobStepped remembered index
      · rw [hear_foreign ofFlow]
        refine iff_of_true ?_ fun same => absurd same ofFlow
        have lookup := perform_lookup (jobStepped.owns owned owns index).1 ofFlow index
        change believed = true → ((forwarder.perform index task.call effect).tcpConnections.lookup key).isSome
        rw [lookup]
        exact remembered

/-- In every state of a run a connection that the app believes open has its entry
exactly if every step of the run keeps what the app believes. -/
theorem remembered_iff {labels : List Label} {final : Forwarder × Bool}
    (ran : Transition.run (viewed pcpp key) unopened labels = some final) :
    Transition.Always (viewed pcpp key) (Remembered key) unopened labels ↔
      Transition.Guarded (viewed pcpp key) (KeepsBelieved key) unopened labels :=
  Transition.always_iff_guarded (fun state => Owned state.1)
    (fun _ _ _ owned taken => owned.step (Transition.observed_iff.mp taken).1)
    (fun _ _ _ owned remembered taken => remembered_step owned remembered taken)
    owned_initial nofun ran

/-- The app closes its connection. -/
def finPacket : TcpPacket :=
  .plain vpnAddress ⟨93, 184, 216, 34⟩ (.plain 40000 443 1 1 false true true) [] rfl (Nat.zero_le 65495)

/-- The connection of the handshake is closed by the app, and then its reader ends. -/
def appCloses : List Label :=
  handshake 0 ++ arrival finPacket ++ List.replicate 5 (.task 2 .returns) ++
    List.replicate 2 (.task 1 .returns)

theorem appCloses_remembered :
    Transition.Always (viewed .headerRules webKey) (Remembered webKey) unopened appCloses := by
  have ran : (Transition.run (viewed .headerRules webKey) unopened appCloses).isSome := by
    decide +kernel
  obtain ⟨final, ran⟩ := Option.isSome_iff_exists.mp ran
  exact (remembered_iff ran).mpr (by decide +kernel)

/-- The server ends its stream, and the app is not told. -/
theorem server_end_forgotten :
    ¬ ∀ (pcpp : PcapPlusPlus) (key : String) (labels : List Label) (final : Forwarder × Bool),
      (∀ label ∈ labels, label ≠ .cleanup) →
      Transition.run (viewed pcpp key) unopened labels = some final → Remembered key final := by
  intro all
  have observed : (Transition.run (viewed .headerRules webKey) unopened (handshake 0 ++ serverEnds)).map
      (fun final => (final.2, (final.1.tcpConnections.lookup webKey).isSome)) = some (true, false) := by
    decide +kernel
  obtain ⟨final, ran, seen⟩ := Option.map_eq_some_iff.mp observed
  obtain ⟨believed, absent⟩ := Prod.mk.inj seen
  have found := all _ _ _ final (by decide) ran believed
  rw [absent] at found
  cases found

end Forwarder

end FirewallVpn
