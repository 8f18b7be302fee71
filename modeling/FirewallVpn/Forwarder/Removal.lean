import FirewallVpn.Forwarder.Addressing
import FirewallVpn.Forwarder.Frame

/-! Whose connection a cleanup removes. `cleanupTcpConnection` goes by the key,
so it may hit a connection of another SYN of the flow. The state of a coroutine
does not tell why it cleans up; an observer of the run notes it down. -/

set_option autoImplicit false

namespace FirewallVpn

namespace Forwarder

/-- On whose behalf a coroutine cleans up. -/
inductive Behalf where
  /-- A FIN, which is about the flow and not about a connection. -/
  | flow
  | reader (connection : TcpConnection)
  | write (connection : TcpConnection)
  /-- A call of `handleTcpSyn`, with what it has registered by then. -/
  | attempt (registered : Option TcpConnection)
  deriving DecidableEq

def Behalf.own : Behalf → Option TcpConnection
  | .flow => none
  | .reader connection | .write connection => some connection
  | .attempt registered => registered

/-- What the next cleanup of a coroutine is for after a statement of it. A connection that is
removed is closed next, and after that the coroutine tests for FIN. -/
def behalfAfter (forwarder : Forwarder) (call : ForwardCall) (answer : Answer) (behalf : Behalf) :
    Job → Behalf
  | .udp _ | .reader _ _ => behalf
  | .tcp stage =>
      match stage with
      | .create | .protect _ | .soTimeout _ | .connect _ => .attempt none
      | .register socket => .attempt (some (newTcpConnection socket call.key))
      | .buildSynAck connection | .writeSynAck connection _ | .startReader connection =>
          .attempt (some connection)
      | .write connection _ _ => if answer = .returns then .flow else .write connection
      | .remove _ => if (forwarder.tcpConnections.lookup call.key).isSome then behalf else .flow
      | .getTcpFlags | .extractTcpPayload _ | .lookup _ _ | .close _ _ | .done => .flow

/-- The observer's notes, by the index of the coroutine. -/
def noteBehalf (forwarder : Forwarder) (label : Label) (notes : Nat → Behalf) : Nat → Behalf :=
  match label with
  | .task index answer =>
      match forwarder.tasks[index]? with
      | some task => Function.update notes index
          (behalfAfter forwarder task.call answer (notes index) task.job)
      | none => notes
  | .overwrite _ | .forwardPacket _ _ | .cleanup | .clear => notes

/-- A reader always acts for its connection. -/
def behalfOf (notes : Nat → Behalf) (index : Nat) : Job → Behalf
  | .reader connection _ => .reader connection
  | .udp _ | .tcp _ => notes index

/-- The forwarder and the notes of its observer. -/
def attributed (pcpp : PcapPlusPlus) :
    Forwarder × (Nat → Behalf) → Label → Option (Forwarder × (Nat → Behalf)) :=
  Transition.observed (step pcpp) noteBehalf

def unattributed : Forwarder × (Nat → Behalf) := (initial, fun _ => .flow)

theorem attributed_run (pcpp : PcapPlusPlus) (labels : List Label) :
    (Transition.run (attributed pcpp) unattributed labels).map Prod.fst =
      Transition.run (step pcpp) initial labels :=
  Transition.run_observed initial _ labels

/-- The statements of `cleanupTcpConnection`. -/
def removes : Job → Bool
  | .tcp (.remove _) | .reader _ .remove => true
  | .udp _ | .tcp _ | .reader _ _ => false

def closes : Job → Option TcpConnection
  | .tcp (.close connection _) | .reader _ (.close connection) => some connection
  | .udp _ | .tcp _ | .reader _ _ => none

/-- Every connection but `own` that is registered or open stays so. -/
structure SparesOthers (own : Option TcpConnection) (before after : Forwarder) : Prop where
  registered : ∀ key connection, before.tcpConnections.lookup key = some connection →
    own ≠ some connection → after.tcpConnections.lookup key = some connection
  opened : ∀ socket, before.isClosed socket = false → own.map TcpConnection.socket ≠ some socket →
    after.isClosed socket = false

/-- If the step is one of a cleanup on behalf of a connection or of an attempt to
make one, it removes and closes nothing that is not theirs. -/
def RemovesOwn (pcpp : PcapPlusPlus) (state : Forwarder × (Nat → Behalf)) (label : Label) : Prop :=
  ∀ index answer task next, label = .task index answer → state.1.tasks[index]? = some task →
    removes task.job ∨ (closes task.job).isSome → behalfOf state.2 index task.job ≠ .flow →
    step pcpp state.1 label = some next →
      SparesOthers (behalfOf state.2 index task.job).own state.1 next

/-- If the step is `tcpConnections.remove(key)` on behalf of a connection or of an
attempt to make one, what stands under the key is theirs. -/
def FindsOwn (state : Forwarder × (Nat → Behalf)) : Label → Prop
  | .task index .returns => ∀ task ∈ state.1.tasks[index]?, removes task.job →
      behalfOf state.2 index task.job ≠ .flow →
      ∀ registered ∈ state.1.tcpConnections.lookup task.call.key,
        (behalfOf state.2 index task.job).own = some registered
  | _ => True

variable {pcpp : PcapPlusPlus}

/-- What a statement of `cleanupTcpConnection` does. -/
inductive CleanupStep (forwarder : Forwarder) (key : String) : Job → Effect → Job → Prop where
  | removed {job next : Job} {connection : TcpConnection} (removing : removes job)
      (located : forwarder.tcpConnections.lookup key = some connection)
      (handed : closes next = some connection) :
      CleanupStep forwarder key job (.remove key) next
  | nothingToRemove {job next : Job} (removing : removes job)
      (absent : forwarder.tcpConnections.lookup key = none) (handed : closes next = none) :
      CleanupStep forwarder key job .none next
  | closed {job next : Job} {connection : TcpConnection} (closing : closes job = some connection)
      (handed : closes next = none) :
      CleanupStep forwarder key job (.close connection.socket) next

private theorem finTest_closes (finFollows : Bool) : closes (.tcp (finTest finFollows)) = none := by
  cases finFollows <;> rfl

private theorem abandons_not_cleanup {stage : TcpStage} (abandons : stage.abandons) :
    ¬ (removes (.tcp stage) ∨ (closes (.tcp stage)).isSome) := by
  cases stage with
  | create | protect | soTimeout | connect | buildSynAck | writeSynAck => simp [removes, closes]
  | getTcpFlags | extractTcpPayload | register | startReader | lookup | write | remove | close
  | done => cases abandons

theorem JobStep.cleanup {forwarder : Forwarder} {call : ForwardCall} {job next : Job}
    {answer : Answer} {effect : Effect} (owns : OwnsJob forwarder call.key job)
    (stepped : JobStep pcpp forwarder call job answer effect next)
    (cleans : removes job ∨ (closes job).isSome) :
    answer = .returns ∧ CleanupStep forwarder call.key job effect next := by
  cases stepped with
  | udp stepped => rcases cleans with removing | closing <;> contradiction
  | tcp stepped =>
      cases stepped with
      | removed located => exact ⟨rfl, .removed rfl located rfl⟩
      | nothingToRemove absent => exact ⟨rfl, .nothingToRemove rfl absent (finTest_closes _)⟩
      | closed => exact ⟨rfl, .closed rfl (finTest_closes _)⟩
      | abandoned abandons => exact absurd cleans (abandons_not_cleanup abandons)
      | _ => rcases cleans with removing | closing <;> contradiction
  | reader stepped =>
      cases stepped with
      | removed located =>
          rw [owns.1.2] at located ⊢
          exact ⟨rfl, .removed rfl located rfl⟩
      | nothingToRemove absent =>
          rw [owns.1.2] at absent
          exact ⟨rfl, .nothingToRemove rfl absent rfl⟩
      | closed => exact ⟨rfl, .closed rfl rfl⟩
      | _ => rcases cleans with removing | closing <;> contradiction

theorem JobStep.closes_removed {forwarder : Forwarder} {call : ForwardCall} {job next : Job}
    {answer : Answer} {effect : Effect} {connection : TcpConnection}
    (stepped : JobStep pcpp forwarder call job answer effect next)
    (closing : closes next = some connection) : removes job := by
  cases stepped with
  | udp stepped => cases closing
  | tcp stepped =>
      cases stepped with
      | removed => rfl
      | nothingToRemove => rfl
      | nothingToWrite | written | closed =>
          rw [finTest_closes] at closing
          cases closing
      | synSeen | extracted | flagsRead | created | shielded | timed | connected | registered
      | buildFailed | built | synAckWritten | abandoned | readerStarted | found | writeInterrupted
      | writeFailed => cases closing
  | reader stepped =>
      cases stepped with
      | removed => rfl
      | foundClosed | foundOpen | chunkRead | ended | buildFailed | buildThrew | built | written | writeFailed
      | nothingToRemove | closed => cases closing

theorem CleanupStep.spares {forwarder : Forwarder} {task : Task} {effect : Effect} {next : Job}
    {own : Option TcpConnection} (stepped : CleanupStep forwarder task.call.key task.job effect next)
    (finds : removes task.job → ∀ registered,
      forwarder.tcpConnections.lookup task.call.key = some registered → own = some registered)
    (closesOwn : ∀ connection, closes task.job = some connection → own = some connection)
    (index : Nat) : SparesOthers own forwarder (forwarder.resume task.call index effect next) := by
  cases stepped with
  | removed removing located =>
      refine ⟨fun key other filed foreign => ?_, fun _ opened _ => opened⟩
      by_cases same : key = task.call.key
      · subst same
        exact absurd (finds removing other filed) foreign
      · exact (AList.lookup_erase_ne same).trans filed
  | nothingToRemove => exact ⟨fun _ _ filed _ => filed, fun _ opened _ => opened⟩
  | closed closing =>
      refine ⟨fun _ _ filed _ => filed, fun socket opened foreign => ?_⟩
      rw [closesOwn _ closing, Option.map_some, ne_eq, Option.some.injEq] at foreign
      rw [← opened]
      exact isClosed_close_other foreign index task.call

/-- A cleanup on behalf of a connection or an attempt closes what is theirs. -/
def ClosesOwn (state : Forwarder × (Nat → Behalf)) : Prop :=
  ∀ index task connection, state.1.tasks[index]? = some task → closes task.job = some connection →
    behalfOf state.2 index task.job ≠ .flow → (behalfOf state.2 index task.job).own = some connection

private theorem behalfOf_removed {forwarder : Forwarder} {index : Nat} {task : Task}
    {answer : Answer} {effect : Effect} {job : Job} {connection : TcpConnection}
    (notes : Nat → Behalf) (located : forwarder.tasks[index]? = some task)
    (stepped : JobStep pcpp forwarder task.call task.job answer effect job)
    (removing : removes task.job)
    (filed : forwarder.tcpConnections.lookup task.call.key = some connection) :
    behalfOf (noteBehalf forwarder (.task index answer) notes) index job =
      behalfOf notes index task.job := by
  obtain ⟨call, before⟩ := task
  cases stepped with
  | udp stepped => cases removing
  | @tcp stage next _ _ stepped =>
      cases stage with
      | remove finFollows => simp [behalfOf, noteBehalf, located, behalfAfter, filed]
      | getTcpFlags | extractTcpPayload | create | protect | soTimeout | connect | register
      | buildSynAck | writeSynAck | startReader | lookup | write | close | done => cases removing
  | reader stepped => rfl

theorem ClosesOwn.resume {forwarder : Forwarder} {notes : Nat → Behalf} {index : Nat} {task : Task}
    {answer : Answer} {effect : Effect} {job : Job} (own : ClosesOwn (forwarder, notes))
    (owned : Owned forwarder) (located : forwarder.tasks[index]? = some task)
    (stepped : JobStep pcpp forwarder task.call task.job answer effect job)
    (finds : FindsOwn (forwarder, notes) (.task index answer)) :
    ClosesOwn (forwarder.resume task.call index effect job,
      noteBehalf forwarder (.task index answer) notes) := by
  have owns := owned.tasks task (List.mem_of_getElem? located)
  intro position member connection found closing actual
  rcases TaskPool.getElem?_advance_cases located found with
    ⟨rfl, rfl⟩ | ⟨distinct, old⟩ | ⟨-, new⟩
  · have removing := stepped.closes_removed closing
    obtain ⟨rfl, cleanup⟩ := stepped.cleanup owns (.inl removing)
    cases cleanup with
    | removed _ filed handed =>
        rw [handed, Option.some.injEq] at closing
        subst closing
        rw [behalfOf_removed notes located stepped removing filed] at actual ⊢
        exact finds task located removing actual _ filed
    | nothingToRemove _ _ handed | closed _ handed =>
        rw [handed] at closing
        cases closing
  · have unchanged : behalfOf (noteBehalf forwarder (.task index answer) notes) position member.job =
        behalfOf notes position member.job := by
      simp only [noteBehalf, located]
      cases member.job with
      | reader => rfl
      | udp | tcp => exact Function.update_of_ne distinct _ _
    rw [unchanged] at actual ⊢
    exact own position member connection old closing actual
  · obtain ⟨other, rfl⟩ := stepped.launched member (List.mem_of_getElem? new)
    cases closing

theorem ClosesOwn.step {state next : Forwarder × (Nat → Behalf)} {label : Label}
    (own : ClosesOwn state) (owned : Owned state.1) (finds : FindsOwn state label)
    (taken : attributed pcpp state label = some next) : ClosesOwn next := by
  obtain ⟨forwarder, notes⟩ := state
  obtain ⟨after, noted⟩ := next
  obtain ⟨stepped, rfl⟩ := Transition.observed_iff.mp taken
  cases step_forwarder stepped with
  | overwritten | passedThrough | passThroughFailed | closedAll | cleared => exact own
  | @launched call job held first =>
      intro index task connection located closing
      rcases TaskPool.getElem?_append_cases located with old | ⟨-, new⟩
      · exact own index task connection old closing
      · rw [List.mem_singleton.mp (List.mem_of_getElem? new)] at closing
        rcases first with ⟨-, rfl⟩ | ⟨-, rfl⟩ <;> cases closing
  | resumed located jobStepped => exact own.resume owned located jobStepped finds

theorem FindsOwn.removesOwn {state : Forwarder × (Nat → Behalf)} {label : Label}
    (finds : FindsOwn state label) (own : ClosesOwn state) (owned : Owned state.1) :
    RemovesOwn pcpp state label := by
  rintro index answer task next rfl located cleans actual taken
  have stepped := step_forwarder taken
  cases stepped with
  | @resumed _ same _ effect job sameLocated jobStepped =>
      rw [located, Option.some.injEq] at sameLocated
      subst sameLocated
      obtain ⟨rfl, cleanup⟩ := jobStepped.cleanup
        (owned.tasks task (List.mem_of_getElem? located)) cleans
      exact cleanup.spares (fun removing registered filed => finds task located removing actual registered filed)
        (fun connection closing => own index task connection located closing actual) index

theorem removal_removes (pcpp : PcapPlusPlus) {forwarder : Forwarder} {index : Nat} {task : Task}
    {connection : TcpConnection} (located : forwarder.tasks[index]? = some task)
    (owns : OwnsJob forwarder task.call.key task.job) (removing : removes task.job)
    (filed : forwarder.tcpConnections.lookup task.call.key = some connection) :
    ∃ next, step pcpp forwarder (.task index .returns) = some next ∧
      next.tcpConnections.lookup task.call.key = none := by
  obtain ⟨call, job⟩ := task
  cases job with
  | udp stage => cases removing
  | tcp stage =>
      cases stage with
      | remove finFollows =>
          refine ⟨forwarder.resume call index (.remove call.key) (.tcp (.close connection finFollows)),
            ?_, AList.lookup_erase _ _⟩
          simp [step, located, jobNext, tcpNext, filed]
      | getTcpFlags | extractTcpPayload | create | protect | soTimeout | connect | register
      | buildSynAck | writeSynAck | startReader | lookup | write | close | done => cases removing
  | reader reading stage =>
      have sameKey : reading.key = call.key := owns.1.2
      cases stage with
      | remove =>
          refine ⟨forwarder.resume call index (.remove call.key) (.reader reading (.close connection)),
            ?_, AList.lookup_erase _ _⟩
          have registered : forwarder.tcpConnections.lookup reading.key = some connection := by
            rw [sameKey]
            exact filed
          simp [step, located, jobNext, readerNext, registered, sameKey]
      | isClosed | read | build | write | close | done => cases removing

theorem RemovesOwn.findsOwn {state : Forwarder × (Nat → Behalf)} {label : Label}
    (removesOwn : RemovesOwn pcpp state label) (owned : Owned state.1) : FindsOwn state label := by
  cases label with
  | task index answer =>
      cases answer with
      | returns =>
          intro task located removing actual registered filed
          obtain ⟨next, taken, removed⟩ := removal_removes pcpp located
            (owned.tasks task (List.mem_of_getElem? located)) removing filed
          by_contra foreign
          have spared := removesOwn index .returns task next rfl located (.inl removing) actual taken
          have kept := spared.registered _ registered filed foreign
          rw [removed] at kept
          cases kept
      | throws | throwsAfter | timesOut | datagram | chunk | endOfStream => exact True.intro
  | overwrite | forwardPacket | cleanup | clear => exact True.intro

/-- Over a whole run, cleanups on behalf of a connection or an attempt remove and
close only what is theirs exactly if each of their removals finds under the key
their own connection or none. -/
theorem removes_own_iff (pcpp : PcapPlusPlus) (labels : List Label) :
    Transition.Guarded (attributed pcpp) (RemovesOwn pcpp) unattributed labels ↔
      Transition.Guarded (attributed pcpp) FindsOwn unattributed labels := by
  have ownedStep : ∀ state label next, Owned state.1 → attributed pcpp state label = some next →
      Owned next.1 :=
    fun state label next owned taken => owned.step (Transition.observed_iff.mp taken).1
  constructor
  · intro removesOwn
    refine removesOwn.mono_invariant (fun state => Owned state.1) ?_ ?_ owned_initial
    · exact fun state label next owned _ taken => ownedStep state label next owned taken
    · exact fun state label owned removes => removes.findsOwn owned
  · intro findsOwn
    refine findsOwn.mono_invariant (fun state => Owned state.1 ∧ ClosesOwn state) ?_ ?_ ⟨owned_initial, ?_⟩
    · rintro state label next ⟨owned, own⟩ finds taken
      exact ⟨ownedStep state label next owned taken, own.step owned finds taken⟩
    · rintro state label ⟨owned, own⟩ finds
      exact finds.removesOwn own owned
    · intro index task connection located
      cases located

/-- The SYN of the handshake comes once more, and this time the connect fails. -/
def failingSyn (isn : UInt32) : List Label :=
  .overwrite (synPacket isn).bytes :: .forwardPacket (callOf (synPacket isn).bytes) .returns ::
    List.replicate 5 (.task 2 .returns) ++ [.task 2 .throws]

/-- The failure of the second attempt removes the connection of the first one. -/
theorem failing_attempt_removes_other :
    ¬ ∀ (pcpp : PcapPlusPlus) (labels : List Label),
      Transition.Guarded (attributed pcpp) (RemovesOwn pcpp) unattributed labels := by
  intro all
  have observed : (Transition.run (attributed .headerRules) unattributed
      (handshake 7 ++ failingSyn 7)).map (fun state => (state.1.tasks[2]?, state.2 2,
        state.1.tcpConnections.lookup (callOf (synPacket 7).bytes).key)) =
      some (some ⟨callOf (synPacket 7).bytes, .tcp (.remove false)⟩, .attempt none,
        some (newTcpConnection 0 (callOf (synPacket 7).bytes).key)) := by
    decide +kernel
  obtain ⟨state, ran, seen⟩ := Option.map_eq_some_iff.mp observed
  generalize callOf (synPacket 7).bytes = syn at seen
  simp only [Prod.mk.injEq] at seen
  obtain ⟨located, noted, filed⟩ := seen
  have owns : OwnsJob state.1 syn.key (.tcp (.remove false)) := True.intro
  obtain ⟨next, taken, removed⟩ := removal_removes .headerRules located owns rfl filed
  have actual : behalfOf state.2 2 (.tcp (.remove false)) = .attempt none := noted
  have spared := (all .headerRules (handshake 7 ++ failingSyn 7 ++ [.task 2 .returns])).last ran
    2 .returns _ next rfl located (.inl rfl) (by rw [actual]; exact nofun) taken
  rw [actual] at spared
  have kept := spared.registered _ _ filed nofun
  rw [removed] at kept
  cases kept

end Forwarder

end FirewallVpn
