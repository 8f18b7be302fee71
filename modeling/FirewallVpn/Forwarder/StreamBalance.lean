import FirewallVpn.Forwarder.InOrder

/-! Under an in-order schedule the writes to the flow's socket and the payloads
still under way add up, at every moment, to the payloads of all packets the flow
has sent so far. -/

set_option autoImplicit false

namespace FirewallVpn

namespace Forwarder

open TaskPool

variable {pcpp : PcapPlusPlus} {flagsOf : ForwardCall → Nat}
  {payloadOf : ForwardCall → List UInt8} {key : String} {socket first : Nat}

/-! Only `register` can bring a connection back. -/

private theorem lookup_perform {forwarder : Forwarder} {index : Nat} {call : ForwardCall}
    {effect : Effect} (noRegister : ∀ connection, effect ≠ .register key connection)
    {connection : TcpConnection}
    (located : (forwarder.perform index call effect).tcpConnections.lookup key = some connection) :
    forwarder.tcpConnections.lookup key = some connection := by
  cases effect with
  | register filed other =>
      by_cases same : key = filed
      · subst same
        exact absurd rfl (noRegister other)
      · rw [perform, AList.lookup_insert_ne same] at located
        exact located
  | remove filed =>
      by_cases same : key = filed
      · subst same
        rw [perform, AList.lookup_erase] at located
        cases located
      · rw [perform, AList.lookup_erase_ne same] at located
        exact located
  | none | newDatagramSocket | closeDatagramSocket | newSocket | connect | close | output | launch =>
      exact located

private theorem registered_of_perform {forwarder : Forwarder} {index : Nat} {call : ForwardCall}
    {effect : Effect} (owned : forwarder.owner socket = some key)
    (noRegister : ∀ connection, effect ≠ .register key connection)
    (registered : Registered key socket (forwarder.perform index call effect)) :
    Registered key socket forwarder := by
  obtain ⟨entry, opened⟩ := registered
  obtain ⟨connection, located, same⟩ := Option.map_eq_some_iff.mp entry
  constructor
  · rw [lookup_perform noRegister located, Option.map_some, same]
  · refine Bool.eq_false_iff.mpr fun closed => ?_
    rw [isClosed_perform owned index call effect closed] at opened
    cases opened

/-! What one statement of the flow's own coroutine does. -/

private theorem finTest_stage (call : ForwardCall) :
    FlowStage flagsOf payloadOf socket call (finTest (hasFin (flagsOf call))) := by
  cases fin : hasFin (flagsOf call) with
  | true => exact ⟨rfl, fin⟩
  | false => exact True.intro

private theorem finTest_pending (call : ForwardCall) (finFollows : Bool) :
    pendingPayload payloadOf call (finTest finFollows) = [] := by
  cases finFollows <;> rfl

/-- It keeps what it has to write, or it writes it after all earlier ones. -/
private theorem flow_step {forwarder : Forwarder} {call : ForwardCall} {stage next : TcpStage}
    {answer : Answer} {effect : Effect} {index : Nat} (ofKey : call.key = key)
    (noSyn : hasSyn (flagsOf call) = false)
    (holds : FlowStage flagsOf payloadOf socket call stage)
    (sees : SeesPacket pcpp flagsOf payloadOf forwarder ⟨call, .tcp stage⟩)
    (inTurn : TaskInTurn payloadOf key first forwarder index answer ⟨call, .tcp stage⟩)
    (registered : pendingPayload payloadOf call stage ≠ [] → Registered key socket forwarder)
    (stepped : TcpStep pcpp forwarder call stage answer effect next) :
    FlowStage flagsOf payloadOf socket call next ∧
      ((pendingPayload payloadOf call next = pendingPayload payloadOf call stage ∧
          effectWrites socket index effect = []) ∨
        (EarlierWritten payloadOf key forwarder index ∧ pendingPayload payloadOf call next = [] ∧
          effectWrites socket index effect =
            asWrite index (pendingPayload payloadOf call stage))) := by
  subst ofKey
  cases stepped with
  | flagsRead => exact ⟨sees, .inl ⟨rfl, rfl⟩⟩
  | synSeen syn =>
      rw [holds, noSyn] at syn
      cases syn
  | extracted => exact ⟨⟨holds, sees⟩, .inl ⟨sees, rfl⟩⟩
  | created | shielded | timed | connected | registered | buildFailed | built | synAckWritten
  | readerStarted => exact holds.elim
  | abandoned abandons =>
      cases stage with
      | create | protect | soTimeout | connect | buildSynAck | writeSynAck => exact holds.elim
      | getTcpFlags | extractTcpPayload | register | startReader | lookup | write | remove | close
      | done => cases abandons
  | found located nonempty =>
      obtain ⟨flags, payload⟩ := holds
      obtain ⟨entry, -⟩ := registered nonempty
      rw [located, Option.map_some, Option.some.injEq] at entry
      exact ⟨⟨flags, payload, nonempty, entry⟩, .inl ⟨rfl, rfl⟩⟩
  | nothingToWrite idle =>
      obtain ⟨rfl, -⟩ := holds
      refine ⟨finTest_stage call, .inl ⟨?_, rfl⟩⟩
      rw [finTest_pending, eq_comm]
      by_contra pending
      obtain ⟨entry, -⟩ := registered pending
      rcases idle with absent | empty
      · rw [absent] at entry
        cases entry
      · exact pending empty
  | written opened =>
      obtain ⟨rfl, -, nonempty, own⟩ := holds
      refine ⟨finTest_stage call, .inr ⟨inTurn.2, finTest_pending call _, ?_⟩⟩
      simp [effectWrites, asWrite, own, pendingPayload, nonempty]
  | writeInterrupted opened => cases inTurn.1
  | writeFailed => cases inTurn.1
  | removed located => exact ⟨holds, .inl ⟨rfl, rfl⟩⟩
  | nothingToRemove absent =>
      obtain ⟨rfl, -⟩ := holds
      exact ⟨True.intro, .inl ⟨rfl, rfl⟩⟩
  | closed =>
      obtain ⟨rfl, -⟩ := holds
      exact ⟨True.intro, .inl ⟨rfl, rfl⟩⟩

private theorem flow_noRegister {forwarder : Forwarder} {call : ForwardCall}
    {stage next : TcpStage} {answer : Answer} {effect : Effect}
    (holds : FlowStage flagsOf payloadOf socket call stage)
    (stepped : TcpStep pcpp forwarder call stage answer effect next) :
    ∀ filed connection, effect ≠ .register filed connection := by
  cases stepped with
  | registered => exact holds.elim
  | _ => exact nofun

/-- In an established connection a coroutine of the flow changes the entry only
by the removal that its FIN asks for. -/
private theorem flow_effect {forwarder : Forwarder} {call : ForwardCall} {stage next : TcpStage}
    {answer : Answer} {effect : Effect} {index : Nat}
    (holds : FlowStage flagsOf payloadOf socket call stage)
    (inTurn : TaskInTurn payloadOf key first forwarder index answer ⟨call, .tcp stage⟩)
    (unclosed : ∀ connection finFollows, stage ≠ .close connection finFollows)
    (stepped : TcpStep pcpp forwarder call stage answer effect next) :
    ((forwarder.perform index call effect).tcpConnections = forwarder.tcpConnections ∧
        (forwarder.perform index call effect).sockets = forwarder.sockets ∧
        ∀ connection finFollows, next ≠ .close connection finFollows) ∨
      (EarlierWritten payloadOf key forwarder index ∧ hasFin (flagsOf call) ∧
        pendingPayload payloadOf call next = []) := by
  have noClose : ∀ finFollows connection other, finTest finFollows ≠ .close connection other := by
    intro finFollows connection other
    cases finFollows <;> exact nofun
  cases stepped with
  | flagsRead | extracted | found | writeFailed | writeInterrupted => exact .inl ⟨rfl, rfl, nofun⟩
  | synSeen | shielded | timed | buildFailed | built | synAckWritten | readerStarted | abandoned =>
      exact .inl ⟨rfl, rfl, nofun⟩
  | created | connected | registered => exact holds.elim
  | nothingToWrite | written | nothingToRemove => exact .inl ⟨rfl, rfl, noClose _⟩
  | removed located => exact .inr ⟨inTurn, holds.2, rfl⟩
  | closed => exact absurd rfl (unclosed _ _)

/-! Steps outside the flow's own coroutines. -/

variable {base : List (Nat × List UInt8)} {before after : Forwarder}

/-- A change that leaves the flow's coroutines and writes alone, and closes the
connection only when nothing is left to write. -/
private theorem FlowState.frame (state : FlowState flagsOf payloadOf key socket first base before)
    (owned : Owned after) (kept : KeepsOwners before after)
    (grown : before.tasks.length ≤ after.tasks.length) (settled : Settled key first after)
    (sameView : view (ofFlow key) first after.tasks = view (ofFlow key) first before.tasks)
    (sameWrites : upstreamWrites socket after = upstreamWrites socket before)
    (remains : pendingWrites payloadOf key first before ≠ [] → Registered key socket before →
      Registered key socket after)
    (unrevived : Registered key socket after → Registered key socket before) :
    FlowState flagsOf payloadOf key socket first base after := by
  have samePackets : packets key first after = packets key first before := by
    rw [packets, sameView, packets]
  have samePending : pendingWrites payloadOf key first after =
      pendingWrites payloadOf key first before := by
    rw [pendingWrites, sameView, pendingWrites]
  refine
    { owned := owned
      owner := kept _ _ state.owner
      reached := Nat.le_trans state.reached grown
      settled := settled
      stages := by
        rw [sameView]
        exact state.stages
      fins := by
        rw [samePackets]
        exact state.fins
      balance := by
        rw [samePending, sameWrites, packetWrites, samePackets]
        exact state.balance
      phase := ?_ }
  rcases state.phase with ⟨registered, unclosed⟩ | ⟨drained, last⟩
  · by_cases still : Registered key socket after
    · refine .inl ⟨still, ?_⟩
      rw [sameView]
      exact unclosed
    · refine .inr ⟨?_, .inr still⟩
      rw [samePending]
      by_contra pending
      exact still (remains pending registered)
  · refine .inr ⟨samePending.trans drained, ?_⟩
    rw [samePackets]
    exact last.imp id fun gone revived => gone (unrevived revived)

private theorem ofFlow_next {forwarder : Forwarder} {call : ForwardCall} {job next : Job}
    {answer : Answer} {effect : Effect}
    (stepped : JobStep pcpp forwarder call job answer effect next) :
    ofFlow key ⟨call, next⟩ = ofFlow key ⟨call, job⟩ := by
  cases stepped <;> rfl

private theorem ofFlow_launched {forwarder : Forwarder} {call : ForwardCall} {job next : Job}
    {answer : Answer} {effect : Effect}
    (stepped : JobStep pcpp forwarder call job answer effect next) :
    ∀ task ∈ effect.launched call, ofFlow key task = false := by
  intro task member
  obtain ⟨connection, rfl⟩ := stepped.launched task member
  rfl

private theorem settled_resume {forwarder : Forwarder} {index : Nat} {call : ForwardCall}
    {effect : Effect} {job : Job} (reached : first ≤ forwarder.tasks.length)
    (settled : Settled key first forwarder)
    (moved : index < first → ofFlow key ⟨call, job⟩ = false) :
    Settled key first (forwarder.resume call index effect job) := by
  intro task member chosen
  rcases mem_take_advance reached member with old | ⟨rfl, early⟩
  · exact settled task old chosen
  · rw [moved early] at chosen
    cases chosen

/-- A UDP coroutine or a reader with the flow's key writes nothing upstream, and
a reader closes the connection only when nothing is left to write. -/
private theorem sibling_frame {forwarder : Forwarder} {call : ForwardCall} {job next : Job}
    {answer : Answer} {effect : Effect} {index : Nat}
    (inTurn : TaskInTurn payloadOf key first forwarder index answer ⟨call, job⟩)
    (notTcp : ∀ stage, job ≠ .tcp stage)
    (stepped : JobStep pcpp forwarder call job answer effect next) :
    effectWrites socket index effect = [] ∧
      (∀ filed connection, effect ≠ .register filed connection) ∧
      (pendingWrites payloadOf key first forwarder ≠ [] → Registered key socket forwarder →
        Registered key socket (forwarder.perform index call effect)) := by
  cases stepped with
  | tcp stepped => exact absurd rfl (notTcp _)
  | udp stepped => cases stepped <;> exact ⟨rfl, nofun, fun _ registered => registered⟩
  | reader stepped =>
      cases stepped with
      | removed located => exact ⟨rfl, nofun, fun pending _ => absurd inTurn pending⟩
      | closed => exact ⟨rfl, nofun, fun pending _ => absurd inTurn pending⟩
      | _ => exact ⟨rfl, nofun, fun _ registered => registered⟩

private theorem FlowState.other {index : Nat} {task : Task}
    {answer : Answer} {effect : Effect} {job : Job}
    (state : FlowState flagsOf payloadOf key socket first base before)
    (located : before.tasks[index]? = some task)
    (inTurn : task.call.key = key → TaskInTurn payloadOf key first before index answer task)
    (stepped : JobStep pcpp before task.call task.job answer effect job)
    (outside : ofFlow key task = false) :
    FlowState flagsOf payloadOf key socket first base (before.resume task.call index effect job) := by
  have kept := perform_keepsOwners before index task.call effect
  have hidden : ofFlow key ⟨task.call, job⟩ = false := by
    rw [ofFlow_next stepped]
    exact outside
  have untouched : effectWrites socket index effect = [] ∧
      (pendingWrites payloadOf key first before ≠ [] → Registered key socket before →
        Registered key socket (before.perform index task.call effect)) ∧
      (Registered key socket (before.perform index task.call effect) →
        Registered key socket before) := by
    by_cases sameKey : task.call.key = key
    · obtain ⟨unwritten, noRegister, remains⟩ := sibling_frame (inTurn sameKey)
        (fun stage tcp => by simp [ofFlow, tcp, sameKey] at outside) stepped
      exact ⟨unwritten, remains, registered_of_perform state.owner (noRegister key)⟩
    · have current := state.owned.tasks task (List.mem_of_getElem? located)
      obtain ⟨sameEntry, sameClosed, unwritten⟩ := perform_frame
        (stepped.owns state.owned current index).1 sameKey state.owner index
      refine ⟨unwritten, fun _ registered => ?_, fun registered => ?_⟩
      · exact ⟨sameEntry ▸ registered.1, sameClosed ▸ registered.2⟩
      · exact ⟨sameEntry ▸ registered.1, sameClosed ▸ registered.2⟩
  obtain ⟨unwritten, remains, unrevived⟩ := untouched
  refine state.frame (state.owned.resume located stepped) kept (by simp [resume]) ?_ ?_ ?_
    remains unrevived
  · exact settled_resume state.reached state.settled fun _ => hidden
  · exact view_advance_other located (by simp [outside]) (by simp [hidden])
      (ofFlow_launched stepped)
  · have written := upstreamWrites_perform socket index before task.call effect
    rw [unwritten, List.append_nil] at written
    exact written

/-! A step of one of the flow's own coroutines, between the earlier and the
later ones. -/

private structure FlowMove (key : String) (first : Nat) (before after : Forwarder)
    (call : ForwardCall) (index : Nat) (stage next : TcpStage) (earlier later : List (Task × Nat)) :
    Prop where
  start : view (ofFlow key) first before.tasks = earlier ++ (⟨call, .tcp stage⟩, index) :: later
  finish : view (ofFlow key) first after.tasks = earlier ++ (⟨call, .tcp next⟩, index) :: later
  inTake : ∀ entry ∈ earlier, entry.1 ∈ before.tasks.take index ∧ ofFlow key entry.1

variable {call : ForwardCall} {index : Nat} {stage next : TcpStage}
  {earlier later : List (Task × Nat)}

private theorem packets_split {forwarder : Forwarder}
    (split : view (ofFlow key) first forwarder.tasks =
      earlier ++ (⟨call, .tcp stage⟩, index) :: later) :
    packets key first forwarder =
      earlier.map (fun entry => (entry.1.call, entry.2)) ++
        (call, index) :: later.map fun entry => (entry.1.call, entry.2) := by
  rw [packets, split, List.map_append, List.map_cons]

private theorem pendingWrites_split {forwarder : Forwarder}
    (split : view (ofFlow key) first forwarder.tasks =
      earlier ++ (⟨call, .tcp stage⟩, index) :: later) :
    pendingWrites payloadOf key first forwarder =
      (earlier.flatMap fun entry => asWrite entry.2 (taskPending payloadOf entry.1)) ++
        (asWrite index (pendingPayload payloadOf call stage) ++
          later.flatMap fun entry => asWrite entry.2 (taskPending payloadOf entry.1)) := by
  rw [pendingWrites, split, List.flatMap_append, List.flatMap_cons]
  rfl

private theorem FlowMove.samePackets
    (move : FlowMove key first before after call index stage next earlier later) :
    packets key first after = packets key first before :=
  (packets_split move.finish).trans (packets_split move.start).symm

private theorem FlowMove.current
    (move : FlowMove key first before after call index stage next earlier later) :
    (⟨call, .tcp stage⟩, index) ∈ view (ofFlow key) first before.tasks := by
  rw [move.start]
  exact List.mem_append_right _ List.mem_cons_self

private theorem FlowMove.members
    (move : FlowMove key first before after call index stage next earlier later)
    {property : Task × Nat → Prop}
    (holds : ∀ entry ∈ view (ofFlow key) first before.tasks, property entry)
    (moved : property (⟨call, .tcp next⟩, index)) :
    ∀ entry ∈ view (ofFlow key) first after.tasks, property entry := by
  intro entry member
  rw [move.start] at holds
  rw [move.finish] at member
  rcases List.mem_append.mp member with inEarlier | rest
  · exact holds entry (List.mem_append_left _ inEarlier)
  · rcases List.mem_cons.mp rest with rfl | inLater
    · exact moved
    · exact holds entry (List.mem_append_right _ (List.mem_cons_of_mem _ inLater))

private theorem FlowMove.earlierWritten
    (move : FlowMove key first before after call index stage next earlier later)
    (written : EarlierWritten payloadOf key before index) :
    ∀ entry ∈ earlier, taskPending payloadOf entry.1 = [] := by
  intro entry member
  obtain ⟨taken, chosen⟩ := move.inTake entry member
  exact written entry.1 taken chosen

private theorem FlowMove.balance {written : List (Nat × List UInt8)}
    (move : FlowMove key first before after call index stage next earlier later)
    (writes : upstreamWrites socket after = upstreamWrites socket before ++ written)
    (balance : upstreamWrites socket before ++ pendingWrites payloadOf key first before =
      base ++ packetWrites payloadOf key first before)
    (progress : (pendingPayload payloadOf call next = pendingPayload payloadOf call stage ∧
        written = []) ∨
      (EarlierWritten payloadOf key before index ∧ pendingPayload payloadOf call next = [] ∧
        written = asWrite index (pendingPayload payloadOf call stage))) :
    upstreamWrites socket after ++ pendingWrites payloadOf key first after =
      base ++ packetWrites payloadOf key first after := by
  rw [packetWrites, move.samePackets]
  refine Eq.trans ?_ balance
  rw [writes, pendingWrites_split move.start, pendingWrites_split move.finish]
  rcases progress with ⟨samePending, unwritten⟩ | ⟨earlierWritten, nothingLeft, effectWritten⟩
  · rw [unwritten, List.append_nil, samePending]
  · have silent : (earlier.flatMap fun entry =>
        asWrite entry.2 (taskPending payloadOf entry.1)) = [] := by
      refine List.flatMap_eq_nil_iff.mpr fun entry member => ?_
      rw [move.earlierWritten earlierWritten entry member, asWrite_nil]
    rw [silent, effectWritten, nothingLeft, asWrite_nil, List.append_assoc, List.nil_append,
      List.nil_append, List.nil_append]

/-- The removal that a FIN asks for comes when everything has been written. -/
private theorem FlowMove.ends
    (move : FlowMove key first before after call index stage next earlier later)
    (fins : (packets key first before).Pairwise fun earlier _ => hasFin (flagsOf earlier.1) = false)
    (earlierWritten : EarlierWritten payloadOf key before index) (fin : hasFin (flagsOf call))
    (nothingLeft : pendingPayload payloadOf call next = []) :
    Ended flagsOf payloadOf key socket first after := by
  have lastOne : later = [] := by
    rw [packets_split move.start] at fins
    have afterFin := (List.pairwise_cons.mp (List.pairwise_append.mp fins).2.1).1
    refine List.eq_nil_iff_forall_not_mem.mpr fun entry member => ?_
    have noFin := afterFin _ (List.mem_map_of_mem member)
    rw [fin] at noFin
    cases noFin
  subst lastOne
  constructor
  · refine pendingWrites_eq_nil_iff.mpr fun entry member => ?_
    rw [move.finish] at member
    rcases List.mem_append.mp member with inEarlier | single
    · exact move.earlierWritten earlierWritten entry inEarlier
    · rw [List.mem_singleton.mp single]
      exact nothingLeft
  · refine .inl ⟨(call, index), ?_, fin⟩
    rw [packets_split move.finish]
    exact List.mem_append_right _ List.mem_cons_self

private theorem FlowState.reached_of_flow
    (state : FlowState flagsOf payloadOf key socket first base before) {answer : Answer}
    {effect : Effect} (located : before.tasks[index]? = some ⟨call, .tcp stage⟩)
    (ofKey : call.key = key) (stepped : TcpStep pcpp before call stage answer effect next) :
    first ≤ index := by
  by_contra early
  have inFirst : ⟨call, .tcp stage⟩ ∈ before.tasks.take first := by
    refine List.mem_iff_getElem?.mpr ⟨index, ?_⟩
    rw [List.getElem?_take, if_pos (Nat.lt_of_not_le early)]
    exact located
  have finished : stage = .done :=
    Job.tcp.inj (state.settled _ inFirst (by simp [ofFlow, ofKey]))
  subst finished
  cases stepped with
  | abandoned abandons => cases abandons

private theorem FlowState.own_phase
    (state : FlowState flagsOf payloadOf key socket first base before) {answer : Answer}
    {effect : Effect}
    (move : FlowMove key first before (before.resume call index effect (.tcp next)) call index stage
      next earlier later)
    (holds : FlowStage flagsOf payloadOf socket call stage)
    (inTurn : TaskInTurn payloadOf key first before index answer ⟨call, .tcp stage⟩)
    (stepped : TcpStep pcpp before call stage answer effect next)
    (drains : pendingPayload payloadOf call stage = [] → pendingPayload payloadOf call next = []) :
    Established key socket first (before.resume call index effect (.tcp next)) ∨
      Ended flagsOf payloadOf key socket first (before.resume call index effect (.tcp next)) := by
  rcases state.phase with ⟨registered, unclosed⟩ | ⟨drained, last⟩
  · have stageUnclosed : ∀ connection finFollows, stage ≠ .close connection finFollows := by
      rintro connection finFollows rfl
      exact unclosed _ move.current connection finFollows rfl
    rcases flow_effect holds inTurn stageUnclosed stepped with
      ⟨sameEntries, sameSockets, nextUnclosed⟩ | ⟨earlierWritten, fin, nothingLeft⟩
    · refine .inl ⟨?_, move.members unclosed ?_⟩
      · rw [Registered, isClosed, resume, sameEntries, sameSockets]
        exact registered
      · intro connection finFollows same
        exact nextUnclosed connection finFollows (Job.tcp.inj same)
    · exact .inr (move.ends state.fins earlierWritten fin nothingLeft)
  · have allDrained := pendingWrites_eq_nil_iff.mp drained
    refine .inr ⟨pendingWrites_eq_nil_iff.mpr (move.members allDrained ?_), ?_⟩
    · exact drains (allDrained _ move.current)
    · rw [move.samePackets]
      exact last.imp id fun gone revived =>
        gone (registered_of_perform state.owner (flow_noRegister holds stepped key) revived)

private theorem FlowState.own
    (state : FlowState flagsOf payloadOf key socket first base before) {answer : Answer}
    {effect : Effect} (located : before.tasks[index]? = some ⟨call, .tcp stage⟩)
    (ofKey : call.key = key)
    (sees : SeesPacket pcpp flagsOf payloadOf before ⟨call, .tcp stage⟩)
    (inTurn : TaskInTurn payloadOf key first before index answer ⟨call, .tcp stage⟩)
    (stepped : TcpStep pcpp before call stage answer effect next) :
    FlowState flagsOf payloadOf key socket first base
      (before.resume call index effect (.tcp next)) := by
  have jobStepped : JobStep pcpp before call (.tcp stage) answer effect (.tcp next) := .tcp stepped
  have owned := state.owned.resume located jobStepped
  have reached := state.reached_of_flow located ofKey stepped
  have chosen : ofFlow key ⟨call, .tcp stage⟩ = true := by simp [ofFlow, ofKey]
  have stays : ofFlow key ⟨call, .tcp next⟩ = true := by simp [ofFlow, ofKey]
  obtain ⟨earlier, later, start, finish, inTake⟩ :=
    view_advance_self located reached chosen stays (ofFlow_launched jobStepped)
  have move : FlowMove key first before (before.resume call index effect (.tcp next)) call index
      stage next earlier later := ⟨start, finish, inTake⟩
  obtain ⟨noSyn, stages⟩ := state.stages _ move.current
  have holds : FlowStage flagsOf payloadOf socket call stage := stages stage rfl
  have registered : pendingPayload payloadOf call stage ≠ [] → Registered key socket before := by
    intro pending
    rcases state.phase with established | ended
    · exact established.registered
    · exact absurd (pendingWrites_eq_nil_iff.mp ended.drained _ move.current) pending
  obtain ⟨nextHolds, progress⟩ := flow_step ofKey noSyn holds sees inTurn registered stepped
  exact
    { owned := owned
      owner := perform_keepsOwners before index call effect _ _ state.owner
      reached := Nat.le_trans state.reached (by simp [resume])
      settled := settled_resume state.reached state.settled fun early =>
        absurd reached (Nat.not_le_of_lt early)
      stages := move.members state.stages ⟨noSyn, fun other same => Job.tcp.inj same ▸ nextHolds⟩
      fins := by
        rw [move.samePackets]
        exact state.fins
      balance := move.balance (upstreamWrites_perform socket index before call effect)
        state.balance progress
      phase := state.own_phase move holds inTurn stepped fun empty =>
        progress.elim (fun kept => kept.1.trans empty) fun written => written.2.1 }

/-! The other steps. -/

private theorem settled_launch {forwarder : Forwarder} {job : Job}
    (reached : first ≤ forwarder.tasks.length) (settled : Settled key first forwarder) :
    Settled key first (forwarder.launch call job) := by
  intro task member chosen
  rw [launch, List.take_append_of_le_length reached] at member
  exact settled task member chosen

private theorem FlowState.launch_own
    (state : FlowState flagsOf payloadOf key socket first base before)
    (owned : Owned (before.launch call (.tcp .getTcpFlags))) (ofKey : call.key = key)
    (registered : Registered key socket before) (noSyn : hasSyn (flagsOf call) = false)
    (noFin : ∀ packet ∈ packets key first before, hasFin (flagsOf packet.1) = false) :
    FlowState flagsOf payloadOf key socket first base (before.launch call (.tcp .getTcpFlags)) := by
  have grown : view (ofFlow key) first (before.launch call (.tcp .getTcpFlags)).tasks =
      view (ofFlow key) first before.tasks ++ [(⟨call, .tcp .getTcpFlags⟩, before.tasks.length)] := by
    rw [launch, view_append_singleton]
    simp [state.reached, ofFlow, ofKey]
  have grownPackets : packets key first (before.launch call (.tcp .getTcpFlags)) =
      packets key first before ++ [(call, before.tasks.length)] := by
    rw [packets, grown, List.map_append]
    rfl
  have established : Established key socket first before := by
    rcases state.phase with established | ended
    · exact established
    · rcases ended.last with ⟨packet, member, fin⟩ | gone
      · rw [noFin packet member] at fin
        cases fin
      · exact absurd registered gone
  refine
    { owned := owned
      owner := state.owner
      reached := Nat.le_trans state.reached (by simp [launch])
      settled := settled_launch state.reached state.settled
      stages := ?_
      fins := ?_
      balance := ?_
      phase := .inl ⟨established.registered, ?_⟩ }
  · intro entry member
    rw [grown] at member
    rcases List.mem_append.mp member with old | single
    · exact state.stages entry old
    · rw [List.mem_singleton.mp single]
      exact ⟨noSyn, fun stage same => Job.tcp.inj same ▸ True.intro⟩
  · rw [grownPackets]
    refine List.pairwise_append.mpr ⟨state.fins, List.pairwise_singleton _ _, ?_⟩
    exact fun packet member _ _ => noFin packet member
  · have pending : pendingWrites payloadOf key first (before.launch call (.tcp .getTcpFlags)) =
        pendingWrites payloadOf key first before ++ asWrite before.tasks.length (payloadOf call) := by
      rw [pendingWrites, grown, List.flatMap_append, List.flatMap_singleton]
      rfl
    have due : packetWrites payloadOf key first (before.launch call (.tcp .getTcpFlags)) =
        packetWrites payloadOf key first before ++ asWrite before.tasks.length (payloadOf call) := by
      rw [packetWrites, grownPackets, List.flatMap_append, List.flatMap_singleton]
      rfl
    rw [pending, due, ← List.append_assoc, ← List.append_assoc]
    exact congrArg (· ++ _) state.balance
  · intro entry member
    rw [grown] at member
    rcases List.mem_append.mp member with old | single
    · exact established.unclosed entry old
    · rw [List.mem_singleton.mp single]
      intro connection finFollows closing
      cases closing

theorem FlowState.step (state : FlowState flagsOf payloadOf key socket first base before)
    {label : Label} (inOrder : InOrder pcpp flagsOf payloadOf key socket first before label)
    (taken : step pcpp before label = some after) :
    FlowState flagsOf payloadOf key socket first base after := by
  have owned := state.owned.step taken
  obtain ⟨asSent, inTurn⟩ := inOrder
  cases step_forwarder taken with
  | overwritten fits =>
      exact state.frame owned (fun _ _ owns => owns) (Nat.le_refl _) state.settled rfl rfl
        (fun _ registered => registered) id
  | @launched call job held starts =>
      by_cases own : ofFlow key ⟨call, job⟩ = true
      · rcases starts with ⟨-, rfl⟩ | ⟨protocol, rfl⟩
        · cases own
        · have ofKey : call.key = key := by simpa [ofFlow] using own
          obtain ⟨registered, noSyn, noFin⟩ := asSent ofKey protocol
          exact state.launch_own owned ofKey registered noSyn noFin
      · refine state.frame owned (fun _ _ owns => owns) (by simp [launch])
          (settled_launch state.reached state.settled) ?_ rfl (fun _ registered => registered) id
        rw [launch, view_append_singleton]
        simp [own]
  | passedThrough held other =>
      refine state.frame owned (fun _ _ owns => owns) (Nat.le_refl _) state.settled rfl ?_
        (fun _ registered => registered) id
      simp [upstreamWrites]
  | passThroughFailed other => exact state
  | @resumed index task answer effect job located stepped =>
      by_cases own : ofFlow key task = true
      · obtain ⟨call, job⟩ := task
        cases stepped with
        | tcp stepped =>
            have ofKey : call.key = key := by simpa [ofFlow] using own
            exact state.own located ofKey (asSent _ located ofKey) (inTurn _ located ofKey) stepped
        | udp stepped => cases own
        | reader stepped => cases own
      · exact state.other located (inTurn task located) stepped (Bool.eq_false_iff.mpr own)
  | closedAll =>
      refine state.frame owned (closeAll_keepsOwners before) (Nat.le_refl _) state.settled rfl rfl
        (fun pending _ => absurd inTurn pending) fun registered => ⟨registered.1, ?_⟩
      refine Bool.eq_false_iff.mpr fun closed => ?_
      have stays := registered.2
      rw [isClosed_closeAll closed] at stays
      cases stays
  | cleared pending =>
      exact state.frame owned (fun _ _ owns => owns) (Nat.le_refl _) state.settled rfl rfl
        (fun pending _ => absurd inTurn pending) fun registered => by cases registered.1

/-- A connection established, with no coroutine of its flow under way. -/
structure OpenFlow (pcpp : PcapPlusPlus) (key : String) (socket : Nat) (start : Forwarder) : Prop where
  reachable : Transition.Reachable (Forwarder.step pcpp) initial start
  registered : Registered key socket start
  done : FlowDone key start

theorem OpenFlow.flowState {start : Forwarder} (openFlow : OpenFlow pcpp key socket start) :
    FlowState flagsOf payloadOf key socket start.tasks.length (upstreamWrites socket start) start := by
  obtain ⟨⟨labels, ran⟩, registered, done⟩ := openFlow
  have owned := owned_of_run ran
  have fresh : view (ofFlow key) start.tasks.length start.tasks = [] := by
    refine List.eq_nil_iff_forall_not_mem.mpr fun entry member => ?_
    obtain ⟨located, beyond, -⟩ := mem_view member
    rw [List.getElem?_eq_none beyond] at located
    cases located
  obtain ⟨connection, located, same⟩ := Option.map_eq_some_iff.mp registered.1
  have owner := (owned.connections key connection located).1
  rw [same] at owner
  exact
    { owned := owned
      owner := owner
      reached := Nat.le_refl _
      settled := fun task member => done task (List.mem_of_mem_take member)
      stages := by
        rw [fresh]
        exact List.forall_mem_nil _
      fins := by
        rw [packets, fresh]
        exact List.Pairwise.nil
      balance := by
        rw [pendingWrites, packetWrites, packets, fresh]
        rfl
      phase := .inl ⟨registered, by
        rw [fresh]
        exact List.forall_mem_nil _⟩ }

theorem FlowState.drained_of_closed
    (state : FlowState flagsOf payloadOf key socket first base after)
    (closed : after.isClosed socket) : pendingWrites payloadOf key first after = [] := by
  rcases state.phase with established | ended
  · rw [established.registered.2] at closed
    cases closed
  · exact ended.drained

/-- From an established flow on, in order, what has been written and what is
still to be written are the payloads of the packets. -/
theorem OpenFlow.flowState_of_run {start final : Forwarder}
    (openFlow : OpenFlow pcpp key socket start) {labels : List Label}
    (inOrder : Transition.Guarded (Forwarder.step pcpp)
      (InOrder pcpp flagsOf payloadOf key socket start.tasks.length) start labels)
    (ran : Transition.run (Forwarder.step pcpp) start labels = some final) :
    FlowState flagsOf payloadOf key socket start.tasks.length (upstreamWrites socket start) final :=
  inOrder.preserves _ (fun _ _ _ holds inOrder taken => holds.step inOrder taken)
    openFlow.flowState ran

end Forwarder

end FirewallVpn
