import FirewallVpn.System.FaultIsolation
import FirewallVpn.System.Pipeline

/-! One turn of the read loop, from the read to the trim of the log. The steps of the
loop, taken with no other coroutine in between, do for the packet what the body of
`readPackets` does in one go: the same verdict, the same call of `forwardPacket`, the same
tracker and the same insert. -/

set_option autoImplicit false

namespace FirewallVpn

namespace ReadPackets

/-- What the body makes of a packet. -/
inductive Pass where
  /-- Something throws before the verdict. -/
  | broken
  | skipped
  /-- `trim` is the answer of `deleteExtraLogs`, which is asked for a named app only. -/
  | judged (call : ForwardCall) (verdict : Verdict) (trim : Except String Unit)

section Body

variable (sdkInt : Nat) (packet : List UInt8) (answers : Answers)

/-- The body of the loop behind the read. -/
def pass : Pass :=
  match answers.parsed with
  | .error _ | .ok none => .broken
  | .ok (some traffic) =>
      if System.isKnown traffic then
        match answers.getSystemService, resolveUid sdkInt answers traffic with
        | .ok (), .ok uid =>
            let call : ForwardCall :=
              { packet
                traffic := { traffic with appName := appName answers uid }
                sourcePackageName := uid.bind fun uid =>
                  UidResolver.getPackageNameFromUid (answers.getPackagesForUid uid) }
            .judged call (checks answers traffic uid) answers.deleteExtraLogs
        | _, _ => .broken
      else .skipped

end Body

namespace Pass

def outcomes : Pass → List Outcome
  | .broken => []
  | .skipped => [.skipped]
  | .judged _ verdict _ => [.judged verdict]

/-- The coroutines of `trackAppAddress`. -/
def trackers : Pass → List Tracker
  | .broken | .skipped => []
  | .judged call _ _ => (call.sourcePackageName.map fun packageName =>
      { packageName, appName := call.traffic.appName, traffic := call.traffic, stage := .lookup }).toList

/-- The calls of `forwardPacket`. -/
def forwarded : Pass → List ForwardCall
  | .broken | .skipped | .judged _ .drop _ => []
  | .judged call .forward _ => [call]

/-- The inserts of `logBlockedPacket`. -/
def logged : Pass → List BlockLogEntity
  | .broken | .skipped => []
  | .judged call _ _ => if Log.appUnknown call.traffic then [] else [.ofTraffic call.traffic]

def goesOn : Pass → Bool
  | .broken => false
  | .skipped => true
  | .judged call _ trim => Log.appUnknown call.traffic || trim.isOk

theorem count_outcomes (pass : Pass) :
    pass.outcomes.count (.judged .forward) = pass.forwarded.length := by
  cases pass with
  | broken | skipped => rfl
  | judged call verdict trim => cases verdict <;> rfl

end Pass

variable {sdkInt : Nat} {answers : Answers}

/-- Where the pass comes from: the exceptions and the verdict are those of `judge`. -/
inductive PassCase (sdkInt : Nat) (packet : List UInt8) (answers : Answers) : Pass → Prop where
  | broken (thrown : String) (judgement : judge sdkInt answers = .error thrown) :
      PassCase sdkInt packet answers .broken
  | skipped {traffic : TrafficLogResponse} (parsed : answers.parsed = .ok (some traffic))
      (unknown : System.isKnown traffic = false) (judgement : judge sdkInt answers = .ok none) :
      PassCase sdkInt packet answers .skipped
  | judged {traffic : TrafficLogResponse} {uid : Option Int}
      (parsed : answers.parsed = .ok (some traffic)) (known : System.isKnown traffic = true)
      {call : ForwardCall}
      (named : call =
        { packet
          traffic := { traffic with appName := appName answers uid }
          sourcePackageName := uid.bind fun uid =>
            UidResolver.getPackageNameFromUid (answers.getPackagesForUid uid) })
      (judgement : judge sdkInt answers = .ok (some (call.traffic, checks answers traffic uid))) :
      PassCase sdkInt packet answers
        (.judged call (checks answers traffic uid) answers.deleteExtraLogs)

theorem pass_case (sdkInt : Nat) (packet : List UInt8) (answers : Answers) :
    PassCase sdkInt packet answers (pass sdkInt packet answers) := by
  rcases parsed : answers.parsed with thrown | traffic | traffic
  · rw [pass, parsed]
    exact .broken thrown (by rw [judge, parsed]; rfl)
  · rw [pass, parsed]
    exact .broken "NullPointerException" (by rw [judge, parsed]; rfl)
  cases known : System.isKnown traffic with
  | false =>
      simp only [pass, parsed, known, Bool.false_eq_true, if_false]
      refine .skipped parsed known ?_
      simp [judge, parsed, known, pure, Except.pure, bind, Except.bind]
  | true =>
      cases service : answers.getSystemService with
      | error thrown =>
          simp only [pass, parsed, known, if_true, service]
          refine .broken thrown ?_
          simp [judge, parsed, known, service, bind, Except.bind]
      | ok =>
          cases resolved : resolveUid sdkInt answers traffic with
          | error thrown =>
              simp only [pass, parsed, known, if_true, service, resolved]
              refine .broken thrown ?_
              simp [judge, parsed, known, service, resolved, bind, Except.bind]
          | ok uid =>
              simp only [pass, parsed, known, if_true, service, resolved]
              exact .judged parsed known rfl
                ((judge_ok_iff parsed known).mpr ⟨service, uid, resolved, rfl⟩)

/-- The loop of the body is left as it is, but for what the pass adds to it. -/
theorem readPacket_pass (packet : List UInt8) (loop : ReadLoop) :
    readPacket sdkInt answers loop =
      { loop with
        running := loop.running && (pass sdkInt packet answers).goesOn
        outcomes := loop.outcomes ++ (pass sdkInt packet answers).outcomes
        pending := loop.pending ++ (pass sdkInt packet answers).logged } := by
  have traced := pass_case sdkInt packet answers
  generalize pass sdkInt packet answers = pass at traced ⊢
  cases traced with
  | broken thrown judgement => simp [readPacket, judgement, Pass.goesOn, Pass.outcomes, Pass.logged]
  | skipped parsed unknown judgement =>
      simp [readPacket, judgement, Pass.goesOn, Pass.outcomes, Pass.logged]
  | @judged traffic uid parsed known call named judgement =>
      simp only [readPacket, judgement, finish, forwardPacket_returns, ite_self, Pass.goesOn,
        Pass.outcomes, Pass.logged]
      cases Log.appUnknown call.traffic with
      | true => simp
      | false => cases answers.deleteExtraLogs <;> simp [Except.isOk, Except.toBool]

end ReadPackets

open ReadPackets

/-- A packet that the TUN delivers, and what the platform answers while the loop works
on it; the tables and the policy answer for themselves. -/
structure Turn where
  packet : List UInt8
  delivers : packet ≠ []
  fits : packet.length ≤ Forwarder.bufferSize
  timeStamp : String
  /-- The exception of the query in `isAddressBlockedForApp`. -/
  thrown : Option String
  platform : Answers

namespace Turn

variable (sdkInt : Nat) (pcpp : PcapPlusPlus) (turn : Turn) (system : System)

def traffic : TrafficLogResponse :=
  parseRealPacket pcpp turn.packet turn.packet.length turn.timeStamp

/-- All the body is answered in this state of the firewall. -/
def answers : Answers :=
  { turn.platform with
    parsed := .ok (some (turn.traffic pcpp))
    blockedAppCache := system.service.blockedAppCache
    getAddress := queryAddress system.addresses turn.thrown }

def pass : Pass := ReadPackets.pass sdkInt turn.packet (turn.answers pcpp system)

/-- Only the write of a packet that is passed through throws where `forwardPacket` sees it. -/
def answer (call : ForwardCall) : Answer :=
  if call.traffic.protocolByte = .unknown ∧ turn.platform.passThrough.isOk = false then .throws
  else .returns

/-- The steps of the loop up to its two tests. -/
def asking (call : ForwardCall) : List System.Label :=
  [.read turn.packet, .parse turn.timeStamp call.traffic.appName call.sourcePackageName] ++
    if call.sourcePackageName.isSome then [.lookup turn.thrown] else []

/-- The steps of the loop behind its two tests. -/
def carryingOut (call : ForwardCall) (verdict : Verdict) (trim : Except String Unit) :
    List System.Label :=
  (if verdict = .forward then [.forward (turn.answer call)] else []) ++
    if Log.appUnknown call.traffic || trim.isOk then [] else [.service .readLoopBreaks]

/-- The steps of the loop in this turn. -/
def labels : Pass → List System.Label
  | .broken => [.read turn.packet, .service .readLoopBreaks]
  | .skipped => [.read turn.packet, .parse turn.timeStamp "" none]
  | .judged call verdict trim => turn.asking call ++ .verdict :: turn.carryingOut call verdict trim

/-- The steps of the log in this turn. -/
def logLabels : Pass → List Log.Label
  | .broken | .skipped => []
  | .judged call _ trim =>
      .packet call.traffic ::
        if Log.appUnknown call.traffic then []
        else [if trim.isOk then .deleteExtraLogs else .deleteExtraLogsFails]

/-- The steps of this turn bring the loop back to its head, or end it, and do what the body
does: they admit its call, make it, and launch its tracker. -/
structure Performed (pass : Pass) (kept : System) : Prop where
  steps : Transition.run (System.step pcpp) system (turn.labels pass) = some kept
  admitted : ∀ call, Transition.Occurs (System.step pcpp) (System.Admits call) system
    (turn.labels pass) ↔ call ∈ pass.forwarded
  forwarded : kept.forwarded = system.forwarded ++ pass.forwarded
  addresses : kept.addresses =
    { system.addresses with trackers := system.addresses.trackers ++ pass.trackers }
  service : kept.service =
    if pass.goesOn then system.service
    else { system.service with companion := system.service.companion.readLoopEnds }
  atHead : kept.loop = .reading

/-- The steps of this turn launch the insert of the body. -/
structure Noted (pass : Pass) (logging noted : Log.Logging) : Prop where
  steps : Transition.run Log.step logging (logLabels pass) = some noted
  pending : noted.pending = logging.pending ++ pass.logged
  atHead : pass.goesOn → noted.loop = .reading

def call (uid : Option Int) : ForwardCall where
  packet := turn.packet
  traffic := { turn.traffic pcpp with appName := appName (turn.answers pcpp system) uid }
  sourcePackageName := uid.bind fun uid =>
    UidResolver.getPackageNameFromUid (turn.platform.getPackagesForUid uid)

def buffered : Forwarder :=
  { system.forwarder with
    byteArray := turn.packet ++ system.forwarder.byteArray.drop turn.packet.length }

/-- The coroutine of `trackAppAddress` is launched, and has not run. -/
def tracked (call : ForwardCall) : Addresses :=
  { system.addresses with
    trackers := system.addresses.trackers ++ (Pass.judged call .drop (.ok ())).trackers }

/-- The loop in front of its two tests, the table having been asked. -/
def asked (call : ForwardCall) : System :=
  { system with
    forwarder := turn.buffered system
    addresses := tracked system call
    loop := .verdict call ((call.sourcePackageName.map fun packageName =>
      isAddressBlockedForApp (queryAddress system.addresses turn.thrown
        (destinationKey packageName call.traffic))).getD false) }

variable {sdkInt pcpp turn system}

theorem read_step (looping : system.service.companion.readLoops ≠ 0)
    (reading : system.loop = .reading) :
    system.step pcpp (.read turn.packet) =
      some { system with
        forwarder := turn.buffered system, loop := .parsing turn.packet.length } := by
  simp [System.step, looping, System.loopStep, reading, turn.delivers, Forwarder.step, turn.fits,
    buffered]

variable (system) in
theorem parsed_eq {appName : String} {sourcePackageName : Option String} {after : System}
    (buffer : after.forwarder = turn.buffered system) :
    after.parsed pcpp turn.packet.length turn.timeStamp appName sourcePackageName =
      { packet := turn.packet
        traffic := { turn.traffic pcpp with appName }
        sourcePackageName } := by
  have taken : after.forwarder.byteArray.take turn.packet.length = turn.packet := by
    rw [buffer, buffered]
    exact List.take_left
  have same : parseRealPacket pcpp after.forwarder.byteArray turn.packet.length turn.timeStamp =
      turn.traffic pcpp := by
    simp only [traffic, parseRealPacket, taken, List.take_length]
  rw [System.parsed, taken, same]

/-- A packet of which nothing is known brings the loop back to its head. -/
theorem skipped_run (looping : system.service.companion.readLoops ≠ 0)
    (reading : system.loop = .reading) (unknown : System.isKnown (turn.traffic pcpp) = false) :
    Transition.run (System.step pcpp) system [.read turn.packet, .parse turn.timeStamp "" none] =
      some { system with forwarder := turn.buffered system } := by
  have skips : System.isKnown { turn.traffic pcpp with appName := "" } = false := unknown
  rw [Transition.run_cons, read_step looping reading, Option.bind_some, Transition.run_cons]
  simp [System.step, looping, System.loopStep, parsed_eq system, skips, reading]

/-- Up to the tests the steps of the loop find out what the body does. -/
theorem asked_run (looping : system.service.companion.readLoops ≠ 0)
    (reading : system.loop = .reading) (known : System.isKnown (turn.traffic pcpp) = true)
    (uid : Option Int) :
    Transition.run (System.step pcpp) system (turn.asking (turn.call pcpp system uid)) =
      some (turn.asked system (turn.call pcpp system uid)) := by
  generalize named : turn.call pcpp system uid = call
  have parses : ∀ after : System, after.forwarder = turn.buffered system →
      after.parsed pcpp turn.packet.length turn.timeStamp call.traffic.appName
        call.sourcePackageName = call := by
    intro after buffer
    rw [parsed_eq system buffer, ← named]
    rfl
  have knows : System.isKnown call.traffic = true := by
    rw [← named]
    exact known
  rw [asking, List.cons_append, List.cons_append, List.nil_append, Transition.run_cons,
    read_step looping reading, Option.bind_some, Transition.run_cons]
  cases source : call.sourcePackageName with
  | none =>
      rw [source] at parses
      simp [System.step, looping, System.loopStep, parses, knows, System.track, source, asked, tracked,
        Pass.trackers]
  | some packageName =>
      rw [source] at parses
      simp [System.step, looping, System.loopStep, parses, knows, System.track, source, asked, tracked,
        Pass.trackers, Addresses.step, Transition.run_cons]
      rfl

/-- What the loop tests is what the body tests. -/
theorem tests_eq (pcpp : PcapPlusPlus) (turn : Turn) (system : System) (uid : Option Int) :
    FirewallVpn.verdict system.service.blockedAppCache (turn.call pcpp system uid).sourcePackageName
        (((turn.call pcpp system uid).sourcePackageName.map fun packageName =>
          isAddressBlockedForApp (queryAddress system.addresses turn.thrown
            (destinationKey packageName (turn.call pcpp system uid).traffic))).getD false) =
      checks (turn.answers pcpp system) (turn.traffic pcpp) uid := rfl

/-- Only the write of a packet that is passed through can throw, and is caught. -/
theorem forwardPacket_taken (pcpp : PcapPlusPlus) {forwarder : Forwarder} {call : ForwardCall}
    {answer : Answer} (held : call.packet <+: forwarder.byteArray)
    (caught : answer = .returns ∨ call.traffic.protocolByte = .unknown ∧ answer = .throws) :
    ∃ next, forwarder.step pcpp (.forwardPacket call answer) = some next := by
  simp only [Forwarder.step, held, if_true, Forwarder.forwardPacket]
  rcases caught with rfl | ⟨unknown, rfl⟩
  · cases call.traffic.protocolByte <;> exact ⟨_, rfl⟩
  · simp only [unknown]
    exact ⟨_, rfl⟩

theorem answer_caught (turn : Turn) (call : ForwardCall) : turn.answer call = .returns ∨
    call.traffic.protocolByte = .unknown ∧ turn.answer call = .throws := by
  unfold answer
  split
  · next unknown => exact .inr ⟨unknown.1, rfl⟩
  · exact .inl rfl

theorem decided_run (looping : system.service.companion.readLoops ≠ 0) (uid : Option Int)
    {call : ForwardCall} (named : turn.call pcpp system uid = call) {verdict : Verdict}
    (decided : checks (turn.answers pcpp system) (turn.traffic pcpp) uid = verdict)
    (trim : Except String Unit) :
    ∃ forwarder, Transition.run (System.step pcpp) (turn.asked system call)
        (.verdict :: if verdict = .forward then [.forward (turn.answer call)] else []) =
      some { turn.asked system call with
        forwarder, loop := .reading
        forwarded := system.forwarded ++ (Pass.judged call verdict trim).forwarded } := by
  subst named
  have tests := tests_eq pcpp turn system uid
  rw [decided] at tests
  cases verdict with
  | drop =>
      refine ⟨turn.buffered system, ?_⟩
      simp [Transition.run_cons, System.step, looping, System.loopStep, asked, tests, Pass.forwarded]
  | forward =>
      have held : (turn.call pcpp system uid).packet <+: (turn.buffered system).byteArray :=
        List.prefix_append turn.packet (system.forwarder.byteArray.drop turn.packet.length)
      obtain ⟨forwarder, launched⟩ := forwardPacket_taken pcpp held (turn.answer_caught _)
      refine ⟨forwarder, ?_⟩
      simp [Transition.run_cons, System.step, looping, System.loopStep, asked, tests, Pass.forwarded,
        launched]

/-- An exception behind the read ends the loop. -/
theorem left_run (pcpp : PcapPlusPlus) (system : System) (goesOn : Bool)
    (looping : system.service.companion.readLoops ≠ 0)
    (reading : goesOn = true → system.loop = .reading) :
    Transition.run (System.step pcpp) system (if goesOn then [] else [.service .readLoopBreaks]) =
      some { system with
        service := if goesOn then system.service
          else { system.service with companion := system.service.companion.readLoopEnds }
        loop := .reading } := by
  cases goesOn with
  | true => simp [← reading rfl]
  | false =>
      simp [Transition.run_cons, System.step, Service.step, looping, System.afterService,
        Service.Label.destroys]

/-- Without a verdict nothing is admitted. -/
theorem not_admits {call : ForwardCall} {labels : List System.Label} (without : .verdict ∉ labels) :
    ¬ Transition.Occurs (System.step pcpp) (System.Admits call) system labels := by
  intro occurs
  obtain ⟨label, member, state, verdict, -⟩ := occurs.exists_mem
  subst verdict
  exact without member

/-- A turn in which the loop is left, or goes on, without a verdict. -/
theorem Performed.of_silent {pass : Pass} {kept : System}
    (silent : pass.forwarded = [] ∧ pass.trackers = [])
    (without : .verdict ∉ turn.labels pass)
    (steps : Transition.run (System.step pcpp) system (turn.labels pass) = some kept)
    (untouched : kept.forwarded = system.forwarded ∧ kept.addresses = system.addresses)
    (service : kept.service =
      if pass.goesOn then system.service
      else { system.service with companion := system.service.companion.readLoopEnds })
    (atHead : kept.loop = .reading) : turn.Performed pcpp system pass kept where
  steps := steps
  admitted call := by
    rw [silent.1]
    exact iff_of_false (not_admits without) List.not_mem_nil
  forwarded := by rw [silent.1, untouched.1, List.append_nil]
  addresses := by rw [silent.2, untouched.2, List.append_nil]
  service := service
  atHead := atHead

/-- The call of the body is admitted by the verdict of this turn, and nothing else is. -/
theorem admits_iff {call : ForwardCall} {rest : List System.Label}
    (asks : Transition.run (System.step pcpp) system (turn.asking call) = some (turn.asked system call))
    (without : .verdict ∉ rest) (uid : Option Int) (named : turn.call pcpp system uid = call)
    (trim : Except String Unit) (other : ForwardCall) :
    Transition.Occurs (System.step pcpp) (System.Admits other) system
        (turn.asking call ++ .verdict :: rest) ↔
      other ∈ (Pass.judged call (checks (turn.answers pcpp system) (turn.traffic pcpp) uid)
        trim).forwarded := by
  have early : .verdict ∉ turn.asking call := by
    unfold asking
    split <;> simp
  have tests := tests_eq pcpp turn system uid
  rw [named] at tests
  have decides : System.Admits other (turn.asked system call) .verdict ↔ other = call ∧
      checks (turn.answers pcpp system) (turn.traffic pcpp) uid = .forward := by
    rw [← tests]
    constructor
    · intro admits
      obtain ⟨-, isAddressBlocked, stage, allowed⟩ := admits
      cases stage
      exact ⟨rfl, allowed⟩
    · intro admits
      obtain ⟨rfl, allowed⟩ := admits
      exact ⟨rfl, _, rfl, allowed⟩
  rw [Transition.occurs_append_iff asks, or_iff_right (not_admits early), Transition.Occurs, decides]
  have later : ¬ ∃ next, (turn.asked system call).step pcpp .verdict = some next ∧
      Transition.Occurs (System.step pcpp) (System.Admits other) next rest := by
    intro occurs
    obtain ⟨next, -, occurs⟩ := occurs
    exact not_admits without occurs
  rw [or_iff_left later]
  cases checks (turn.answers pcpp system) (turn.traffic pcpp) uid <;> simp [Pass.forwarded]

/-- The steps of a turn do what the body does for its packet. -/
theorem performed (sdkInt : Nat) (pcpp : PcapPlusPlus) (turn : Turn)
    (looping : system.service.companion.readLoops ≠ 0) (reading : system.loop = .reading) :
    ∃ kept, turn.Performed pcpp system (turn.pass sdkInt pcpp system) kept := by
  have traced := pass_case sdkInt turn.packet (turn.answers pcpp system)
  have parsed : (turn.answers pcpp system).parsed = .ok (some (turn.traffic pcpp)) := rfl
  have reads : system.step pcpp (.read turn.packet) = some { system with
      forwarder := turn.buffered system, loop := .parsing turn.packet.length } :=
    read_step looping reading
  rw [pass]
  generalize ReadPackets.pass sdkInt turn.packet (turn.answers pcpp system) = pass at traced ⊢
  cases traced with
  | broken thrown judgement =>
      have leaves := left_run pcpp { system with
        forwarder := turn.buffered system, loop := .parsing turn.packet.length } false looping nofun
      have ran := Transition.run_cons_iff.mpr ⟨_, reads, leaves⟩
      exact ⟨_, .of_silent ⟨rfl, rfl⟩ (by simp [labels]) ran ⟨rfl, rfl⟩ rfl rfl⟩
  | @skipped traffic read unknown judgement =>
      rw [parsed, Except.ok.injEq, Option.some.injEq] at read
      subst read
      have ran := skipped_run looping reading unknown
      exact ⟨_, .of_silent ⟨rfl, rfl⟩ (by simp [labels]) ran ⟨rfl, rfl⟩ rfl reading⟩
  | @judged traffic uid read known call named judgement =>
      rw [parsed, Except.ok.injEq, Option.some.injEq] at read
      subst read
      have called : turn.call pcpp system uid = call := named.symm
      have asks : Transition.run (System.step pcpp) system (turn.asking call) =
          some (turn.asked system call) := by
        rw [← called]
        exact asked_run looping reading known uid
      generalize trimmed : Pass.judged call (checks (turn.answers pcpp system) (turn.traffic pcpp) uid)
        (turn.answers pcpp system).deleteExtraLogs = pass
      obtain ⟨forwarder, decides⟩ :=
        decided_run looping uid called rfl (turn.answers pcpp system).deleteExtraLogs
      rw [trimmed] at decides
      have leaves := left_run pcpp { turn.asked system call with
        forwarder, loop := .reading, forwarded := system.forwarded ++ pass.forwarded } pass.goesOn
        looping fun _ => rfl
      subst trimmed
      have ran := Transition.run_append_iff.mpr ⟨_, decides, leaves⟩
      refine ⟨_, Transition.run_append_iff.mpr ⟨_, asks, ran⟩, fun other => ?_, rfl, rfl, rfl, rfl⟩
      refine admits_iff asks ?_ uid called _ other
      cases checks (turn.answers pcpp system) (turn.traffic pcpp) uid <;>
        cases (Log.appUnknown call.traffic || (turn.answers pcpp system).deleteExtraLogs.isOk) <;>
          simp [carryingOut]

theorem noted (pass : Pass) {logging : Log.Logging} (atHead : logging.loop = .reading) :
    ∃ noted, Noted pass logging noted := by
  cases pass with
  | broken | skipped =>
      exact ⟨logging, Transition.run_nil .., (List.append_nil _).symm, fun _ => atHead⟩
  | judged call verdict trim =>
      cases unknown : Log.appUnknown call.traffic with
      | true =>
          refine ⟨logging, ?_, ?_, fun _ => atHead⟩
          · simp [logLabels, unknown, Transition.run_cons, Log.step, atHead]
          · simp [Pass.logged, unknown]
      | false =>
          cases trimmed : trim.isOk with
          | true =>
              refine ⟨{ Log.logBlockedPacket logging call.traffic with
                table := logging.table.deleteExtraLogs, loop := .reading }, ?_, ?_, fun _ => rfl⟩
              · simp [logLabels, unknown, trimmed, Transition.run_cons, Log.step, atHead,
                  Log.logBlockedPacket]
              · simp [Pass.logged, unknown, Log.logBlockedPacket]
          | false =>
              refine ⟨{ Log.logBlockedPacket logging call.traffic with loop := .ended }, ?_, ?_, ?_⟩
              · simp [logLabels, unknown, trimmed, Transition.run_cons, Log.step, atHead,
                  Log.logBlockedPacket]
              · simp [Pass.logged, unknown, Log.logBlockedPacket]
              · simp [Pass.goesOn, unknown, trimmed]

end Turn

/-- The body's loop in the state of the firewall and of its log. -/
structure Corresponds (loop : ReadLoop) (system : System) (logging : Log.Logging) : Prop where
  pending : loop.pending = logging.pending
  passed : loop.outcomes.count (.judged .forward) = system.forwarded.length
  live : loop.running = true → system.service.companion.readLoops = 1 ∧ system.loop = .reading ∧
    logging.loop = .reading
  ended : loop.running = false → system.service.companion.readLoops = 0

/-- The packets are served one after another. For each that is read the body works with the
answers of the firewall's state of the moment, the firewall and its log take the steps of
that turn, and the two agree after it. -/
inductive Served (pcpp : PcapPlusPlus) (sdkInt : Nat) : List Turn → List Pass →
    ReadLoop → System → Log.Logging → ReadLoop → System → Log.Logging → Prop where
  | done {loop : ReadLoop} {system : System} {logging : Log.Logging} :
      Served pcpp sdkInt [] [] loop system logging loop system logging
  | unread {turn : Turn} {turns : List Turn} {passes : List Pass} {loop middle last : ReadLoop}
      {system after : System} {logging log : Log.Logging} (stopped : loop.running = false)
      (body : ReadPackets.step sdkInt loop (.packet (turn.answers pcpp system)) = some middle)
      (same : middle.outcomes = loop.outcomes) (agree : Corresponds middle system logging)
      (rest : Served pcpp sdkInt turns passes middle system logging last after log) :
      Served pcpp sdkInt (turn :: turns) passes loop system logging last after log
  | read {turn : Turn} {turns : List Turn} {passes : List Pass} {loop middle last : ReadLoop}
      {system kept after : System} {logging noted log : Log.Logging} (running : loop.running = true)
      (body : ReadPackets.step sdkInt loop (.packet (turn.answers pcpp system)) = some middle)
      (outcomes : middle.outcomes = loop.outcomes ++ (turn.pass sdkInt pcpp system).outcomes)
      (steps : turn.Performed pcpp system (turn.pass sdkInt pcpp system) kept)
      (logs : Turn.Noted (turn.pass sdkInt pcpp system) logging noted)
      (agree : Corresponds middle kept noted)
      (rest : Served pcpp sdkInt turns passes middle kept noted last after log) :
      Served pcpp sdkInt (turn :: turns) (turn.pass sdkInt pcpp system :: passes)
        loop system logging last after log

/-- The turns have added to either side what the passes of the body amount to. -/
structure Amounts (passes : List Pass) (loop last : ReadLoop) (system after : System)
    (logging log : Log.Logging) : Prop where
  outcomes : last.outcomes = loop.outcomes ++ passes.flatMap Pass.outcomes
  forwarded : after.forwarded = system.forwarded ++ passes.flatMap Pass.forwarded
  trackers : after.addresses.trackers = system.addresses.trackers ++ passes.flatMap Pass.trackers
  logged : log.pending = logging.pending ++ passes.flatMap Pass.logged

variable {pcpp : PcapPlusPlus} {sdkInt : Nat} {loop : ReadLoop} {system : System}
  {logging : Log.Logging}

/-- What the body makes of a packet keeps its loop in step with the firewall. -/
theorem Corresponds.read {turn : Turn} {kept : System} {noted : Log.Logging}
    (corresponds : Corresponds loop system logging) (running : loop.running = true) {pass : Pass}
    (steps : turn.Performed pcpp system pass kept) (logs : Turn.Noted pass logging noted)
    (delivered : Nat) :
    Corresponds ⟨pass.goesOn, delivered, loop.outcomes ++ pass.outcomes, loop.pending ++ pass.logged⟩
      kept noted where
  pending := by rw [logs.pending, corresponds.pending]
  passed := by
    rw [List.count_append, corresponds.passed, pass.count_outcomes, steps.forwarded,
      List.length_append]
  live goesOn := by
    have goesOn : pass.goesOn = true := goesOn
    refine ⟨?_, steps.atHead, logs.atHead goesOn⟩
    rw [steps.service, if_pos goesOn]
    exact (corresponds.live running).1
  ended stops := by
    have stops : pass.goesOn = false := stops
    rw [steps.service, stops]
    simp [Companion.readLoopEnds, (corresponds.live running).1]

theorem Served.amounts {turns : List Turn} {passes : List Pass} {last : ReadLoop} {after : System}
    {log : Log.Logging}
    (served : Served pcpp sdkInt turns passes loop system logging last after log) :
    Amounts passes loop last system after logging log := by
  induction served with
  | done => exact ⟨(List.append_nil _).symm, (List.append_nil _).symm, (List.append_nil _).symm,
      (List.append_nil _).symm⟩
  | unread stopped body same agree rest ih =>
      exact ⟨by rw [ih.outcomes, same], ih.forwarded, ih.trackers, ih.logged⟩
  | read running body outcomes steps logs agree rest ih =>
      constructor
      · rw [ih.outcomes, outcomes, List.flatMap_cons, List.append_assoc]
      · rw [ih.forwarded, steps.forwarded, List.flatMap_cons, List.append_assoc]
      · rw [ih.trackers, steps.addresses, List.flatMap_cons, List.append_assoc]
      · rw [ih.logged, logs.pending, List.flatMap_cons, List.append_assoc]

/-- Any sequence of packets, each served in one go, is served by the loop's own steps from one
of its heads to another, or to its end: the verdicts, the calls of `forwardPacket`, the
trackers and the inserts are, packet by packet, those of the body. -/
theorem body_simulated {pcpp : PcapPlusPlus} (sdkInt : Nat) {loop : ReadLoop} {system : System}
    {logging : Log.Logging} (turns : List Turn) (corresponds : Corresponds loop system logging) :
    ∃ passes last after log,
      Served pcpp sdkInt turns passes loop system logging last after log ∧
        Corresponds last after log ∧ Amounts passes loop last system after logging log := by
  suffices served : ∃ passes last after log,
      Served pcpp sdkInt turns passes loop system logging last after log ∧
        Corresponds last after log by
    obtain ⟨passes, last, after, log, served, atLast⟩ := served
    exact ⟨passes, last, after, log, served, atLast, served.amounts⟩
  induction turns generalizing loop system logging with
  | nil => exact ⟨[], loop, system, logging, .done, corresponds⟩
  | cons turn turns ih =>
      by_cases running : loop.running = true
      · obtain ⟨single, reading, atHead⟩ := corresponds.live running
        have looping : system.service.companion.readLoops ≠ 0 := by
          rw [single]
          exact Nat.one_ne_zero
        obtain ⟨kept, steps⟩ := Turn.performed sdkInt pcpp turn looping reading
        obtain ⟨noted, logs⟩ := Turn.noted (turn.pass sdkInt pcpp system) atHead
        have agree := corresponds.read running steps logs (loop.delivered + 1)
        have body : ReadPackets.step sdkInt loop (.packet (turn.answers pcpp system)) =
            some ⟨(turn.pass sdkInt pcpp system).goesOn, loop.delivered + 1,
              loop.outcomes ++ (turn.pass sdkInt pcpp system).outcomes,
              loop.pending ++ (turn.pass sdkInt pcpp system).logged⟩ := by
          rw [ReadPackets.step, if_pos running, readPacket_pass turn.packet]
          simp only [running, Bool.true_and]
          rfl
        obtain ⟨passes, last, after, log, served, atLast⟩ := ih agree
        exact ⟨_, last, after, log, .read running body rfl steps logs agree served, atLast⟩
      · have stopped : loop.running = false := by simpa using running
        have agree : Corresponds { loop with delivered := loop.delivered + 1 } system logging :=
          ⟨corresponds.pending, corresponds.passed, corresponds.live, corresponds.ended⟩
        have body : ReadPackets.step sdkInt loop (.packet (turn.answers pcpp system)) =
            some { loop with delivered := loop.delivered + 1 } := by
          rw [ReadPackets.step, if_neg running]
        obtain ⟨passes, last, after, log, served, atLast⟩ := ih agree
        exact ⟨passes, last, after, log, .unread stopped body rfl agree served, atLast⟩

def mailTurn : Turn where
  packet := datagramToPort9000.bytes
  delivers := by decide +kernel
  fits := by decide +kernel
  timeStamp := "01/01/2025 00:00:00"
  thrown := none
  platform := senderAnswers (.ok ())

def startedSystem : System :=
  { System.created ∅ with service := { Service.created ∅ with companion := .running } }

/-- The first of the two packets is forwarded; its app is tracked, and its insert launched. -/
theorem mailTurn_simulated :
    (mailTurn.pass 29 .headerRules startedSystem).outcomes = [.judged .forward] ∧
    (mailTurn.pass 29 .headerRules startedSystem).trackers.map Tracker.packageName =
      ["com.example.mail"] ∧
    (mailTurn.pass 29 .headerRules startedSystem).logged.length = 1 ∧
    ∃ passes last after log, Served .headerRules 29 [mailTurn, mailTurn] passes ReadPackets.idle
        startedSystem (Log.idle .empty) last after log ∧ Corresponds last after log ∧
      Amounts passes ReadPackets.idle last startedSystem after (Log.idle .empty) log := by
  refine ⟨by decide +kernel, by decide +kernel, by decide +kernel,
    body_simulated 29 [mailTurn, mailTurn] ?_⟩
  exact ⟨rfl, rfl, fun _ => ⟨rfl, rfl, rfl⟩, nofun⟩

end FirewallVpn
