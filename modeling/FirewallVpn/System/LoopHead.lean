import FirewallVpn.Service.PolicyChange
import FirewallVpn.System.SharedBuffer
import FirewallVpn.System.Turn

/-! The end of the read loop. `onDestroy` cancels the scope, but the loop tests `isActive`
at its head only, and waits behind the test for the next packet. The firewall is taken
here with the place of that test, which leaves fewer runs than there are without. -/

set_option autoImplicit false

namespace FirewallVpn

def System.Label.endsRead : System.Label → Bool
  | .read _ | .service .readLoopBreaks => true
  | _ => false

/-- `waiting` is set from a successful test of `isActive` to the end of the `read` behind it. -/
structure LoopHead where
  system : System
  waiting : Bool

namespace LoopHead

inductive Label where
  | isActive
  | step (label : System.Label)
  deriving DecidableEq

variable (pcpp : PcapPlusPlus) (head : LoopHead)

def created (persisted : Finset String) : LoopHead := ⟨.created persisted, false⟩

/-- The loop reads, throws and exits at its own places. -/
def admits : System.Label → Bool
  | .read _ => head.waiting
  | .service .readLoopBreaks => head.waiting || decide (head.system.loop ≠ .reading)
  | .service .readLoopExits => !head.waiting
  | _ => true

def step : Label → Option LoopHead
  | .isActive =>
      if head.system.service.companion.readLoops = 0 ∨ head.system.loop ≠ .reading ∨ head.waiting ∨
          head.system.service.companion.scopeCancelled then none
      else some { head with waiting := true }
  | .step label =>
      if head.admits label then
        (head.system.step pcpp label).map fun system => ⟨system, head.waiting && !label.endsRead⟩
      else none

/-- The packets the loop can still forward without a further test. -/
def inProgress : Nat := if head.waiting ∨ head.system.loop ≠ .reading then 1 else 0

variable {pcpp head} {next : LoopHead}

theorem step_isActive (taken : step pcpp head .isActive = some next) :
    head.system.loop = .reading ∧ head.system.service.companion.scopeCancelled = false ∧
      next = { head with waiting := true } := by
  simp only [step] at taken
  split at taken <;> cases taken
  next tested =>
    simp only [not_or, not_not, Bool.not_eq_true] at tested
    exact ⟨tested.2.1, tested.2.2.2, rfl⟩

theorem step_step {label : System.Label} (taken : step pcpp head (.step label) = some next) :
    head.admits label = true ∧ head.system.step pcpp label = some next.system ∧
      next.waiting = (head.waiting && !label.endsRead) := by
  simp only [step] at taken
  split at taken
  · next admitted =>
      obtain ⟨system, stepped, rfl⟩ := Option.map_eq_some_iff.mp taken
      exact ⟨admitted, stepped, rfl⟩
  · cases taken

/-- Whatever holds of the firewall in every run holds of it here. -/
theorem reachable_system {persisted : Finset String}
    (reachable : Transition.Reachable (step pcpp) (created persisted) head) :
    Transition.Reachable (System.step pcpp) (.created persisted) head.system := by
  refine reachable.project LoopHead.system fun head label next taken => ?_
  cases label with
  | isActive =>
      obtain ⟨-, -, rfl⟩ := step_isActive taken
      exact .refl _
  | step label => exact ⟨[label], by simp [Transition.run_cons, (step_step taken).2.1]⟩

def AtHead (head : LoopHead) : Prop := head.waiting → head.system.loop = .reading

theorem AtHead.step {label : Label} (atHead : AtHead head)
    (taken : LoopHead.step pcpp head label = some next) : AtHead next := by
  intro waits
  cases label with
  | isActive =>
      obtain ⟨reading, -, rfl⟩ := step_isActive taken
      exact reading
  | step label =>
      obtain ⟨-, stepped, waiting⟩ := step_step taken
      rw [waits, eq_comm, Bool.and_eq_true, Bool.not_eq_true'] at waiting
      obtain ⟨waited, goesOn⟩ := waiting
      have reading := atHead waited
      obtain ⟨after, waitingAfter⟩ := next
      cases System.step_system stepped with
      | service =>
          dsimp only
          split
          · rfl
          · exact reading
      | laterInstance | addresses | readNothing | task | cleared => exact reading
      | read => cases goesOn
      | skipped | dropped | forwarded => rfl
      | unowned stage | tracked stage | lookedUp stage | accepted stage =>
          rw [reading] at stage
          cases stage

theorem reachable_atHead {persisted : Finset String}
    (reachable : Transition.Reachable (LoopHead.step pcpp) (created persisted) head) : AtHead head :=
  reachable.invariant AtHead (fun _ _ _ atHead taken => atHead.step taken) nofun

private theorem cancelled_step {companion after : Companion} {label : Service.Label}
    (cancelled : companion.scopeCancelled = true)
    (stepped : Service.CompanionStep companion label after) : after.scopeCancelled = true := by
  cases stepped with
  | starts | resumes => rwa [Service.startVpn_scopeCancelled]
  | destroyed => exact Service.onDestroy_scopeCancelled _
  | breaks | exits | completes | unchanged => exact cancelled

private theorem cancelled_of_step {system after : System} {label : System.Label}
    (cancelled : system.service.companion.scopeCancelled = true)
    (taken : system.step pcpp label = some after) :
    after.service.companion.scopeCancelled = true := by
  rcases (System.step_system taken).service_step with same | ⟨serviceLabel, moved⟩
  · rw [same]
    exact cancelled
  · exact cancelled_step cancelled (Service.step_companion moved)

theorem inProgress_of_loop (busy : head.system.loop ≠ .reading) : head.inProgress = 1 :=
  if_pos (.inr busy)

theorem inProgress_le (waits : next.waiting → head.waiting)
    (loop : next.system.loop ≠ .reading → head.system.loop ≠ .reading) :
    next.inProgress ≤ head.inProgress := by
  unfold inProgress
  split
  · next busy => rw [if_pos (busy.imp waits loop)]
  · exact Nat.zero_le _

/-- In a cancelled scope each packet forwarded was in progress. -/
theorem forwarded_step {label : Label} (atHead : AtHead head)
    (cancelled : head.system.service.companion.scopeCancelled = true)
    (taken : LoopHead.step pcpp head label = some next) :
    ∃ last, next.system.forwarded = head.system.forwarded ++ last ∧
      last.length + next.inProgress ≤ head.inProgress := by
  cases label with
  | isActive =>
      obtain ⟨-, active, -⟩ := step_isActive taken
      rw [cancelled] at active
      cases active
  | step label =>
      obtain ⟨admitted, stepped, waiting⟩ := step_step taken
      have waits : next.waiting → head.waiting := fun waits => by
        rw [waiting, Bool.and_eq_true] at waits
        exact waits.1
      have bounded : next.inProgress ≤ 1 := by
        unfold inProgress
        split <;> decide
      have quiet : next.system.forwarded = head.system.forwarded →
          next.inProgress ≤ head.inProgress → ∃ last,
            next.system.forwarded = head.system.forwarded ++ last ∧
              last.length + next.inProgress ≤ head.inProgress := by
        intro same less
        exact ⟨[], by rw [same, List.append_nil], by rwa [List.length_nil, Nat.zero_add]⟩
      obtain ⟨after, waitingAfter⟩ := next
      cases System.step_system stepped with
      | service =>
          refine quiet rfl (inProgress_le waits fun busy => ?_)
          dsimp only at busy
          split at busy
          · exact absurd rfl busy
          · exact busy
      | laterInstance | addresses | readNothing | task | cleared =>
          exact quiet rfl (inProgress_le waits id)
      | read =>
          have waited : head.waiting = true := admitted
          exact quiet rfl (bounded.trans_eq (if_pos (.inl waited)).symm)
      | unowned stage | tracked stage | lookedUp stage | accepted stage | skipped stage
      | dropped stage =>
          have busy : head.system.loop ≠ .reading := by
            rw [stage]
            exact nofun
          exact quiet rfl (bounded.trans_eq (inProgress_of_loop busy).symm)
      | @forwarded call answer forwarder stage =>
          have busy : head.system.loop ≠ .reading := by
            rw [stage]
            exact nofun
          refine ⟨[call], rfl, ?_⟩
          rw [inProgress_of_loop busy, inProgress, if_neg]
          · exact Nat.le_refl 1
          · intro either
            rcases either with still | other
            · exact busy (atHead (waits still))
            · exact other rfl

theorem cancelled_next {label : Label}
    (cancelled : head.system.service.companion.scopeCancelled = true)
    (taken : LoopHead.step pcpp head label = some next) :
    next.system.service.companion.scopeCancelled = true := by
  cases label with
  | isActive =>
      obtain ⟨-, -, rfl⟩ := step_isActive taken
      exact cancelled
  | step label => exact cancelled_of_step cancelled (step_step taken).2.1

theorem forwarded_run {later : List Label} {final : LoopHead} (atHead : AtHead head)
    (cancelled : head.system.service.companion.scopeCancelled = true)
    (ran : Transition.run (LoopHead.step pcpp) head later = some final) :
    ∃ last, final.system.forwarded = head.system.forwarded ++ last ∧
      last.length + final.inProgress ≤ head.inProgress := by
  induction later generalizing head with
  | nil =>
      cases ran
      exact ⟨[], (List.append_nil _).symm, (Nat.zero_add _).le⟩
  | cons label later ih =>
      obtain ⟨next, taken, ran⟩ := Transition.run_cons_iff.mp ran
      obtain ⟨first, forwarded, paid⟩ := forwarded_step atHead cancelled taken
      have still := cancelled_next cancelled taken
      obtain ⟨others, more, spent⟩ := ih (atHead.step taken) still ran
      refine ⟨first ++ others, ?_, ?_⟩
      · rw [more, forwarded, List.append_assoc]
      · rw [List.length_append]
        omega

/-! A loop whose scope is cancelled can always come to its end. -/

def Returns (pcpp : PcapPlusPlus) (head : LoopHead) : Prop :=
  ∃ after, Transition.Reachable (LoopHead.step pcpp) head after ∧ after.waiting = false ∧
    after.system.loop = .reading ∧ after.system.service = head.system.service

theorem Returns.prepend {system : System} {label : System.Label} (waits : head.waiting = false)
    (admitted : head.admits label = true) (taken : head.system.step pcpp label = some system)
    (service : system.service = head.system.service) (returns : Returns pcpp ⟨system, false⟩) :
    Returns pcpp head := by
  obtain ⟨after, reachable, waiting, loop, same⟩ := returns
  refine ⟨after, Transition.Reachable.trans ⟨[.step label], ?_⟩ reachable, waiting, loop,
    same.trans service⟩
  simp [Transition.run_cons, LoopHead.step, admitted, taken, waits]

theorem returns_forward {system : System} {call : ForwardCall} (stage : system.loop = .forward call)
    (looping : system.service.companion.readLoops ≠ 0)
    (held : call.packet <+: system.forwarder.byteArray) : Returns pcpp ⟨system, false⟩ := by
  obtain ⟨forwarder, launched⟩ := Turn.forwardPacket_taken pcpp held (.inl rfl)
  have taken : system.step pcpp (.forward .returns) = some { system with
      forwarder, loop := .reading, forwarded := system.forwarded ++ [call] } := by
    simp [System.step, looping, System.loopStep, stage, launched]
  exact .prepend rfl rfl taken rfl ⟨_, .refl _, rfl, rfl, rfl⟩

theorem returns_verdict {system : System} {call : ForwardCall} {isAddressBlocked : Bool}
    (stage : system.loop = .verdict call isAddressBlocked)
    (looping : system.service.companion.readLoops ≠ 0)
    (held : call.packet <+: system.forwarder.byteArray) : Returns pcpp ⟨system, false⟩ := by
  cases decided : verdict system.service.blockedAppCache call.sourcePackageName isAddressBlocked with
  | drop =>
      have taken : system.step pcpp .verdict = some { system with loop := .reading } := by
        simp [System.step, looping, System.loopStep, stage, decided]
      exact .prepend rfl rfl taken rfl ⟨_, .refl _, rfl, rfl, rfl⟩
  | forward =>
      have taken : system.step pcpp .verdict = some { system with loop := .forward call } := by
        simp [System.step, looping, System.loopStep, stage, decided]
      exact .prepend rfl rfl taken rfl (returns_forward rfl looping held)

/-- From any place of the body the loop can go on to its head. -/
theorem returns_of_held {system : System} (looping : system.service.companion.readLoops ≠ 0)
    (held : ∀ call ∈ System.loopCall system.loop, call.packet <+: system.forwarder.byteArray) :
    Returns pcpp ⟨system, false⟩ := by
  cases stage : system.loop with
  | reading => exact ⟨_, .refl _, rfl, stage, rfl⟩
  | parsing length =>
      have taken : system.step pcpp (.parse "" "" none) =
          if System.isKnown (system.parsed pcpp length "" "" none).traffic then
            some { system with loop := .verdict (system.parsed pcpp length "" "" none) false }
          else some { system with loop := .reading } := by
        simp [System.step, looping, System.loopStep, stage, System.track, System.parsed]
      split at taken
      · refine .prepend rfl rfl taken rfl (returns_verdict rfl looping ?_)
        exact List.take_prefix _ _
      · exact .prepend rfl rfl taken rfl ⟨_, .refl _, rfl, rfl, rfl⟩
  | lookup call packageName =>
      have inHand : call.packet <+: system.forwarder.byteArray := held call (by rw [stage]; rfl)
      have taken : system.step pcpp (.lookup none) = some { system with
          loop := .verdict call (isAddressBlockedForApp
            (queryAddress system.addresses none (destinationKey packageName call.traffic))) } := by
        simp [System.step, looping, System.loopStep, stage]
      exact .prepend rfl rfl taken rfl (returns_verdict rfl looping inHand)
  | verdict call isAddressBlocked =>
      exact returns_verdict stage looping (held call (by rw [stage]; rfl))
  | forward call => exact returns_forward stage looping (held call (by rw [stage]; rfl))

/-- Nothing more arrives, and the loop finds its scope cancelled. -/
theorem exits_of_returns (single : head.system.service.companion.readLoops ≤ 1)
    (looping : head.system.service.companion.readLoops ≠ 0)
    (cancelled : head.system.service.companion.scopeCancelled = true) (returns : Returns pcpp head) :
    ∃ ended, Transition.Reachable (LoopHead.step pcpp) head ended ∧
      ended.system.service.companion.readLoops = 0 := by
  obtain ⟨after, reachable, waits, reading, same⟩ := returns
  obtain ⟨system, waiting⟩ := after
  dsimp only at waits reading same
  subst waits
  rw [← same] at single looping cancelled
  refine ⟨⟨system.afterService .readLoopExits
      { system.service with companion := system.service.companion.readLoopEnds }, false⟩,
    reachable.trans ⟨[.step (.service .readLoopExits)], ?_⟩, ?_⟩
  · simp [Transition.run_cons, LoopHead.step, admits, System.step, Service.step, reading, looping,
      cancelled]
  · simp only [System.afterService, Companion.readLoopEnds]
    omega

/-- Once `onDestroy` has cancelled the scope, at most one more packet is forwarded, whatever
follows: the one the loop works on, or the one it waits for. And the loop can end, from
whichever place it has reached. -/
theorem forwards_at_most_one {persisted : Finset String} {before later : List Label}
    {final : LoopHead}
    (reached : Transition.run (LoopHead.step pcpp) (created persisted) before = some head)
    (cancelled : head.system.service.companion.scopeCancelled = true)
    (ran : Transition.run (LoopHead.step pcpp) head later = some final) :
    (∃ last, final.system.forwarded = head.system.forwarded ++ last ∧ last.length ≤ head.inProgress) ∧
      ∃ ended, Transition.Reachable (LoopHead.step pcpp) final ended ∧
        ended.system.service.companion.readLoops = 0 := by
  have atHead := reachable_atHead ⟨before, reached⟩
  obtain ⟨last, forwarded, paid⟩ := forwarded_run atHead cancelled ran
  refine ⟨⟨last, forwarded, Nat.le_of_add_right_le paid⟩, ?_⟩
  have reachable := Transition.Reachable.trans ⟨before, reached⟩ ⟨later, ran⟩
  have stillCancelled : final.system.service.companion.scopeCancelled = true :=
    Transition.run_preserves
      (fun head : LoopHead => head.system.service.companion.scopeCancelled = true)
      (fun _ _ _ cancelled taken => cancelled_next cancelled taken) cancelled ran
  by_cases none : final.system.service.companion.readLoops = 0
  · exact ⟨final, .refl _, none⟩
  have returns : Returns pcpp ⟨final.system, false⟩ :=
    returns_of_held none (System.reachable_held (reachable_system reachable))
  refine exits_of_returns (System.reachable_readLoops_le_one (reachable_system reachable)) none
    stillCancelled ?_
  cases waits : final.waiting with
  | false =>
      obtain ⟨system, waiting⟩ := final
      cases waits
      exact returns
  | true =>
      have reading := reachable_atHead reachable waits
      have nothing : final.system.step pcpp (.read []) = some final.system := by
        simp [System.step, none, System.loopStep, reading]
      obtain ⟨after, further, rested⟩ := returns
      refine ⟨after, Transition.Reachable.trans ⟨[.step (.read [])], ?_⟩ further, rested⟩
      simp [Transition.run_cons, LoopHead.step, admits, waits, nothing, System.Label.endsRead]

/-- The VPN is stopped while the loop waits. -/
def stoppedWaiting : List Label :=
  [.step (.service (.command .START_VPN_SERVICE)), .isActive,
    .step (.service (.command .STOP_VPN_SERVICE))]

/-- The next packet is forwarded, and a second START changes nothing. -/
theorem stoppedWaiting_forwards_one :
    ∃ head final, Transition.run (LoopHead.step .headerRules) (created ∅) stoppedWaiting = some head ∧
      Transition.run (LoopHead.step .headerRules) head
        ((System.acceptedTurn datagramToPort9000.bytes "com.example.mail").map .step ++
          [.step (.service (.command .START_VPN_SERVICE))]) = some final ∧
      final.system.forwarded ≠ [] ∧
      ∃ last, final.system.forwarded = head.system.forwarded ++ last ∧ last.length ≤ 1 := by
  have seen : (Transition.run (LoopHead.step .headerRules) (created ∅) stoppedWaiting).any
      (fun head => head.system.service.companion.scopeCancelled &&
        (Transition.run (LoopHead.step .headerRules) head
          ((System.acceptedTurn datagramToPort9000.bytes "com.example.mail").map .step ++
            [.step (.service (.command .START_VPN_SERVICE))])).any fun final =>
              decide (final.system.forwarded ≠ [])) = true := by
    decide +kernel
  obtain ⟨head, reached, holds⟩ := (Option.any_eq_true _ _).mp seen
  rw [Bool.and_eq_true] at holds
  obtain ⟨cancelled, holds⟩ := holds
  obtain ⟨final, ran, some⟩ := (Option.any_eq_true _ _).mp holds
  obtain ⟨⟨last, forwarded, few⟩, -⟩ := forwards_at_most_one reached cancelled ran
  refine ⟨head, final, reached, ran, of_decide_eq_true some, last, forwarded, few.trans ?_⟩
  unfold inProgress
  split <;> decide

end LoopHead

end FirewallVpn
