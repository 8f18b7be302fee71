import FirewallVpn.Service.Agreement

/-! Changes of the policy while the VPN runs. The restart that a change asks for
runs in the scope that its own `onDestroy` cancels, so it never comes to
`startVpn`: the first nonempty set met by a running VPN stops it. -/

set_option autoImplicit false

namespace FirewallVpn

namespace Companion

/-- A loop needs an open interface, and ends with the scope. -/
structure Sound (companion : Companion) : Prop where
  opened : companion.vpnInterface = false → companion.readLoops = 0
  completed : companion.jobCompleted → companion.scopeCancelled ∧ companion.readLoops = 0
  silent : companion.scopeCancelled → companion.isRunning → companion.readLoops = 0

theorem Sound.startVpn {companion : Companion} (sound : companion.Sound) :
    companion.startVpn.Sound := by
  unfold Companion.startVpn
  split
  · exact sound
  · next closed =>
      have none : companion.readLoops = 0 := sound.opened (by simpa using closed)
      refine ⟨nofun, fun completed => ?_, fun cancelled _ => ?_⟩
      · obtain ⟨cancelled, -⟩ := sound.completed completed
        exact ⟨cancelled, by rw [if_pos cancelled, none]⟩
      · dsimp only at cancelled
        rw [if_pos cancelled, none]

theorem Sound.onDestroy {companion : Companion} (sound : companion.Sound) :
    companion.onDestroy.Sound := by
  unfold Companion.onDestroy
  split
  · next completed =>
      have none := (sound.completed completed).2
      exact ⟨fun _ => none, fun _ => ⟨rfl, none⟩, fun _ => nofun⟩
  · next pending => exact ⟨sound.opened, fun completed => absurd completed pending, fun _ => nofun⟩

theorem Sound.readLoopEnds {companion : Companion} (sound : companion.Sound) :
    companion.readLoopEnds.Sound where
  opened closed := by
    have none : companion.readLoops = 0 := sound.opened closed
    simp [Companion.readLoopEnds, none]
  completed completed := by
    obtain ⟨cancelled, none⟩ := sound.completed completed
    exact ⟨cancelled, by simp [Companion.readLoopEnds, none]⟩
  silent cancelled running := by
    have none : companion.readLoops = 0 := sound.silent cancelled running
    simp [Companion.readLoopEnds, none]

theorem Sound.complete {companion : Companion} (cancelled : companion.scopeCancelled)
    (finished : companion.readLoops = 0) : companion.complete.Sound :=
  ⟨fun _ => finished, fun _ => ⟨cancelled, finished⟩, fun _ _ => finished⟩

theorem Sound.step {companion next : Companion} {label : Service.Label} (sound : companion.Sound)
    (stepped : Service.CompanionStep companion label next) : next.Sound := by
  cases stepped with
  | starts | resumes => exact sound.startVpn
  | destroyed => exact sound.onDestroy
  | breaks | exits => exact sound.readLoopEnds
  | completes cancelled finished => exact .complete cancelled finished
  | unchanged => exact sound

end Companion

namespace Collector

def lastBlockedApps : Collector → Finset String
  | .collecting _ lastBlockedApps | .checking _ lastBlockedApps => lastBlockedApps
  | .ended => ∅

/-- The last value the collector has taken from the store. -/
def emitted : Collector → Option (Finset String)
  | .collecting emitted _ => emitted
  | .checking newSet _ => some newSet
  | .ended => none

end Collector

namespace Service

/-- A VPN at work. -/
def Running (service : Service) : Prop :=
  service.companion.isRunning ∧ service.companion.vpnInterface ∧ service.companion.readLoops = 1

/-- No coroutine of the scope has anything left to do: there is no value to
collect, nothing to check, and no restart under way. -/
def Quiescent (service : Service) : Prop :=
  ∀ label ∈ [Label.emission, .checkRunning, .restartDestroys, .restartDropped, .restartResumes],
    service.step label = none

instance (service : Service) : Decidable service.Quiescent :=
  inferInstanceAs (Decidable (∀ label ∈ [Label.emission, .checkRunning, .restartDestroys,
    .restartDropped, .restartResumes], service.step label = none))

/-- Steps of the collector, of the restarts and of what a restart brings about,
and changes of the persisted set: no command, and no broken read loop. -/
def PolicyOnly (service : Service) : Label → Prop
  | .command _ | .readLoopBreaks => False
  | .systemDestroys => service.companion.scopeCancelled
  | _ => True

/-- The collector is about to ask `isRunning` about a nonempty set. -/
def ChecksNonempty (service : Service) (label : Label) : Prop :=
  label = .checkRunning ∧ ∃ newSet ∈ service.collector.emitted, newSet ≠ ∅

instance (service : Service) (label : Label) : Decidable (ChecksNonempty service label) :=
  inferInstanceAs (Decidable (_ ∧ ∃ newSet ∈ service.collector.emitted, newSet ≠ ∅))

instance (service : Service) (label : Label) : Decidable (PolicyOnly service label) :=
  match label with
  | .command _ | .readLoopBreaks => .isFalse id
  | .systemDestroys => inferInstanceAs (Decidable (_ = true))
  | .persist _ | .emission | .checkRunning | .collectorEnds | .restartDestroys | .restartDropped
  | .restartResumes | .readLoopExits | .jobCompletes => .isTrue True.intro

/-- What holds in every state of a process: the cache is what the collector has
taken, which it has compared with nothing until it launches a restart. -/
structure Sound (service : Service) : Prop where
  companion : service.companion.Sound
  cached : ∀ newSet ∈ service.collector.emitted, service.blockedAppCache = newSet
  collects : service.companion.scopeCancelled = false → service.collector ≠ .ended
  uncompared : service.companion.scopeCancelled = false → service.launchedRestarts = 0 →
    service.collector.lastBlockedApps = ∅

/-- The VPN works, and no restart threatens it. -/
def Healthy (service : Service) : Prop :=
  service.companion.scopeCancelled = false ∧ service.launchedRestarts = 0 ∧ service.Running

/-- The VPN is stopped for good, or a restart is about to do it. -/
def Doomed (service : Service) : Prop :=
  service.companion.scopeCancelled ∧ service.companion.isRunning = false ∨
    service.companion.scopeCancelled = false ∧ service.launchedRestarts ≠ 0

@[simp] theorem startVpn_scopeCancelled (companion : Companion) :
    companion.startVpn.scopeCancelled = companion.scopeCancelled := by
  unfold Companion.startVpn
  split <;> rfl

@[simp] theorem onDestroy_scopeCancelled (companion : Companion) :
    companion.onDestroy.scopeCancelled = true := by
  unfold Companion.onDestroy
  split <;> rfl

theorem Sound.step {service next : Service} {label : Label} (sound : Sound service)
    (taken : service.step label = some next) : Sound next := by
  have companion := sound.companion.step (step_companion taken)
  obtain ⟨-, cached, collects, uncompared⟩ := sound
  cases step_service taken with
  | started | restartResumed =>
      exact ⟨companion, cached, by simpa using collects, by simpa using uncompared⟩
  | stopped | systemDestroyed | restartDestroyed => exact ⟨companion, cached, by simp, by simp⟩
  | emitted collecting new active =>
      rw [collecting] at uncompared
      refine ⟨companion, fun newSet taken => ?_, fun _ => nofun, uncompared⟩
      exact Option.some.inj taken
  | restartLaunched checking running changed active =>
      rw [checking] at cached
      exact ⟨companion, cached, fun _ => nofun, fun _ => nofun⟩
  | restartRefused checking running changed cancelled =>
      rw [checking] at cached
      exact ⟨companion, cached, fun _ => nofun, fun active => absurd active (by simp [cancelled])⟩
  | checked checking unchanged =>
      rw [checking] at cached uncompared
      exact ⟨companion, cached, fun _ => nofun, uncompared⟩
  | collectorEnded collecting cancelled =>
      exact ⟨companion, nofun, fun active => absurd active (by simp [cancelled]), fun _ _ => rfl⟩
  | restartDropped pending cancelled =>
      exact ⟨companion, cached, collects, fun active => absurd active (by simp [cancelled])⟩
  | persisted | restartThrown | readLoopBroken | readLoopExited | jobCompleted =>
      exact ⟨companion, cached, collects, uncompared⟩

theorem reachable_sound {persisted : Finset String} {service : Service}
    (reachable : Transition.Reachable step (created persisted) service) : Sound service := by
  refine reachable.invariant Sound (fun _ _ _ sound taken => sound.step taken) ?_
  exact ⟨⟨fun _ => rfl, nofun, nofun⟩, nofun, fun _ => nofun, fun _ _ => rfl⟩

theorem Healthy.not_doomed {service : Service} (healthy : service.Healthy) : ¬ service.Doomed := by
  obtain ⟨active, none, -⟩ := healthy
  rintro (⟨cancelled, -⟩ | ⟨-, launched⟩)
  · rw [active] at cancelled
    cases cancelled
  · exact launched none

theorem Doomed.step {service next : Service} {label : Label} (doomed : service.Doomed)
    (policyOnly : PolicyOnly service label) (taken : service.step label = some next) :
    next.Doomed := by
  cases step_service taken with
  | started | stopped | readLoopBroken => exact policyOnly.elim
  | systemDestroyed | restartDestroyed =>
      obtain ⟨notRunning, cancelled, -⟩ := Companion.onDestroy_stopped service.companion
      exact .inl ⟨cancelled, notRunning⟩
  | restartLaunched checking running changed active => exact .inr ⟨active, Nat.succ_ne_zero _⟩
  | restartDropped pending cancelled =>
      rcases doomed with stopped | ⟨active, -⟩
      · exact .inl stopped
      · rw [active] at cancelled
        cases cancelled
  | restartResumed pending active =>
      rcases doomed with ⟨cancelled, -⟩ | ⟨-, launched⟩
      · rw [active] at cancelled
        cases cancelled
      · exact .inr ⟨by simpa using active, launched⟩
  | persisted | emitted | restartRefused | checked | collectorEnded | restartThrown | readLoopExited
  | jobCompleted => exact doomed

theorem Healthy.step {service next : Service} {label : Label} (healthy : service.Healthy)
    (sound : Sound service) (policyOnly : PolicyOnly service label)
    (taken : service.step label = some next) :
    ChecksNonempty service label ∧ next.Doomed ∨ ¬ ChecksNonempty service label ∧ next.Healthy := by
  have uncompared := sound.uncompared healthy.1 healthy.2.1
  obtain ⟨active, none, running⟩ := healthy
  have alive : ¬ service.companion.scopeCancelled := by simp [active]
  cases step_service taken with
  | started | stopped | readLoopBroken => exact policyOnly.elim
  | systemDestroyed => exact absurd policyOnly alive
  | restartDestroyed pending => exact absurd none pending
  | restartRefused checking isRunning changed cancelled => exact absurd cancelled alive
  | collectorEnded collecting cancelled => exact absurd cancelled alive
  | restartDropped pending cancelled => exact absurd cancelled alive
  | restartThrown pending cancelled => exact absurd cancelled alive
  | readLoopExited loops cancelled => exact absurd cancelled alive
  | jobCompleted cancelled => exact absurd cancelled alive
  | persisted | emitted => exact .inr ⟨nofun, active, none, running⟩
  | restartLaunched checking isRunning changed =>
      rw [checking] at uncompared
      left
      refine ⟨⟨rfl, _, by rw [checking]; rfl, fun empty => ?_⟩, .inr ⟨active, Nat.succ_ne_zero _⟩⟩
      exact changed (empty.trans uncompared.symm)
  | checked checking unchanged =>
      rw [checking] at uncompared
      right
      refine ⟨?_, active, none, running⟩
      rintro ⟨-, newSet, taken, nonempty⟩
      rw [checking] at taken
      cases taken
      exact nonempty ((unchanged running.1).trans uncompared)
  | restartResumed pending =>
      have kept : service.companion.startVpn = service.companion := if_pos running.2.1
      right
      rw [kept]
      exact ⟨nofun, active, none, running⟩

private theorem Doomed.not_running {service : Service} (doomed : service.Doomed)
    (quiescent : service.Quiescent) : ¬ service.Running := by
  rintro ⟨isRunning, -⟩
  rcases doomed with ⟨-, stopped⟩ | ⟨active, launched⟩
  · rw [stopped] at isRunning
    cases isRunning
  · have pending := quiescent .restartDestroys (by decide)
    simp [Service.step, active, launched] at pending

/-- Where nothing is left to do in a live scope, the cache holds the persisted set. -/
theorem Sound.follows {service : Service} (sound : Sound service)
    (active : service.companion.scopeCancelled = false) (quiescent : service.Quiescent) :
    service.blockedAppCache = service.persisted := by
  have collects := sound.collects active
  cases collector : service.collector with
  | collecting emitted lastBlockedApps =>
      have silent := quiescent .emission (by decide)
      simp only [Service.step, collector, active, Bool.false_eq_true, or_false, ite_eq_left_iff] at silent
      have current : emitted = some service.persisted := by
        by_contra new
        cases silent new
      exact sound.cached service.persisted (by rw [collector, Collector.emitted, current]; rfl)
  | checking newSet lastBlockedApps =>
      have unchecked := quiescent .checkRunning (by decide)
      simp only [Service.step, collector] at unchecked
      split at unchecked <;> cases unchecked
  | ended => exact absurd collector collects

/-- In a quiescent state the VPN is stopped for good, or it works with the policy
that was stored last. -/
private theorem running_iff {service : Service} (sound : Sound service)
    (either : service.Healthy ∨ service.Doomed) (quiescent : service.Quiescent) :
    service.Running ∧ service.blockedAppCache = service.persisted ↔ ¬ service.Doomed := by
  rcases either with healthy | doomed
  · exact iff_of_true ⟨healthy.2.2, sound.follows healthy.1 quiescent⟩ healthy.not_doomed
  · exact iff_of_false (fun good => doomed.not_running quiescent good.1) (not_not.mpr doomed)

/-- A policy step from a state that is sound, and healthy or doomed. -/
private def Tracked (service : Service) (label : Label) : Prop :=
  PolicyOnly service label ∧ Sound service ∧ (service.Healthy ∨ service.Doomed)

private theorem Tracked.next {service next : Service} {label : Label}
    (tracked : Tracked service label) (taken : service.step label = some next) :
    Sound next ∧ (next.Healthy ∨ next.Doomed) := by
  obtain ⟨policyOnly, sound, healthy | doomed⟩ := tracked
  · refine ⟨sound.step taken, ?_⟩
    obtain ⟨-, doomed⟩ | ⟨-, healthy⟩ := healthy.step sound policyOnly taken
    · exact .inr doomed
    · exact .inl healthy
  · exact ⟨sound.step taken, .inr (doomed.step policyOnly taken)⟩

private theorem Tracked.doomed_iff {service next : Service} {label : Label}
    (tracked : Tracked service label) (taken : service.step label = some next) :
    next.Doomed ↔ service.Doomed ∨ ChecksNonempty service label := by
  obtain ⟨policyOnly, sound, healthy | doomed⟩ := tracked
  · obtain ⟨checks, doomed⟩ | ⟨spares, kept⟩ := healthy.step sound policyOnly taken
    · exact iff_of_true doomed (.inr checks)
    · exact iff_of_false kept.not_doomed (by simp [healthy.not_doomed, spares])
  · exact iff_of_true (doomed.step policyOnly taken) (.inl doomed)

/-- A running VPN keeps running through changes of the policy, and follows them,
exactly when no restart was under way and it meets no nonempty set. -/
theorem survives_policy_iff {persisted : Finset String} {start final : Service}
    {labels : List Label} (reachable : Transition.Reachable step (created persisted) start)
    (running : start.Running) (policyOnly : Transition.Guarded step PolicyOnly start labels)
    (ran : Transition.run step start labels = some final) (quiescent : final.Quiescent) :
    final.Running ∧ final.blockedAppCache = final.persisted ↔
      start.launchedRestarts = 0 ∧ ¬ Transition.Occurs step ChecksNonempty start labels := by
  have sound := reachable_sound reachable
  have active : start.companion.scopeCancelled = false := by
    rw [← Bool.not_eq_true]
    intro cancelled
    have none := sound.companion.silent cancelled running.1
    rw [running.2.2] at none
    cases none
  have doomedStart : start.Doomed ↔ start.launchedRestarts ≠ 0 := by simp [Doomed, active]
  have start_either : start.Healthy ∨ start.Doomed := by
    rw [doomedStart]
    by_cases none : start.launchedRestarts = 0
    · exact .inl ⟨active, none, running⟩
    · exact .inr none
  have tracked : Transition.Guarded step Tracked start labels :=
    policyOnly.mono_invariant (fun service => Sound service ∧ (service.Healthy ∨ service.Doomed))
      (fun _ _ _ kept guarded taken => Tracked.next ⟨guarded, kept⟩ taken)
      (fun _ _ kept guarded => ⟨guarded, kept⟩) ⟨sound, start_either⟩
  obtain ⟨soundFinal, either⟩ := tracked.preserves
    (fun service => Sound service ∧ (service.Healthy ∨ service.Doomed))
    (fun _ _ _ _ tracked taken => tracked.next taken) ⟨sound, start_either⟩ ran
  have doomedFinal := tracked.latch Doomed (fun _ _ _ tracked taken => tracked.doomed_iff taken) ran
  rw [running_iff soundFinal either quiescent, doomedFinal, doomedStart, not_or, not_not]

/-- The policy was read before the start, so nothing was restarted. -/
def startedWith (persisted : Finset String) : Service :=
  { created persisted with
    companion := .running
    blockedAppCache := persisted
    collector := .collecting (some persisted) ∅ }

theorem startedWith_reachable (persisted : Finset String) :
    Transition.Reachable step (created persisted) (startedWith persisted) := by
  refine ⟨[.emission, .checkRunning, .command .START_VPN_SERVICE], ?_⟩
  simp [Transition.run_cons, step, created, Companion.initial]
  rfl

/-- The last blocked app is allowed again while the VPN runs. -/
def lastAllowed : List Label := [.persist ∅, .emission, .checkRunning]

theorem lastAllowed_survives :
    ∃ final, Transition.run step (startedWith {"com.example.mail"}) lastAllowed = some final ∧
      final.Running ∧ final.blockedAppCache = final.persisted := by
  have ran : Transition.run step (startedWith {"com.example.mail"}) lastAllowed =
      some (startedWith ∅) := by decide
  exact ⟨startedWith ∅, ran, (survives_policy_iff (startedWith_reachable _) ⟨rfl, rfl, rfl⟩
    (by decide) ran (by decide)).mpr ⟨rfl, by decide⟩⟩

/-- An app is blocked while the VPN runs. -/
def firstBlocked : List Label :=
  [.persist {"com.example.mail"}, .emission, .checkRunning, .restartDestroys, .restartResumes,
    .collectorEnds, .readLoopExits, .jobCompletes]

theorem firstBlocked_stops :
    ¬ ∀ (persisted : Finset String) (start final : Service) (labels : List Label),
      Transition.Reachable step (created persisted) start → start.Running →
      Transition.Guarded step PolicyOnly start labels →
      Transition.run step start labels = some final → final.Quiescent →
      final.Running ∧ final.blockedAppCache = final.persisted := by
  intro survives
  have stopped := survives ∅ (startedWith ∅)
    { created {"com.example.mail"} with
      companion := ⟨false, false, true, true, 0, 0⟩
      blockedAppCache := {"com.example.mail"}
      collector := .ended }
    firstBlocked (startedWith_reachable ∅) ⟨rfl, rfl, rfl⟩ (by decide) (by decide) (by decide)
  exact absurd stopped.1.1 (by decide)

end Service

end FirewallVpn
