import FirewallVpn.Library.Potential
import FirewallVpn.Service.PolicyChange

/-! Whether the service ever comes to rest. A change of the policy leads to a restart, and
a restart to the end of the scope; the coroutines cannot keep one another busy. -/

set_option autoImplicit false

namespace FirewallVpn

open Weights

namespace Service

/-- A step of the service's own coroutines, or of the completion of their job. -/
def Label.own : Label → Bool
  | .emission | .checkRunning | .collectorEnds | .restartDestroys | .restartDropped
  | .restartResumes | .readLoopExits | .jobCompletes => true
  | .command _ | .systemDestroys | .persist _ | .readLoopBreaks => false

/-- What a value the collector has not taken can lead to: it is emitted and checked, and
the restart destroys, resumes, and launches a read loop. -/
def unread (persisted : Finset String) (emitted : Option (Finset String)) : Nat :=
  if emitted = some persisted then 0 else 5

def collectorWork (persisted : Finset String) : Collector → Nat
  | .collecting emitted _ => unread persisted emitted + 1
  | .checking newSet _ => unread persisted (some newSet) + 5
  | .ended => 0

/-- The most steps of its own that the service can still take. -/
def work (service : Service) : Nat :=
  collectorWork service.persisted service.collector + 3 * service.launchedRestarts +
    2 * service.delayedRestarts + service.companion.readLoops +
      if service.companion.jobCompleted then 0 else 1

def ownSteps (label : Label) : Nat := label.own.toNat

def assigned : Label → Nat
  | .command .START_VPN_SERVICE => 1
  | .persist _ => 5
  | .command .STOP_VPN_SERVICE | .systemDestroys | .emission | .checkRunning | .collectorEnds
  | .restartDestroys | .restartDropped | .restartResumes | .readLoopBreaks | .readLoopExits
  | .jobCompletes => 0

def Resting (service : Service) : Prop := ∀ label, label.own → service.step label = none

structure Rested (service : Service) : Prop where
  launched : service.launchedRestarts = 0
  delayed : service.delayedRestarts = 0
  live : service.companion.scopeCancelled = false →
    service.collector ≠ .ended ∧ service.blockedAppCache = service.persisted
  stopped : service.companion.scopeCancelled → service.collector = .ended ∧
    service.companion.readLoops = 0 ∧ service.companion.jobCompleted ∧
      service.companion.completionHandlers = 0

private theorem unread_le (persisted : Finset String) (emitted : Option (Finset String)) :
    unread persisted emitted ≤ 5 := by
  unfold unread
  split <;> omega

private theorem startVpn_work (companion : Companion) :
    companion.startVpn.jobCompleted = companion.jobCompleted ∧
      companion.startVpn.readLoops ≤ companion.readLoops + 1 := by
  unfold Companion.startVpn
  split
  · exact ⟨rfl, Nat.le_succ _⟩
  · refine ⟨rfl, ?_⟩
    dsimp only
    split <;> omega

private theorem onDestroy_work (companion : Companion) :
    companion.onDestroy.jobCompleted = companion.jobCompleted ∧
      companion.onDestroy.readLoops = companion.readLoops := by
  unfold Companion.onDestroy
  split <;> exact ⟨rfl, rfl⟩

private theorem readLoopEnds_work (companion : Companion) :
    companion.readLoopEnds.jobCompleted = companion.jobCompleted ∧
      companion.readLoopEnds.readLoops = companion.readLoops - 1 := ⟨rfl, rfl⟩

private theorem jobCompletes_step {service next : Service}
    (taken : service.step .jobCompletes = some next) :
    service.companion.jobCompleted = false ∧
      next = { service with companion := service.companion.complete } := by
  simp only [step] at taken
  split at taken <;> cases taken
  next finished => exact ⟨by simpa using finished.2.1, rfl⟩

theorem step_pays : Transition.Pays step work ownSteps assigned := by
  intro service label next taken
  cases step_service taken with
  | started =>
      obtain ⟨job, loops⟩ := startVpn_work service.companion
      simp only [work, ownSteps, assigned, Label.own, Bool.toNat_false, job]
      omega
  | stopped | systemDestroyed =>
      obtain ⟨job, loops⟩ := onDestroy_work service.companion
      simp [work, ownSteps, assigned, Label.own, job, loops]
  | @persisted blocked =>
      have now : collectorWork blocked service.collector ≤
          collectorWork service.persisted service.collector + 5 := by
        cases service.collector with
        | collecting emitted =>
            have bound := unread_le blocked emitted
            simp only [collectorWork]
            omega
        | checking newSet =>
            have bound := unread_le blocked (some newSet)
            simp only [collectorWork]
            omega
        | ended => exact Nat.le_add_right _ _
      simp only [work, ownSteps, assigned, Label.own, Bool.toNat_false]
      omega
  | emitted collecting new =>
      simp only [work, ownSteps, assigned, Label.own, Bool.toNat_true, collectorWork, unread,
        collecting, if_neg new, if_true]
      omega
  | restartLaunched checking =>
      simp only [work, ownSteps, assigned, Label.own, collectorWork, checking, Bool.toNat_true]
      omega
  | restartRefused checking | checked checking =>
      simp only [work, ownSteps, assigned, Label.own, collectorWork, checking, Bool.toNat_true]
      omega
  | collectorEnded collecting =>
      simp only [work, ownSteps, assigned, Label.own, collectorWork, collecting, Bool.toNat_true]
      omega
  | restartDestroyed pending =>
      obtain ⟨job, loops⟩ := onDestroy_work service.companion
      simp only [work, ownSteps, assigned, Label.own, job, loops, Bool.toNat_true]
      omega
  | restartDropped pending | restartThrown pending =>
      simp only [work, ownSteps, assigned, Label.own, Bool.toNat_true]
      omega
  | restartResumed pending =>
      obtain ⟨job, loops⟩ := startVpn_work service.companion
      simp only [work, ownSteps, assigned, Label.own, job, Bool.toNat_true]
      omega
  | readLoopBroken running =>
      obtain ⟨job, loops⟩ := readLoopEnds_work service.companion
      simp only [work, ownSteps, assigned, Label.own, Bool.toNat_false, job, loops]
      omega
  | readLoopExited running =>
      obtain ⟨job, loops⟩ := readLoopEnds_work service.companion
      simp only [work, ownSteps, assigned, Label.own, Bool.toNat_true, job, loops]
      omega
  | jobCompleted =>
      obtain ⟨pending, -⟩ := jobCompletes_step taken
      simp [work, ownSteps, assigned, Label.own, Companion.complete, pending]

/-- A completed job has run its handlers, and runs a new one at once. -/
private theorem handlers_step {companion next : Companion} {label : Label}
    (handled : companion.jobCompleted → companion.completionHandlers = 0)
    (stepped : CompanionStep companion label next) :
    next.jobCompleted → next.completionHandlers = 0 := by
  cases stepped with
  | starts | resumes =>
      unfold Companion.startVpn
      split <;> exact handled
  | destroyed =>
      unfold Companion.onDestroy
      split
      · exact handled
      · next pending => exact fun completed => absurd completed pending
  | completes => exact fun _ => rfl
  | breaks | exits | unchanged => exact handled

theorem Resting.quiescent {service : Service} (resting : Resting service) : service.Quiescent := by
  intro label member
  apply resting
  simp only [List.mem_cons, List.not_mem_nil, or_false] at member
  rcases member with rfl | rfl | rfl | rfl | rfl <;> rfl

theorem Resting.rested {service : Service} (resting : Resting service) (sound : Sound service)
    (handled : service.companion.jobCompleted → service.companion.completionHandlers = 0) :
    Rested service := by
  have launched : service.launchedRestarts = 0 := by
    have destroys := resting .restartDestroys rfl
    have drops := resting .restartDropped rfl
    by_contra pending
    cases cancelled : service.companion.scopeCancelled <;>
      simp [step, pending, cancelled] at destroys drops
  have delayed : service.delayedRestarts = 0 := by
    have resumes := resting .restartResumes rfl
    by_contra pending
    cases cancelled : service.companion.scopeCancelled <;> simp [step, pending, cancelled] at resumes
  refine ⟨launched, delayed, fun active => ?_, fun cancelled => ?_⟩
  · exact ⟨sound.collects active, sound.follows active resting.quiescent⟩
  · have ended : service.collector = .ended := by
      have ends := resting .collectorEnds rfl
      have checks := resting .checkRunning rfl
      cases collector : service.collector with
      | collecting => simp [step, collector, cancelled] at ends
      | checking =>
          simp only [step, collector] at checks
          split at checks <;> cases checks
      | ended => rfl
    have loops : service.companion.readLoops = 0 := by
      have exits := resting .readLoopExits rfl
      by_contra running
      simp [step, running, cancelled] at exits
    have completed : service.companion.jobCompleted := by
      have completes := resting .jobCompletes rfl
      by_contra pending
      simp [step, pending, cancelled, ended, loops, launched, delayed] at completes
    exact ⟨ended, loops, completed, handled completed⟩

/-- The steps the service takes of its own are bounded by the commands and the changes of
the policy. Without these it comes to rest on every schedule of its coroutines: with the
stored policy if the scope lives, and else with everything ended. -/
theorem comes_to_rest {persisted : Finset String} {labels : List Label} {service : Service}
    (ran : Transition.run step (created persisted) labels = some service) :
    service.work + total ownSteps labels ≤ 7 + total assigned labels ∧
      (∀ more final, Transition.run step service more = some final → (∀ label ∈ more, label.own) →
        more.length + final.work ≤ service.work ∧ (Resting final → Rested final)) ∧
      ∃ more final, Transition.run step service more = some final ∧ (∀ label ∈ more, label.own) ∧
        Resting final := by
  have spends : ∀ label : Label, label.own → 0 < ownSteps label ∧ assigned label = 0 := by
    intro label own
    cases label with
    | command | systemDestroys | persist | readLoopBreaks => cases own
    | emission | checkRunning | collectorEnds | restartDestroys | restartDropped | restartResumes
    | readLoopExits | jobCompletes => exact ⟨Nat.one_pos, rfl⟩
  refine ⟨?_, fun more final goesOn own => ⟨?_, fun resting => ?_⟩, step_pays.rests spends service⟩
  · exact step_pays.run ran
  · exact step_pays.length_le goesOn fun label member => spends label (own label member)
  · have reached : Transition.Reachable step (created persisted) final :=
      Transition.Reachable.trans ⟨labels, ran⟩ ⟨more, goesOn⟩
    refine resting.rested (reachable_sound reached) ?_
    exact reached.invariant (fun service =>
      service.companion.jobCompleted → service.companion.completionHandlers = 0)
      (fun _ _ _ handled taken => handlers_step handled (step_companion taken)) nofun

/-- An app is blocked while the VPN runs: after eight steps at most all is over. -/
theorem blockedWhileRunning_rests :
    ∃ service, Transition.run step (created ∅)
        [.command .START_VPN_SERVICE, .persist {"com.example.mail"}] = some service ∧
      ∃ more final, Transition.run step service more = some final ∧ more.length ≤ 8 ∧ Rested final := by
  have ran : Transition.run step (created ∅)
      [.command .START_VPN_SERVICE, .persist {"com.example.mail"}] =
        some { created {"com.example.mail"} with companion := .running } := rfl
  obtain ⟨-, bounded, more, final, goesOn, own, resting⟩ := comes_to_rest ran
  obtain ⟨short, rests⟩ := bounded more final goesOn own
  refine ⟨_, ran, more, final, goesOn, ?_, rests resting⟩
  exact Nat.le_trans (Nat.le_of_add_right_le short) (by decide)

end Service

end FirewallVpn
