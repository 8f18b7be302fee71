import FirewallVpn.Service.Lifecycle

/-! Whether the service ends up where the last command asked it to. The scope is
created once for the process, so the first `onDestroy` is final: no later
`startVpn` has a running read loop. -/

set_option autoImplicit false

namespace FirewallVpn

namespace Companion

def running : Companion where
  isRunning := true
  vpnInterface := true
  scopeCancelled := false
  jobCompleted := false
  completionHandlers := 0
  readLoops := 1

/-- No read loop will ever be launched again: the scope is cancelled, or the
interface stays open without one. -/
def Spoiled (companion : Companion) : Prop :=
  companion.readLoops ≤ 1 ∧
    (companion.scopeCancelled ∨ companion.vpnInterface ∧ companion.readLoops = 0)

/-- `onDestroy` has run and whatever it left open has a handler to close it. -/
def Stopped (companion : Companion) : Prop :=
  companion.isRunning = false ∧ companion.scopeCancelled ∧
    (companion.vpnInterface → 0 < companion.completionHandlers)

def Agrees (companion : Companion) : Command → Prop
  | .START_VPN_SERVICE =>
      companion.isRunning ∧ companion.vpnInterface ∧ companion.readLoops = 1
  | .STOP_VPN_SERVICE =>
      companion.isRunning = false ∧ companion.vpnInterface = false ∧ companion.readLoops = 0

/-- No completion handler is outstanding, and no loop has yet to notice that its
scope is cancelled. Pending restarts are allowed. -/
def Quiescent (companion : Companion) : Prop :=
  companion.completionHandlers = 0 ∧ (companion.scopeCancelled → companion.readLoops = 0)

theorem onDestroy_stopped (companion : Companion) : companion.onDestroy.Stopped := by
  unfold onDestroy Stopped
  split <;> simp

theorem onDestroy_spoiled {companion : Companion} (single : companion.readLoops ≤ 1) :
    companion.onDestroy.Spoiled := by
  unfold onDestroy Spoiled
  split <;> simpa using single

theorem Spoiled.startVpn {companion : Companion} (spoiled : companion.Spoiled) :
    companion.startVpn.Spoiled := by
  unfold Companion.startVpn
  split
  · exact spoiled
  · next closed =>
      obtain ⟨single, cancelled | ⟨opened, -⟩⟩ := spoiled
      · simp only [cancelled, if_true]
        exact ⟨single, .inl rfl⟩
      · exact absurd opened closed

end Companion

namespace Service

open Companion

/-- The labels after which no read loop is ever launched again. -/
def Label.spoils (label : Label) : Bool := label.destroys || label = .readLoopBreaks

def Clean (labels : List Label) : Prop := ∀ label ∈ labels, ¬ label.spoils

instance (labels : List Label) : Decidable (Clean labels) :=
  inferInstanceAs (Decidable (∀ label ∈ labels, ¬ label.spoils))

def lastCommand (labels : List Label) : Option Command :=
  (labels.filterMap Label.delivers).getLast?

theorem clean_concat {labels : List Label} {label : Label} :
    Clean (labels ++ [label]) ↔ Clean labels ∧ ¬ label.spoils := by
  simp [Clean, or_imp, forall_and]

theorem lastCommand_concat (labels : List Label) (label : Label) :
    lastCommand (labels ++ [label]) = label.delivers.or (lastCommand labels) := by
  unfold lastCommand
  rw [List.filterMap_append]
  cases delivered : label.delivers with
  | none => simp [delivered]
  | some command => simp [delivered]

/-- Before the first spoiling step the companion is idle or running. -/
def Phase (labels : List Label) (companion : Companion) : Prop :=
  (companion = .initial ∧ Clean labels ∧ lastCommand labels ≠ some .START_VPN_SERVICE) ∨
    (companion = .running ∧ Clean labels) ∨ (companion.Spoiled ∧ ¬ Clean labels)

private theorem spoiled_step {label : Label} {companion next : Companion}
    (spoiled : companion.Spoiled) (stepped : CompanionStep companion label next) :
    next.Spoiled := by
  cases stepped with
  | starts => exact spoiled.startVpn
  | destroyed destroys => exact onDestroy_spoiled spoiled.1
  | resumes active => exact spoiled.startVpn
  | breaks running =>
      obtain ⟨single, cancelled | ⟨-, none⟩⟩ := spoiled
      · exact ⟨Nat.le_trans (Nat.sub_le _ 1) single, .inl cancelled⟩
      · omega
  | exits running cancelled => exact ⟨Nat.le_trans (Nat.sub_le _ 1) spoiled.1, .inl cancelled⟩
  | completes cancelled finished => exact ⟨spoiled.1, .inl cancelled⟩
  | unchanged spared silent unbroken => exact spoiled

theorem phase_step {labels : List Label} {label : Label} {companion next : Companion}
    (phase : Phase labels companion) (stepped : CompanionStep companion label next) :
    Phase (labels ++ [label]) next := by
  rcases phase with ⟨rfl, clean, idle⟩ | ⟨rfl, clean⟩ | ⟨spoiled, unclean⟩
  · cases stepped with
    | starts => exact .inr (.inl ⟨rfl, clean_concat.mpr ⟨clean, by decide⟩⟩)
    | destroyed destroys =>
        refine .inr (.inr ⟨onDestroy_spoiled (by decide), fun both => ?_⟩)
        exact (clean_concat.mp both).2 (by simp [Label.spoils, destroys])
    | resumes active => exact .inr (.inl ⟨rfl, clean_concat.mpr ⟨clean, by decide⟩⟩)
    | breaks running => exact absurd running (by decide)
    | exits running cancelled => exact absurd running (by decide)
    | completes cancelled finished => exact absurd cancelled (by decide)
    | unchanged spared silent unbroken =>
        refine .inl ⟨rfl, clean_concat.mpr ⟨clean, by simp [Label.spoils, spared, unbroken]⟩, ?_⟩
        rw [lastCommand_concat, silent]
        exact idle
  · cases stepped with
    | starts => exact .inr (.inl ⟨rfl, clean_concat.mpr ⟨clean, by decide⟩⟩)
    | destroyed destroys =>
        refine .inr (.inr ⟨onDestroy_spoiled (by decide), fun both => ?_⟩)
        exact (clean_concat.mp both).2 (by simp [Label.spoils, destroys])
    | resumes active => exact .inr (.inl ⟨rfl, clean_concat.mpr ⟨clean, by decide⟩⟩)
    | breaks loops =>
        refine .inr (.inr ⟨⟨by decide, .inr ⟨rfl, rfl⟩⟩, fun both => ?_⟩)
        exact (clean_concat.mp both).2 (by decide)
    | exits loops cancelled => exact absurd cancelled (by decide)
    | completes cancelled finished => exact absurd cancelled (by decide)
    | unchanged spared silent unbroken =>
        exact .inr (.inl ⟨rfl, clean_concat.mpr ⟨clean, by simp [Label.spoils, spared, unbroken]⟩⟩)
  · exact .inr (.inr ⟨spoiled_step spoiled stepped, fun both => unclean (clean_concat.mp both).1⟩)

theorem run_phase {persisted : Finset String} {labels : List Label} {service : Service}
    (ran : Transition.run step (created persisted) labels = some service) :
    Phase labels service.companion := by
  refine Transition.run_history (fun labels service => Phase labels service.companion) ?_ ?_ ran
  · intro labels service label next phase taken
    exact phase_step phase (step_companion taken)
  · exact .inl ⟨rfl, nofun, nofun⟩

/-- The one interface of a process carries at most one read loop. -/
theorem run_readLoops_le_one {persisted : Finset String} {labels : List Label} {service : Service}
    (ran : Transition.run step (created persisted) labels = some service) :
    service.companion.readLoops ≤ 1 := by
  obtain ⟨idle, -⟩ | ⟨running, -⟩ | ⟨spoiled, -⟩ := run_phase ran
  · rw [idle]
    decide
  · rw [running]
    decide
  · exact spoiled.1

private theorem stopped_step {labels : List Label} {label : Label} {companion next : Companion}
    (stopped : lastCommand labels = some .STOP_VPN_SERVICE → companion.Stopped)
    (stepped : CompanionStep companion label next)
    (last : lastCommand (labels ++ [label]) = some .STOP_VPN_SERVICE) : next.Stopped := by
  rw [lastCommand_concat] at last
  cases stepped with
  | starts => cases last
  | destroyed destroys => exact onDestroy_stopped companion
  | resumes active =>
      obtain ⟨-, cancelled, -⟩ := stopped last
      rw [active] at cancelled
      cases cancelled
  | breaks running => exact stopped last
  | exits running cancelled => exact stopped last
  | completes cancelled finished =>
      obtain ⟨notRunning, cancelled, handled⟩ := stopped last
      refine ⟨notRunning, cancelled, fun opened => ?_⟩
      simp only [Companion.complete, Bool.and_eq_true, decide_eq_true_eq] at opened
      have waiting := handled opened.1
      omega
  | unchanged spared silent unbroken =>
      rw [silent] at last
      exact stopped last

theorem run_stopped {persisted : Finset String} {labels : List Label} {service : Service}
    (ran : Transition.run step (created persisted) labels = some service)
    (last : lastCommand labels = some .STOP_VPN_SERVICE) : service.companion.Stopped := by
  refine Transition.run_history
    (fun labels service => lastCommand labels = some .STOP_VPN_SERVICE → service.companion.Stopped)
    ?_ nofun ran last
  intro labels service label next stopped taken
  exact stopped_step stopped (step_companion taken)

/-- A quiescent service agrees with a last STOP always, and with a last START
exactly when nothing before it has run `onDestroy` or broken the read loop. -/
theorem agrees_with_last_command_iff {persisted : Finset String} {labels : List Label}
    {service : Service} {command : Command}
    (ran : Transition.run step (created persisted) labels = some service)
    (last : lastCommand labels = some command) (quiescent : service.companion.Quiescent) :
    service.companion.Agrees command ↔ command = .STOP_VPN_SERVICE ∨ Clean labels := by
  obtain ⟨handled, exited⟩ := quiescent
  cases command with
  | STOP_VPN_SERVICE =>
      obtain ⟨notRunning, cancelled, waiting⟩ := run_stopped ran last
      have closed : service.companion.vpnInterface = false := by
        rw [← Bool.not_eq_true]
        intro opened
        have pending := waiting opened
        omega
      exact iff_of_true ⟨notRunning, closed, exited cancelled⟩ (.inl rfl)
  | START_VPN_SERVICE =>
      obtain ⟨-, -, idle⟩ | ⟨running, clean⟩ | ⟨⟨-, spoiled⟩, unclean⟩ := run_phase ran
      · exact absurd last idle
      · rw [running]
        exact iff_of_true ⟨rfl, rfl, rfl⟩ (.inr clean)
      · have silent : service.companion.readLoops = 0 := by
          rcases spoiled with cancelled | ⟨-, none⟩
          · exact exited cancelled
          · exact none
        refine iff_of_false (fun agrees => ?_) (by simp [unclean])
        have single : service.companion.readLoops = 1 := agrees.2.2
        omega

/-- A second START finds the service running, with a restart launched that has not begun. -/
def startedTwice : List Label :=
  [.command .START_VPN_SERVICE, .emission, .checkRunning, .command .START_VPN_SERVICE]

/-- Then a STOP, whose completion handler waits for every coroutine to end. -/
def stoppedAtLast : List Label :=
  startedTwice ++
    [.command .STOP_VPN_SERVICE, .restartDropped, .collectorEnds, .readLoopExits, .jobCompletes]

theorem startedTwice_agrees :
    (∃ service, Transition.run step (created {"com.example.mail"}) startedTwice = some service ∧
      service.companion.Agrees .START_VPN_SERVICE) ∧
    ∃ service, Transition.run step (created {"com.example.mail"}) stoppedAtLast = some service ∧
      service.companion.Agrees .STOP_VPN_SERVICE := by
  have started : (Transition.run step (created {"com.example.mail"}) startedTwice).map
      Service.companion = some .running := by
    decide +kernel
  have stopped : (Transition.run step (created {"com.example.mail"}) stoppedAtLast).map
      Service.companion = some ⟨false, false, true, true, 0, 0⟩ := by
    decide +kernel
  obtain ⟨service, ran, companion⟩ := Option.map_eq_some_iff.mp started
  obtain ⟨later, ranOn, ended⟩ := Option.map_eq_some_iff.mp stopped
  have quiescent : service.companion.Quiescent := by
    rw [companion]
    exact ⟨rfl, nofun⟩
  have atRest : later.companion.Quiescent := by
    rw [ended]
    exact ⟨rfl, fun _ => rfl⟩
  exact ⟨⟨service, ran, (agrees_with_last_command_iff ran rfl quiescent).mpr (.inr (by decide))⟩,
    later, ranOn, (agrees_with_last_command_iff ranOn rfl atRest).mpr (.inl rfl)⟩

/-- Started, stopped until every coroutine has ended, and started again. -/
def startedAgain : List Label :=
  [.command .START_VPN_SERVICE, .command .STOP_VPN_SERVICE, .readLoopExits, .collectorEnds,
    .jobCompletes, .command .START_VPN_SERVICE]

/-- The second START opens an interface that nothing reads. -/
theorem startedAgain_disagrees :
    ¬ ∀ (persisted : Finset String) (labels : List Label) (service : Service) (command : Command),
      Transition.run step (created persisted) labels = some service →
      lastCommand labels = some command → service.companion.Quiescent →
      service.companion.Agrees command := by
  intro agrees
  have silent := agrees ∅ startedAgain
    { created ∅ with
      companion := ⟨true, true, true, true, 0, 0⟩
      collector := .ended }
    .START_VPN_SERVICE rfl rfl ⟨rfl, fun _ => rfl⟩
  exact absurd silent.2.2 (by decide)

end Service

end FirewallVpn
