import FirewallVpn.Library.Transition
import Mathlib.Data.Finset.Basic

/-! The lifecycle of `FirewallVpnService`: the state of its companion object,
which outlives every instance, and the coroutines launched in `vpnScope`. A
label is one atomic step of the main thread, of a coroutine or of the system.

An instance made after an `onDestroy` finds the scope cancelled: nothing it
launches runs, so its own `blockedAppCache` is never read and is left out. -/

set_option autoImplicit false

namespace FirewallVpn

/-- The two actions `onStartCommand` knows. -/
inductive Command where
  | START_VPN_SERVICE
  | STOP_VPN_SERVICE
  deriving DecidableEq, Repr

/-- `vpnInterface` tells whether the handle is non-null; `completionHandlers`
and `readLoops` count what is registered on, and launched in, `vpnScope`. -/
structure Companion where
  isRunning : Bool
  vpnInterface : Bool
  scopeCancelled : Bool
  jobCompleted : Bool
  completionHandlers : Nat
  readLoops : Nat
  deriving DecidableEq

namespace Companion

def initial : Companion where
  isRunning := false
  vpnInterface := false
  scopeCancelled := false
  jobCompleted := false
  completionHandlers := 0
  readLoops := 0

/-- `establish()` succeeds. A body launched in a cancelled scope never runs. -/
def startVpn (companion : Companion) : Companion :=
  if companion.vpnInterface then companion
  else { companion with
    vpnInterface := true
    isRunning := true
    readLoops := if companion.scopeCancelled then companion.readLoops else companion.readLoops + 1 }

/-- `invokeOnCompletion` on a completed job runs its handler at once. -/
def onDestroy (companion : Companion) : Companion :=
  if companion.jobCompleted then
    { companion with isRunning := false, scopeCancelled := true, vpnInterface := false }
  else
    { companion with
      isRunning := false
      scopeCancelled := true
      completionHandlers := companion.completionHandlers + 1 }

def readLoopEnds (companion : Companion) : Companion :=
  { companion with readLoops := companion.readLoops - 1 }

/-- The job of `vpnScope` completes and its handlers close the interface. -/
def complete (companion : Companion) : Companion :=
  { companion with
    jobCompleted := true
    completionHandlers := 0
    vpnInterface := companion.vpnInterface && companion.completionHandlers = 0 }

end Companion

/-- The coroutine of `observeBlockedApps`. `emitted` is the value that
`distinctUntilChanged` compares with; `checking` is the moment between the
assignment to `blockedAppCache` and the reading of `isRunning`. -/
inductive Collector where
  | collecting (emitted : Option (Finset String)) (lastBlockedApps : Finset String)
  | checking (newSet lastBlockedApps : Finset String)
  | ended
  deriving DecidableEq

/-- The restart counters are the coroutines of `restartVpn` before `onDestroy()`
and inside `delay(300)`. -/
structure Service where
  companion : Companion
  persisted : Finset String
  blockedAppCache : Finset String
  collector : Collector
  launchedRestarts : Nat
  delayedRestarts : Nat
  deriving DecidableEq

namespace Service

/-- A process in which `onCreate` has just launched the collector. -/
def created (persisted : Finset String) : Service where
  companion := .initial
  persisted := persisted
  blockedAppCache := ∅
  collector := .collecting none ∅
  launchedRestarts := 0
  delayedRestarts := 0

inductive Label where
  | command (action : Command)
  /-- After `stopSelf()`, or when the user revokes the VPN. -/
  | systemDestroys
  | persist (blocked : Finset String)
  | emission
  | checkRunning
  | collectorEnds
  | restartDestroys
  | restartDropped
  /-- `delay(300)` is over; in a cancelled scope it throws a CancellationException. -/
  | restartResumes
  | readLoopBreaks
  | readLoopExits
  | jobCompletes
  deriving DecidableEq

def restartVpn (service : Service) : Service :=
  if service.companion.scopeCancelled then service
  else { service with launchedRestarts := service.launchedRestarts + 1 }

def step (service : Service) : Label → Option Service
  | .command .START_VPN_SERVICE =>
      some { service with companion := service.companion.startVpn }
  | .command .STOP_VPN_SERVICE =>
      some { service with companion := service.companion.onDestroy }
  | .systemDestroys => some { service with companion := service.companion.onDestroy }
  | .persist blocked => some { service with persisted := blocked }
  | .emission =>
      match service.collector with
      | .collecting emitted lastBlockedApps =>
          if emitted = some service.persisted ∨ service.companion.scopeCancelled then none
          else some { service with
            blockedAppCache := service.persisted
            collector := .checking service.persisted lastBlockedApps }
      | _ => none
  | .checkRunning =>
      match service.collector with
      | .checking newSet lastBlockedApps =>
          if service.companion.isRunning ∧ newSet ≠ lastBlockedApps then
            some { service.restartVpn with collector := .collecting (some newSet) newSet }
          else some { service with collector := .collecting (some newSet) lastBlockedApps }
      | _ => none
  | .collectorEnds =>
      match service.collector with
      | .collecting _ _ =>
          if service.companion.scopeCancelled then some { service with collector := .ended }
          else none
      | _ => none
  | .restartDestroys =>
      if service.launchedRestarts = 0 ∨ service.companion.scopeCancelled then none
      else some { service with
        companion := service.companion.onDestroy
        launchedRestarts := service.launchedRestarts - 1
        delayedRestarts := service.delayedRestarts + 1 }
  | .restartDropped =>
      if service.launchedRestarts = 0 ∨ !service.companion.scopeCancelled then none
      else some { service with launchedRestarts := service.launchedRestarts - 1 }
  | .restartResumes =>
      if service.delayedRestarts = 0 then none
      else if service.companion.scopeCancelled then
        some { service with delayedRestarts := service.delayedRestarts - 1 }
      else some { service with
        companion := service.companion.startVpn
        delayedRestarts := service.delayedRestarts - 1 }
  | .readLoopBreaks =>
      if service.companion.readLoops = 0 then none
      else some { service with companion := service.companion.readLoopEnds }
  | .readLoopExits =>
      if service.companion.readLoops = 0 ∨ !service.companion.scopeCancelled then none
      else some { service with companion := service.companion.readLoopEnds }
  | .jobCompletes =>
      if service.companion.scopeCancelled ∧ !service.companion.jobCompleted ∧
          service.companion.readLoops = 0 ∧ service.collector = .ended ∧
          service.launchedRestarts = 0 ∧ service.delayedRestarts = 0 then
        some { service with companion := service.companion.complete }
      else none

/-- The steps of the service. -/
inductive ServiceStep (service : Service) : Label → Service → Prop where
  | started : ServiceStep service (.command .START_VPN_SERVICE)
      { service with companion := service.companion.startVpn }
  | stopped : ServiceStep service (.command .STOP_VPN_SERVICE)
      { service with companion := service.companion.onDestroy }
  | systemDestroyed : ServiceStep service .systemDestroys
      { service with companion := service.companion.onDestroy }
  | persisted {blocked : Finset String} :
      ServiceStep service (.persist blocked) { service with persisted := blocked }
  | emitted {emitted : Option (Finset String)} {lastBlockedApps : Finset String}
      (collecting : service.collector = .collecting emitted lastBlockedApps)
      (new : emitted ≠ some service.persisted) (active : service.companion.scopeCancelled = false) :
      ServiceStep service .emission { service with
        blockedAppCache := service.persisted
        collector := .checking service.persisted lastBlockedApps }
  | restartLaunched {newSet lastBlockedApps : Finset String}
      (checking : service.collector = .checking newSet lastBlockedApps)
      (running : service.companion.isRunning) (changed : newSet ≠ lastBlockedApps)
      (active : service.companion.scopeCancelled = false) :
      ServiceStep service .checkRunning { service with
        collector := .collecting (some newSet) newSet
        launchedRestarts := service.launchedRestarts + 1 }
  | restartRefused {newSet lastBlockedApps : Finset String}
      (checking : service.collector = .checking newSet lastBlockedApps)
      (running : service.companion.isRunning) (changed : newSet ≠ lastBlockedApps)
      (cancelled : service.companion.scopeCancelled) :
      ServiceStep service .checkRunning { service with collector := .collecting (some newSet) newSet }
  | checked {newSet lastBlockedApps : Finset String}
      (checking : service.collector = .checking newSet lastBlockedApps)
      (unchanged : service.companion.isRunning → newSet = lastBlockedApps) :
      ServiceStep service .checkRunning
        { service with collector := .collecting (some newSet) lastBlockedApps }
  | collectorEnded {emitted : Option (Finset String)} {lastBlockedApps : Finset String}
      (collecting : service.collector = .collecting emitted lastBlockedApps)
      (cancelled : service.companion.scopeCancelled) :
      ServiceStep service .collectorEnds { service with collector := .ended }
  | restartDestroyed (pending : service.launchedRestarts ≠ 0)
      (active : service.companion.scopeCancelled = false) :
      ServiceStep service .restartDestroys { service with
        companion := service.companion.onDestroy
        launchedRestarts := service.launchedRestarts - 1
        delayedRestarts := service.delayedRestarts + 1 }
  | restartDropped (pending : service.launchedRestarts ≠ 0)
      (cancelled : service.companion.scopeCancelled) :
      ServiceStep service .restartDropped
        { service with launchedRestarts := service.launchedRestarts - 1 }
  | restartThrown (pending : service.delayedRestarts ≠ 0)
      (cancelled : service.companion.scopeCancelled) :
      ServiceStep service .restartResumes
        { service with delayedRestarts := service.delayedRestarts - 1 }
  | restartResumed (pending : service.delayedRestarts ≠ 0)
      (active : service.companion.scopeCancelled = false) :
      ServiceStep service .restartResumes { service with
        companion := service.companion.startVpn
        delayedRestarts := service.delayedRestarts - 1 }
  | readLoopBroken (running : 0 < service.companion.readLoops) :
      ServiceStep service .readLoopBreaks
        { service with companion := service.companion.readLoopEnds }
  | readLoopExited (running : 0 < service.companion.readLoops)
      (cancelled : service.companion.scopeCancelled) :
      ServiceStep service .readLoopExits
        { service with companion := service.companion.readLoopEnds }
  | jobCompleted (cancelled : service.companion.scopeCancelled)
      (finished : service.companion.readLoops = 0) (ended : service.collector = .ended) :
      ServiceStep service .jobCompletes { service with companion := service.companion.complete }

private theorem step_checkRunning {service next : Service}
    (taken : service.step .checkRunning = some next) : ServiceStep service .checkRunning next := by
  simp only [step] at taken
  split at taken
  · next newSet lastBlockedApps checking =>
      split at taken <;> cases taken
      · next asked =>
          obtain ⟨running, changed⟩ := asked
          cases cancelled : service.companion.scopeCancelled with
          | true =>
              rw [restartVpn, if_pos cancelled]
              exact .restartRefused checking running changed cancelled
          | false =>
              rw [restartVpn, if_neg (by simp [cancelled])]
              exact .restartLaunched checking running changed cancelled
      · next settled =>
          exact .checked checking fun running => by
            by_contra changed
            exact settled ⟨running, changed⟩
  · cases taken

theorem step_service {service next : Service} {label : Label}
    (taken : service.step label = some next) : ServiceStep service label next := by
  cases label with
  | command action => cases action <;> cases taken <;> constructor
  | systemDestroys =>
      cases taken
      exact .systemDestroyed
  | persist blocked =>
      cases taken
      exact .persisted
  | emission =>
      simp only [step] at taken
      split at taken
      · next collecting =>
          split at taken <;> cases taken
          next silent =>
            obtain ⟨new, active⟩ := not_or.mp silent
            exact .emitted collecting new (by simpa using active)
      · cases taken
  | checkRunning => exact step_checkRunning taken
  | collectorEnds =>
      simp only [step] at taken
      split at taken
      · next collecting =>
          split at taken <;> cases taken
          next cancelled => exact .collectorEnded collecting cancelled
      · cases taken
  | restartDestroys =>
      simp only [step] at taken
      split at taken <;> cases taken
      next enabled =>
        obtain ⟨pending, active⟩ := not_or.mp enabled
        exact .restartDestroyed pending (by simpa using active)
  | restartDropped =>
      simp only [step] at taken
      split at taken <;> cases taken
      next enabled =>
        obtain ⟨pending, cancelled⟩ := not_or.mp enabled
        exact .restartDropped pending (by simpa using cancelled)
  | restartResumes =>
      simp only [step] at taken
      split at taken
      · cases taken
      · next pending =>
          split at taken <;> cases taken
          · next cancelled => exact .restartThrown pending cancelled
          · next active => exact .restartResumed pending (by simpa using active)
  | readLoopBreaks =>
      simp only [step] at taken
      split at taken <;> cases taken
      next running => exact .readLoopBroken (Nat.pos_of_ne_zero running)
  | readLoopExits =>
      simp only [step] at taken
      split at taken <;> cases taken
      next running =>
        simp only [not_or, Bool.not_eq_true, Bool.not_eq_false'] at running
        exact .readLoopExited (Nat.pos_of_ne_zero running.1) running.2
  | jobCompletes =>
      simp only [step] at taken
      split at taken <;> cases taken
      next finished => exact .jobCompleted finished.1 finished.2.2.1 finished.2.2.2.1

/-- The labels that run `onDestroy`. -/
def Label.destroys : Label → Bool
  | .command .STOP_VPN_SERVICE | .systemDestroys | .restartDestroys => true
  | _ => false

/-- The command a label delivers, if any. -/
def Label.delivers : Label → Option Command
  | .command action => some action
  | _ => none

/-- What one step can do to the companion object. -/
inductive CompanionStep (companion : Companion) : Label → Companion → Prop where
  | starts : CompanionStep companion (.command .START_VPN_SERVICE) companion.startVpn
  | destroyed {label : Label} (destroys : label.destroys) :
      CompanionStep companion label companion.onDestroy
  | resumes (active : companion.scopeCancelled = false) :
      CompanionStep companion .restartResumes companion.startVpn
  | breaks (running : 0 < companion.readLoops) :
      CompanionStep companion .readLoopBreaks companion.readLoopEnds
  | exits (running : 0 < companion.readLoops) (cancelled : companion.scopeCancelled) :
      CompanionStep companion .readLoopExits companion.readLoopEnds
  | completes (cancelled : companion.scopeCancelled) (finished : companion.readLoops = 0) :
      CompanionStep companion .jobCompletes companion.complete
  | unchanged {label : Label} (spared : ¬ label.destroys) (silent : label.delivers = none)
      (unbroken : label ≠ .readLoopBreaks) : CompanionStep companion label companion

theorem step_companion {service next : Service} {label : Label}
    (taken : service.step label = some next) :
    CompanionStep service.companion label next.companion := by
  cases step_service taken with
  | started => exact .starts
  | stopped | systemDestroyed | restartDestroyed => exact .destroyed rfl
  | restartResumed pending active => exact .resumes active
  | readLoopBroken running => exact .breaks running
  | readLoopExited running cancelled => exact .exits running cancelled
  | jobCompleted cancelled finished ended => exact .completes cancelled finished
  | persisted | emitted | restartLaunched | restartRefused | checked | collectorEnded
  | restartDropped | restartThrown => exact .unchanged nofun rfl nofun

/-- Only the user changes the persisted set, only the collector the cache. -/
theorem step_policy {service next : Service} {label : Label}
    (taken : service.step label = some next) :
    ((∀ blocked, label ≠ .persist blocked) → next.persisted = service.persisted) ∧
      next.blockedAppCache =
        if label = .emission then service.persisted else service.blockedAppCache := by
  cases step_service taken with
  | @persisted blocked => exact ⟨fun kept => absurd rfl (kept blocked), rfl⟩
  | started | stopped | systemDestroyed | emitted | restartLaunched | restartRefused | checked
  | collectorEnded | restartDestroyed | restartDropped | restartThrown | restartResumed
  | readLoopBroken | readLoopExited | jobCompleted => exact ⟨fun _ => rfl, rfl⟩

end Service

end FirewallVpn
