import FirewallVpn.Service.Agreement

/-! The switch of the main screen against the service. The screen sends its commands as
intents, which reach `onStartCommand` in order and at any time later; it never asks the
service how it is doing. -/

set_option autoImplicit false

namespace FirewallVpn

/-- `checked` is the value of `switchState` that the screen was composed with, `dialogs`
the requests for the VPN permission that the user has yet to answer. -/
structure VpnSwitch where
  switchState : Bool
  checked : Bool
  dialogs : Nat
  intents : List Command
  service : Service

namespace VpnSwitch

def created (persisted : Finset String) : VpnSwitch where
  switchState := false
  checked := false
  dialogs := 0
  intents := []
  service := .created persisted

inductive Label where
  | recompose
  /-- `prepared`: `VpnService.prepare` returns null. -/
  | onCheckedChange (prepared : Bool)
  | permissionResult (granted : Bool)
  /-- The activity has gone, and comes back with a new `MainViewModel`. -/
  | viewModelCreated
  | onStartCommand
  /-- A step of the service other than a command. -/
  | service (label : Service.Label)
  deriving DecidableEq

variable (vpn : VpnSwitch)

def send (command : Command) (switchState : Bool) : VpnSwitch :=
  { vpn with switchState, intents := vpn.intents ++ [command] }

def step : Label → Option VpnSwitch
  | .recompose => some { vpn with checked := vpn.switchState }
  | .onCheckedChange prepared =>
      if vpn.checked then some (vpn.send .STOP_VPN_SERVICE false)
      else if prepared then some (vpn.send .START_VPN_SERVICE true)
      else some { vpn with dialogs := vpn.dialogs + 1 }
  | .permissionResult granted =>
      if vpn.dialogs = 0 then none
      else if granted then
        some ({ vpn with dialogs := vpn.dialogs - 1 }.send .START_VPN_SERVICE true)
      else some { vpn with dialogs := vpn.dialogs - 1, switchState := false }
  | .viewModelCreated => some { vpn with switchState := false, checked := false }
  | .onStartCommand =>
      match vpn.intents with
      | [] => none
      | command :: intents =>
          (vpn.service.step (.command command)).map fun service => { vpn with service, intents }
  | .service label =>
      if label.delivers.isSome then none
      else (vpn.service.step label).map fun service => { vpn with service }

def sends : Label → Option Command
  | .onCheckedChange prepared =>
      if vpn.checked then some .STOP_VPN_SERVICE
      else if prepared then some .START_VPN_SERVICE else none
  | .permissionResult granted => if granted then some .START_VPN_SERVICE else none
  | .recompose | .viewModelCreated | .onStartCommand | .service _ => none

def serves : Label → Option Service.Label
  | .onStartCommand => vpn.intents.head?.map .command
  | .service label => some label
  | .recompose | .onCheckedChange _ | .permissionResult _ | .viewModelCreated => none

structure Record where
  sent : List Command
  served : List Service.Label

def note (vpn : VpnSwitch) (label : Label) (record : Record) : Record where
  sent := record.sent ++ (vpn.sends label).toList
  served := record.served ++ (vpn.serves label).toList

/-- The switch goes off, and nothing is sent. -/
def GoesOffSilently (state : VpnSwitch × Record) (label : Label) : Prop :=
  state.1.switchState = true ∧ (label = .permissionResult false ∨ label = .viewModelCreated)

def Sends (state : VpnSwitch × Record) (label : Label) : Prop := (state.1.sends label).isSome

instance (state : VpnSwitch × Record) (label : Label) : Decidable (GoesOffSilently state label) :=
  inferInstanceAs (Decidable (_ ∧ (_ ∨ _)))

instance (state : VpnSwitch × Record) (label : Label) : Decidable (Sends state label) :=
  inferInstanceAs (Decidable (_ = true))

/-- What a step does to the switch and to the intents on their way. -/
inductive SwitchStep (vpn : VpnSwitch) : Label → VpnSwitch → Prop where
  | sent {label : Label} {command : Command} {next : VpnSwitch}
      (sends : vpn.sends label = some command) (serves : vpn.serves label = none)
      (service : next.service = vpn.service) (intents : next.intents = vpn.intents ++ [command])
      (turned : next.switchState = true ↔ command = .START_VPN_SERVICE) :
      SwitchStep vpn label next
  | silent {label : Label} {next : VpnSwitch} (sends : vpn.sends label = none)
      (serves : vpn.serves label = none) (service : next.service = vpn.service)
      (intents : next.intents = vpn.intents)
      (turned : next.switchState = true ↔ vpn.switchState = true ∧
        ¬ (label = .permissionResult false ∨ label = .viewModelCreated)) :
      SwitchStep vpn label next
  | served {label : Label} {serviceLabel : Service.Label} {next : VpnSwitch}
      (sends : vpn.sends label = none) (serves : vpn.serves label = some serviceLabel)
      (taken : vpn.service.step serviceLabel = some next.service)
      (intents : vpn.intents = serviceLabel.delivers.toList ++ next.intents)
      (turned : next.switchState = vpn.switchState)
      (loud : ¬ (label = .permissionResult false ∨ label = .viewModelCreated)) :
      SwitchStep vpn label next

variable {vpn} {next : VpnSwitch} {label : Label}

theorem step_switch (taken : vpn.step label = some next) : SwitchStep vpn label next := by
  cases label with
  | recompose =>
      cases taken
      exact .silent rfl rfl rfl rfl (by simp)
  | onCheckedChange prepared =>
      simp only [step] at taken
      cases checked : vpn.checked with
      | true =>
          rw [checked, if_pos rfl] at taken
          cases taken
          exact .sent (by simp [sends, checked]) rfl rfl rfl (by simp [send])
      | false =>
          rw [checked, if_neg Bool.false_ne_true] at taken
          cases prepared with
          | true =>
              cases taken
              exact .sent (by simp [sends, checked]) rfl rfl rfl (by simp [send])
          | false =>
              cases taken
              exact .silent (by simp [sends, checked]) rfl rfl rfl (by simp)
  | permissionResult granted =>
      simp only [step] at taken
      split at taken
      · cases taken
      · cases granted <;> cases taken
        · exact .silent rfl rfl rfl rfl (by simp)
        · exact .sent rfl rfl rfl rfl (by simp [send])
  | viewModelCreated =>
      cases taken
      exact .silent rfl rfl rfl rfl (by simp)
  | onStartCommand =>
      simp only [step] at taken
      split at taken
      · cases taken
      · next command intents waiting =>
          obtain ⟨service, stepped, rfl⟩ := Option.map_eq_some_iff.mp taken
          exact .served rfl (by simp [serves, waiting]) stepped (by simp [waiting]; rfl) rfl
            (by simp)
  | service label =>
      simp only [step] at taken
      split at taken
      · cases taken
      · next other =>
          obtain ⟨service, stepped, rfl⟩ := Option.map_eq_some_iff.mp taken
          have none : label.delivers = none := by simpa using other
          exact .served rfl rfl stepped (by simp [none]) rfl (by simp)

structure Recorded (persisted : Finset String) (state : VpnSwitch × Record) : Prop where
  served : Transition.run Service.step (Service.created persisted) state.2.served =
    some state.1.service
  delivered : state.2.served.filterMap Service.Label.delivers ++ state.1.intents = state.2.sent
  turnedOn : state.1.switchState = true → state.2.sent.getLast? = some .START_VPN_SERVICE

theorem Recorded.step {persisted : Finset String} {record : Record}
    (recorded : Recorded persisted (vpn, record)) (taken : vpn.step label = some next) :
    Recorded persisted (next, note vpn label record) := by
  obtain ⟨served, delivered, turnedOn⟩ := recorded
  cases step_switch taken with
  | sent sends serves service intents turned =>
      constructor
      · simp only [note, serves, Option.toList_none, List.append_nil, service]
        exact served
      · simp only [note, serves, sends, Option.toList_none, List.append_nil, intents,
          Option.toList_some, ← List.append_assoc]
        rw [delivered]
      · intro on
        simp [note, sends, turned.mp on]
  | silent sends serves service intents turned =>
      constructor
      · simp only [note, serves, Option.toList_none, List.append_nil, service]
        exact served
      · simp only [note, serves, sends, Option.toList_none, List.append_nil, intents]
        exact delivered
      · intro on
        simp only [note, sends, Option.toList_none, List.append_nil]
        exact turnedOn (turned.mp on).1
  | @served serviceLabel _ sends serves stepped intents turned loud =>
      constructor
      · simp only [note, serves, Option.toList_some]
        exact Transition.run_append_singleton served stepped
      · simp only [note, serves, sends, Option.toList_some, Option.toList_none, List.append_nil,
          List.filterMap_append]
        rw [← delivered, intents]
        cases given : serviceLabel.delivers <;> simp [given]
      · intro on
        simp only [note, sends, Option.toList_none, List.append_nil]
        exact turnedOn (turned ▸ on)

/-- The switch is off although the last command has started the VPN. -/
def FalselyOff (state : VpnSwitch × Record) : Prop :=
  state.1.switchState = false ∧ state.2.sent.getLast? = some .START_VPN_SERVICE

theorem falselyOff_step {persisted : Finset String} {record : Record}
    (recorded : Recorded persisted (vpn, record)) (taken : vpn.step label = some next) :
    FalselyOff (next, note vpn label record) ↔ GoesOffSilently (vpn, record) label ∨
      FalselyOff (vpn, record) ∧ ¬ Sends (vpn, record) label := by
  have on := recorded.turnedOn
  cases step_switch taken with
  | sent sends serves service intents turned =>
      have loud : ¬ (label = .permissionResult false ∨ label = .viewModelCreated) := by
        rintro (rfl | rfl) <;> cases sends
      simp only [FalselyOff, note, sends, Option.toList_some, List.getLast?_append,
        List.getLast?_singleton, Option.some_or, Option.some.injEq, GoesOffSilently, loud, Sends,
        Option.isSome_some, not_true, and_false, or_false, iff_false, not_and]
      intro off started
      rw [turned.mpr started] at off
      cases off
  | silent sends serves service intents turned =>
      simp only [FalselyOff, note, sends, Option.toList_none, List.append_nil, GoesOffSilently, Sends,
        Option.isSome_none, Bool.false_eq_true, not_false_iff, and_true, ← Bool.not_eq_true, turned]
      grind
  | served sends serves stepped intents turned loud =>
      simp [FalselyOff, note, sends, GoesOffSilently, loud, Sends, turned]

end VpnSwitch

namespace Service

/-- Before the first command nothing runs, and no restart is under way. -/
theorem unstarted_of_run {persisted : Finset String} {labels : List Label} {service : Service}
    (ran : Transition.run step (created persisted) labels = some service)
    (none : lastCommand labels = none) :
    service.companion.isRunning = false ∧ service.launchedRestarts = 0 ∧
      service.delayedRestarts = 0 := by
  refine Transition.run_history (fun labels service => lastCommand labels = Option.none →
    service.companion.isRunning = false ∧ service.launchedRestarts = 0 ∧
      service.delayedRestarts = 0) ?_ (fun _ => ⟨rfl, rfl, rfl⟩) ran none
  intro labels service label next before taken none
  rw [lastCommand_concat, Option.or_eq_none_iff] at none
  obtain ⟨idle, launched, delayed⟩ := before none.2
  cases step_service taken with
  | started | stopped => cases none.1
  | systemDestroyed =>
      exact ⟨(Companion.onDestroy_stopped service.companion).1, launched, delayed⟩
  | restartLaunched checking running =>
      rw [idle] at running
      cases running
  | restartDestroyed pending => exact absurd launched pending
  | restartDropped pending => exact absurd launched pending
  | restartThrown pending => exact absurd delayed pending
  | restartResumed pending => exact absurd delayed pending
  | persisted | emitted | restartRefused | checked | collectorEnded | readLoopBroken
  | readLoopExited | jobCompleted => exact ⟨idle, launched, delayed⟩

/-- A service at rest is at work exactly if the last command has started it and nothing
has ever run `onDestroy` or broken the read loop. -/
theorem working_iff {persisted : Finset String} {labels : List Label} {service : Service}
    (ran : Transition.run step (created persisted) labels = some service)
    (quiescent : service.companion.Quiescent) :
    service.companion.Agrees .START_VPN_SERVICE ↔
      lastCommand labels = some .START_VPN_SERVICE ∧ Clean labels := by
  obtain ⟨idle, -, other⟩ | ⟨running, clean⟩ | ⟨⟨-, spoiled⟩, unclean⟩ := run_phase ran
  · rw [idle]
    exact iff_of_false (fun agrees => by cases agrees.1) fun last => other last.1
  · have works : service.companion.isRunning = true := by rw [running]; rfl
    refine iff_of_true (running ▸ ⟨rfl, rfl, rfl⟩) ⟨?_, clean⟩
    cases last : lastCommand labels with
    | none =>
        rw [(unstarted_of_run ran last).1] at works
        cases works
    | some command =>
        cases command with
        | START_VPN_SERVICE => rfl
        | STOP_VPN_SERVICE =>
            rw [(run_stopped ran last).1] at works
            cases works
  · have silent : service.companion.readLoops = 0 := by
      rcases spoiled with cancelled | ⟨-, none⟩
      · exact quiescent.2 cancelled
      · exact none
    refine iff_of_false (fun agrees => ?_) fun last => unclean last.2
    have single : service.companion.readLoops = 1 := agrees.2.2
    omega

end Service

namespace VpnSwitch

/-- The screen and the service at work, with the record of both. -/
def recorded : VpnSwitch × Record → Label → Option (VpnSwitch × Record) :=
  Transition.observed step note

def unrecorded (persisted : Finset String) : VpnSwitch × Record := (created persisted, ⟨[], []⟩)

/-- Since the last time the switch went off silently, a command has been sent. -/
def Audible (persisted : Finset String) (labels : List Label) : Prop :=
  Transition.Followed recorded GoesOffSilently Sends (unrecorded persisted) labels

variable {persisted : Finset String} {labels : List Label} {vpn : VpnSwitch} {record : Record}

theorem recorded_of_run
    (ran : Transition.run recorded (unrecorded persisted) labels = some (vpn, record)) :
    Recorded persisted (vpn, record) := by
  refine Transition.run_preserves (Recorded persisted) ?_ ⟨rfl, rfl, fun on => by cases on⟩ ran
  intro state label next known taken
  obtain ⟨before, record⟩ := state
  obtain ⟨after, further⟩ := next
  obtain ⟨stepped, rfl⟩ := Transition.observed_iff.mp taken
  exact known.step stepped

theorem not_falselyOff_iff
    (ran : Transition.run recorded (unrecorded persisted) labels = some (vpn, record)) :
    ¬ FalselyOff (vpn, record) ↔ Audible persisted labels := by
  refine Transition.not_flag_iff_followed (Recorded persisted) FalselyOff ?_ ?_
    ⟨rfl, rfl, fun on => by cases on⟩ (fun off => by cases off.2) ran
  · intro state label next known taken
    obtain ⟨before, record⟩ := state
    obtain ⟨after, further⟩ := next
    obtain ⟨stepped, rfl⟩ := Transition.observed_iff.mp taken
    exact known.step stepped
  · intro state label next known taken
    obtain ⟨before, record⟩ := state
    obtain ⟨after, further⟩ := next
    obtain ⟨stepped, rfl⟩ := Transition.observed_iff.mp taken
    exact falselyOff_step known stepped

/-- The switch is on exactly if the last command sent was START and the switch has not
gone off silently since. When all is delivered and the service is at rest, the VPN works
exactly if that command was START and nothing has ever stopped the scope or the loop, and
the switch tells the truth exactly if, after a START, both or neither has happened. -/
theorem switch_truthful_iff
    (ran : Transition.run recorded (unrecorded persisted) labels = some (vpn, record)) :
    (vpn.switchState = true ↔
      record.sent.getLast? = some .START_VPN_SERVICE ∧ Audible persisted labels) ∧
    (vpn.intents = [] → vpn.service.companion.Quiescent →
      (vpn.service.companion.Agrees .START_VPN_SERVICE ↔
        record.sent.getLast? = some .START_VPN_SERVICE ∧ Service.Clean record.served) ∧
      ((vpn.switchState = true ↔ vpn.service.companion.Agrees .START_VPN_SERVICE) ↔
        (record.sent.getLast? = some .START_VPN_SERVICE →
          (Audible persisted labels ↔ Service.Clean record.served)))) := by
  obtain ⟨served, delivered, turnedOn⟩ := recorded_of_run ran
  have switch : vpn.switchState = true ↔
      record.sent.getLast? = some .START_VPN_SERVICE ∧ Audible persisted labels := by
    rw [← not_falselyOff_iff ran, FalselyOff, ← Bool.not_eq_true]
    have on : vpn.switchState = true → record.sent.getLast? = some .START_VPN_SERVICE := turnedOn
    simp only [not_and]
    tauto
  refine ⟨switch, fun delivers quiescent => ?_⟩
  have last : Service.lastCommand record.served = record.sent.getLast? := by
    rw [← delivered, delivers, List.append_nil]
    rfl
  have works := Service.working_iff served quiescent
  rw [last] at works
  refine ⟨works, ?_⟩
  rw [switch, works]
  tauto

/-- The VPN is switched on, the activity is left and opened again, and the switch, which
is off by then, is turned on once more. -/
def turnedOnTwice : List Label :=
  [.onCheckedChange true, .recompose, .onStartCommand, .viewModelCreated, .onCheckedChange true,
    .onStartCommand]

theorem turnedOnTwice_truthful :
    ∃ vpn record, Transition.run recorded (unrecorded ∅) turnedOnTwice = some (vpn, record) ∧
      (vpn.switchState = true ↔ vpn.service.companion.Agrees .START_VPN_SERVICE) := by
  have seen : (Transition.run recorded (unrecorded ∅) turnedOnTwice).any (fun state =>
      decide (state.1.intents = []) && decide (state.1.service.companion = .running) &&
        decide (state.2.served =
          [.command .START_VPN_SERVICE, .command .START_VPN_SERVICE])) = true := by
    decide +kernel
  obtain ⟨⟨vpn, record⟩, ran, holds⟩ := (Option.any_eq_true _ _).mp seen
  simp only [Bool.and_eq_true, decide_eq_true_eq] at holds
  obtain ⟨⟨delivered, running⟩, served⟩ := holds
  have quiescent : vpn.service.companion.Quiescent := by
    rw [running]
    exact ⟨rfl, nofun⟩
  have truthful := ((switch_truthful_iff ran).2 delivered quiescent).2
  refine ⟨vpn, record, ran, truthful.mpr fun _ => ?_⟩
  rw [served]
  exact iff_of_true (by unfold Audible; decide +kernel) (by decide)

end VpnSwitch

end FirewallVpn
