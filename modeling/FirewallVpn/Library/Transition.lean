import Mathlib.Data.List.Induction

/-! Finite runs of labelled, deterministic transition functions. The label
carries whatever the environment decides, so quantifying over label lists
quantifies over every schedule and every outcome of an external call. -/

set_option autoImplicit false

namespace Transition

universe u v w

variable {State : Type u} {Label : Type v}

/-- Follow `labels` from a state; `none` as soon as one of them is not enabled. -/
def run (step : State → Label → Option State) : State → List Label → Option State
  | state, [] => some state
  | state, label :: labels => (step state label).bind fun next => run step next labels

/-- Some finite run leads from `initial` to `state`. -/
def Reachable (step : State → Label → Option State) (initial state : State) : Prop :=
  ∃ labels, run step initial labels = some state

/-- Every label of the run is taken in a state where `guard` admits it. -/
def Guarded (step : State → Label → Option State) (guard : State → Label → Prop) :
    State → List Label → Prop
  | _, [] => True
  | state, label :: labels =>
      guard state label ∧ ∀ next, step state label = some next → Guarded step guard next labels

/-- Every state the run passes through, from the first to the last, is one in
which `holds` is true. -/
def Always (step : State → Label → Option State) (holds : State → Prop) :
    State → List Label → Prop
  | state, [] => holds state
  | state, label :: labels =>
      holds state ∧ ∀ next, step state label = some next → Always step holds next labels

/-- Some label of the run is an `event` of the state it is taken in. -/
def Occurs (step : State → Label → Option State) (event : State → Label → Prop) :
    State → List Label → Prop
  | _, [] => False
  | state, label :: labels =>
      event state label ∨ ∃ next, step state label = some next ∧ Occurs step event next labels

/-- Every `event` of the run has a `response` later in the run. -/
def Followed (step : State → Label → Option State) (event response : State → Label → Prop) :
    State → List Label → Prop
  | _, [] => True
  | state, label :: labels => ∀ next, step state label = some next →
      (event state label → Occurs step response next labels) ∧
        Followed step event response next labels

/-- Before each `event` of the run there is one that is `earlier`. -/
def Preceded (step : State → Label → Option State) (event earlier : State → Label → Prop)
    (initial : State) (labels : List Label) : Prop :=
  ∀ before label state, before ++ [label] <+: labels → run step initial before = some state →
    event state label → Occurs step earlier initial before

instance decidableGuarded (step : State → Label → Option State) (guard : State → Label → Prop)
    [∀ state label, Decidable (guard state label)] :
    ∀ state labels, Decidable (Guarded step guard state labels)
  | _, [] => .isTrue trivial
  | state, label :: labels =>
      match taken : step state label with
      | none => decidable_of_iff (guard state label) (by simp [Guarded, taken])
      | some next =>
          have := decidableGuarded step guard next labels
          decidable_of_iff (guard state label ∧ Guarded step guard next labels)
            (by simp [Guarded, taken])

instance decidableOccurs (step : State → Label → Option State) (event : State → Label → Prop)
    [∀ state label, Decidable (event state label)] :
    ∀ state labels, Decidable (Occurs step event state labels)
  | _, [] => .isFalse id
  | state, label :: labels =>
      match taken : step state label with
      | none => decidable_of_iff (event state label) (by simp [Occurs, taken])
      | some next =>
          have := decidableOccurs step event next labels
          decidable_of_iff (event state label ∨ Occurs step event next labels)
            (by simp [Occurs, taken])

instance decidableFollowed (step : State → Label → Option State)
    (event response : State → Label → Prop) [∀ state label, Decidable (event state label)]
    [∀ state label, Decidable (response state label)] :
    ∀ state labels, Decidable (Followed step event response state labels)
  | _, [] => .isTrue trivial
  | state, label :: labels =>
      match taken : step state label with
      | none => .isTrue (by simp [Followed, taken])
      | some next =>
          have := decidableFollowed step event response next labels
          decidable_of_iff ((event state label → Occurs step response next labels) ∧
            Followed step event response next labels) (by simp [Followed, taken])

variable {step : State → Label → Option State} {guard event response : State → Label → Prop}

@[simp] theorem run_nil (state : State) : run step state [] = some state := rfl

theorem run_cons (state : State) (label : Label) (labels : List Label) :
    run step state (label :: labels) = (step state label).bind fun next => run step next labels := rfl

theorem run_cons_iff {state final : State} {label : Label} {labels : List Label} :
    run step state (label :: labels) = some final ↔
      ∃ next, step state label = some next ∧ run step next labels = some final :=
  Option.bind_eq_some_iff

theorem run_append_iff {state final : State} {first second : List Label} :
    run step state (first ++ second) = some final ↔
      ∃ middle, run step state first = some middle ∧ run step middle second = some final := by
  induction first generalizing state with
  | nil => simp
  | cons label first ih =>
      simp only [List.cons_append, run_cons_iff, ih]
      constructor
      · rintro ⟨next, taken, middle, before, after⟩
        exact ⟨middle, ⟨next, taken, before⟩, after⟩
      · rintro ⟨middle, ⟨next, taken, before⟩, after⟩
        exact ⟨next, taken, middle, before, after⟩

theorem run_append_singleton {initial state next : State} {labels : List Label} {label : Label}
    (reached : run step initial labels = some state) (taken : step state label = some next) :
    run step initial (labels ++ [label]) = some next :=
  run_append_iff.mpr ⟨state, reached, run_cons_iff.mpr ⟨next, taken, rfl⟩⟩

/-- Every label of a run that comes to its end is enabled where it is taken. -/
theorem step_of_prefix {initial state final : State} {labels before : List Label} {label : Label}
    (ran : run step initial labels = some final) (within : before ++ [label] <+: labels)
    (reached : run step initial before = some state) : ∃ next, step state label = some next := by
  obtain ⟨rest, rfl⟩ := within
  rw [List.append_assoc] at ran
  obtain ⟨middle, toMiddle, fromMiddle⟩ := run_append_iff.mp ran
  rw [reached, Option.some.injEq] at toMiddle
  subst toMiddle
  obtain ⟨next, taken, -⟩ := run_cons_iff.mp fromMiddle
  exact ⟨next, taken⟩

theorem Reachable.refl (state : State) : Reachable step state state := ⟨[], rfl⟩

theorem Reachable.trans {initial middle final : State}
    (before : Reachable step initial middle) (after : Reachable step middle final) :
    Reachable step initial final := by
  obtain ⟨first, ranFirst⟩ := before
  obtain ⟨second, ranSecond⟩ := after
  exact ⟨first ++ second, run_append_iff.mpr ⟨middle, ranFirst, ranSecond⟩⟩

theorem Reachable.tail {initial state next : State} {label : Label}
    (before : Reachable step initial state) (taken : step state label = some next) :
    Reachable step initial next :=
  before.trans ⟨[label], run_cons_iff.mpr ⟨next, taken, rfl⟩⟩

theorem Guarded.preserves (invariant : State → Prop)
    (kept : ∀ state label next, invariant state → guard state label →
      step state label = some next → invariant next)
    {initial final : State} {labels : List Label}
    (guarded : Guarded step guard initial labels) (start : invariant initial)
    (ran : run step initial labels = some final) : invariant final := by
  induction labels generalizing initial with
  | nil =>
      cases ran
      exact start
  | cons label labels ih =>
      obtain ⟨next, taken, rest⟩ := run_cons_iff.mp ran
      exact ih (guarded.2 next taken) (kept initial label next start guarded.1 taken) rest

theorem guarded_true (initial : State) (labels : List Label) :
    Guarded step (fun _ _ => True) initial labels := by
  induction labels generalizing initial with
  | nil => exact True.intro
  | cons label labels ih => exact ⟨True.intro, fun next _ => ih next⟩

theorem guarded_of_labels {admitted : Label → Prop} (initial : State) {labels : List Label}
    (all : ∀ label ∈ labels, admitted label) :
    Guarded step (fun _ label => admitted label) initial labels := by
  induction labels generalizing initial with
  | nil => exact True.intro
  | cons label labels ih =>
      obtain ⟨first, rest⟩ := List.forall_mem_cons.mp all
      exact ⟨first, fun next _ => ih next rest⟩

theorem guarded_iff_forall {admitted : Label → Prop} {initial final : State} {labels : List Label}
    (ran : run step initial labels = some final) :
    Guarded step (fun _ label => admitted label) initial labels ↔
      ∀ label ∈ labels, admitted label := by
  refine ⟨fun guarded => ?_, guarded_of_labels initial⟩
  induction labels generalizing initial with
  | nil => exact nofun
  | cons label labels ih =>
      obtain ⟨next, taken, rest⟩ := run_cons_iff.mp ran
      exact List.forall_mem_cons.mpr ⟨guarded.1, ih rest (guarded.2 next taken)⟩

/-- A guard may be replaced by one that follows from it and an invariant. -/
theorem Guarded.mono_invariant (invariant : State → Prop) {weaker : State → Label → Prop}
    (kept : ∀ state label next, invariant state → guard state label →
      step state label = some next → invariant next)
    (implies : ∀ state label, invariant state → guard state label → weaker state label)
    {initial : State} {labels : List Label}
    (guarded : Guarded step guard initial labels) (start : invariant initial) :
    Guarded step weaker initial labels := by
  induction labels generalizing initial with
  | nil => exact True.intro
  | cons label labels ih =>
      refine ⟨implies initial label start guarded.1, fun next taken => ?_⟩
      exact ih (guarded.2 next taken) (kept initial label next start guarded.1 taken)

/-- Where the guard admits exactly the steps that keep a property, guarded runs are
those in which it always holds. -/
theorem always_iff_guarded {holds : State → Prop} (invariant : State → Prop)
    (kept : ∀ state label next, invariant state → step state label = some next → invariant next)
    (exact : ∀ state label next, invariant state → holds state → step state label = some next →
      (holds next ↔ guard state label))
    {initial final : State} {labels : List Label} (start : invariant initial)
    (holdsAtStart : holds initial) (ran : run step initial labels = some final) :
    Always step holds initial labels ↔ Guarded step guard initial labels := by
  induction labels generalizing initial with
  | nil => exact iff_of_true holdsAtStart True.intro
  | cons label labels ih =>
      obtain ⟨next, taken, rest⟩ := run_cons_iff.mp ran
      have step := exact initial label next start holdsAtStart taken
      simp only [Always, Guarded, taken, Option.some.injEq, forall_eq', holdsAtStart, true_and]
      constructor
      · intro always
        have holdsNext : holds next := by
          cases labels with
          | nil => exact always
          | cons => exact always.1
        exact ⟨step.mp holdsNext,
          (ih (kept initial label next start taken) holdsNext rest).mp always⟩
      · rintro ⟨admitted, guarded⟩
        exact (ih (kept initial label next start taken) (step.mpr admitted) rest).mpr guarded

theorem Always.last {holds : State → Prop} {initial final : State} {labels : List Label}
    (always : Always step holds initial labels) (ran : run step initial labels = some final) :
    holds final := by
  induction labels generalizing initial with
  | nil =>
      cases ran
      exact always
  | cons label labels ih =>
      obtain ⟨next, taken, rest⟩ := run_cons_iff.mp ran
      exact ih (always.2 next taken) rest

/-- A flag that events set and nothing resets records that an event occurred. -/
theorem Guarded.latch (flag : State → Prop)
    (latched : ∀ state label next, guard state label → step state label = some next →
      (flag next ↔ flag state ∨ event state label))
    {initial final : State} {labels : List Label}
    (guarded : Guarded step guard initial labels) (ran : run step initial labels = some final) :
    flag final ↔ flag initial ∨ Occurs step event initial labels := by
  induction labels generalizing initial with
  | nil =>
      cases ran
      simp [Occurs]
  | cons label labels ih =>
      obtain ⟨next, taken, rest⟩ := run_cons_iff.mp ran
      rw [ih (guarded.2 next taken) rest, latched initial label next guarded.1 taken]
      simp [Occurs, taken, or_assoc]

/-- A run that leaves a guard somewhere meets its negation as an event. -/
theorem guarded_of_not_occurs {initial : State} {labels : List Label}
    (never : ¬ Occurs step (fun state label => ¬ guard state label) initial labels) :
    Guarded step guard initial labels := by
  induction labels generalizing initial with
  | nil => exact True.intro
  | cons label labels ih =>
      simp only [Occurs, not_or, not_not, not_exists, not_and] at never
      exact ⟨never.1, fun next taken => ih (never.2 next taken)⟩

/-- A flag that an event sets and that nothing resets is set at the end. -/
theorem Occurs.sets (flag : State → Prop)
    (sets : ∀ state label next, event state label → guard state label →
      step state label = some next → flag next)
    (kept : ∀ state label next, flag state → guard state label →
      step state label = some next → flag next)
    {initial final : State} {labels : List Label} (occurs : Occurs step event initial labels)
    (guarded : Guarded step guard initial labels) (ran : run step initial labels = some final) :
    flag final := by
  induction labels generalizing initial with
  | nil => exact occurs.elim
  | cons label labels ih =>
      obtain ⟨next, taken, rest⟩ := run_cons_iff.mp ran
      rcases occurs with now | ⟨next', taken', later⟩
      · exact (guarded.2 next taken).preserves flag kept (sets initial label next now guarded.1 taken) rest
      · rw [taken, Option.some.injEq] at taken'
        subst taken'
        exact ih later (guarded.2 next taken) rest

theorem Occurs.mono {weaker : State → Label → Prop}
    (implies : ∀ state label, event state label → weaker state label) {initial : State}
    {labels : List Label} (occurs : Occurs step event initial labels) :
    Occurs step weaker initial labels := by
  induction labels generalizing initial with
  | nil => exact occurs.elim
  | cons label labels ih =>
      rcases occurs with now | ⟨next, taken, later⟩
      · exact .inl (implies initial label now)
      · exact .inr ⟨next, taken, ih later⟩

theorem Occurs.exists_mem {initial : State} {labels : List Label}
    (occurs : Occurs step event initial labels) : ∃ label ∈ labels, ∃ state, event state label := by
  induction labels generalizing initial with
  | nil => exact occurs.elim
  | cons label labels ih =>
      rcases occurs with now | ⟨next, taken, later⟩
      · exact ⟨label, List.mem_cons_self, initial, now⟩
      · obtain ⟨other, member, happens⟩ := ih later
        exact ⟨other, List.mem_cons_of_mem label member, happens⟩

theorem occurs_append_iff {initial state : State} {first second : List Label}
    (ran : run step initial first = some state) :
    Occurs step event initial (first ++ second) ↔
      Occurs step event initial first ∨ Occurs step event state second := by
  induction first generalizing initial with
  | nil =>
      cases ran
      simp [Occurs]
  | cons label first ih =>
      obtain ⟨next, taken, rest⟩ := run_cons_iff.mp ran
      simp [Occurs, taken, ih rest, or_assoc]

theorem occurs_append_singleton {initial state : State} {labels : List Label} {label : Label}
    (ran : run step initial labels = some state) :
    Occurs step event initial (labels ++ [label]) ↔
      Occurs step event initial labels ∨ event state label := by
  rw [occurs_append_iff ran]
  simp [Occurs]

theorem followed_append_singleton {initial state : State} {labels : List Label} {label : Label}
    (ran : run step initial labels = some state) (taken : (step state label).isSome) :
    Followed step event response initial (labels ++ [label]) ↔
      ¬ event state label ∧ (Followed step event response initial labels ∨ response state label) := by
  induction labels generalizing initial with
  | nil =>
      cases ran
      obtain ⟨next, taken⟩ := Option.isSome_iff_exists.mp taken
      simp [Followed, Occurs, taken]
  | cons first labels ih =>
      obtain ⟨next, stepped, rest⟩ := run_cons_iff.mp ran
      simp only [List.cons_append, Followed, stepped, Option.some.injEq, forall_eq', ih rest,
        occurs_append_singleton rest]
      tauto

theorem run_preserves (invariant : State → Prop)
    (kept : ∀ state label next, invariant state → step state label = some next → invariant next)
    {initial final : State} {labels : List Label} (start : invariant initial)
    (ran : run step initial labels = some final) : invariant final :=
  (guarded_true initial labels).preserves invariant
    (fun state label next holds _ taken => kept state label next holds taken) start ran

theorem Reachable.invariant (invariant : State → Prop)
    (kept : ∀ state label next, invariant state → step state label = some next → invariant next)
    {initial state : State} (reachable : Reachable step initial state)
    (start : invariant initial) : invariant state := by
  obtain ⟨labels, ran⟩ := reachable
  exact run_preserves invariant kept start ran

/-- What no step can bring about held before the run if it holds after it. -/
theorem run_reflects (holds : State → Prop)
    (kept : ∀ state label next, step state label = some next → holds next → holds state)
    {initial final : State} {labels : List Label} (ran : run step initial labels = some final)
    (atEnd : holds final) : holds initial := by
  induction labels generalizing initial with
  | nil =>
      cases ran
      exact atEnd
  | cons label labels ih =>
      obtain ⟨next, taken, rest⟩ := run_cons_iff.mp ran
      exact kept initial label next taken (ih rest)

/-- Induction over a run from its last step back, for a property of the run's
labels and of the state they lead to. -/
theorem run_induction {initial : State} (holds : List Label → State → Prop)
    (kept : ∀ labels state label next, run step initial labels = some state → holds labels state →
      step state label = some next → holds (labels ++ [label]) next)
    {final : State} {labels : List Label} (start : holds [] initial)
    (ran : run step initial labels = some final) : holds labels final := by
  induction labels using List.reverseRecOn generalizing final with
  | nil =>
      cases ran
      exact start
  | append_singleton labels label ih =>
      obtain ⟨before, ranBefore, rest⟩ := run_append_iff.mp ran
      obtain ⟨next, taken, ended⟩ := run_cons_iff.mp rest
      cases ended
      exact kept labels before label final ranBefore (ih ranBefore) taken

/-- Induction over a run for a property that also looks back at its labels. -/
theorem run_history (holds : List Label → State → Prop)
    (kept : ∀ labels state label next, holds labels state → step state label = some next →
      holds (labels ++ [label]) next)
    {initial final : State} {labels : List Label} (start : holds [] initial)
    (ran : run step initial labels = some final) : holds labels final :=
  run_induction holds
    (fun labels state label next _ before taken => kept labels state label next before taken) start ran

/-- A flag that events set and responses reset is down at the end exactly if each
event was responded to. -/
theorem not_flag_iff_followed (invariant : State → Prop) (flag : State → Prop)
    (kept : ∀ state label next, invariant state → step state label = some next → invariant next)
    (moves : ∀ state label next, invariant state → step state label = some next →
      (flag next ↔ event state label ∨ flag state ∧ ¬ response state label))
    {initial final : State} {labels : List Label} (start : invariant initial)
    (down : ¬ flag initial) (ran : run step initial labels = some final) :
    ¬ flag final ↔ Followed step event response initial labels := by
  refine (run_induction (fun labels state => invariant state ∧
    (¬ flag state ↔ Followed step event response initial labels)) ?_ ⟨start, ?_⟩ ran).2
  · rintro labels state label next reached ⟨holds, before⟩ taken
    refine ⟨kept state label next holds taken, ?_⟩
    rw [followed_append_singleton reached (Option.isSome_of_eq_some taken), ← before,
      moves state label next holds taken]
    tauto
  · exact iff_of_true down True.intro

theorem Guarded.last {initial state : State} {labels : List Label} {label : Label}
    (guarded : Guarded step guard initial (labels ++ [label]))
    (ran : run step initial labels = some state) : guard state label := by
  induction labels generalizing initial with
  | nil =>
      cases ran
      exact guarded.1
  | cons first labels ih =>
      obtain ⟨next, taken, rest⟩ := run_cons_iff.mp ran
      exact ih (guarded.2 next taken) rest

theorem guarded_append_singleton {initial state : State} {labels : List Label} {label : Label}
    (ran : run step initial labels = some state) :
    Guarded step guard initial (labels ++ [label]) ↔
      Guarded step guard initial labels ∧ guard state label := by
  induction labels generalizing initial with
  | nil =>
      cases ran
      simp [Guarded]
  | cons first labels ih =>
      obtain ⟨next, taken, rest⟩ := run_cons_iff.mp ran
      simp [Guarded, taken, ih rest, and_assoc]

/-- A guard admits a run if it admits every step of it. -/
theorem guarded_iff_forall_step {initial : State} {labels : List Label} :
    Guarded step guard initial labels ↔ ∀ before label state, before ++ [label] <+: labels →
      run step initial before = some state → guard state label := by
  induction labels generalizing initial with
  | nil => simp [Guarded]
  | cons first labels ih =>
      simp only [Guarded, ih]
      constructor
      · intro ⟨now, later⟩ before label state within ran
        cases before with
        | nil =>
            cases ran
            obtain ⟨rfl, -⟩ := List.cons_prefix_cons.mp within
            exact now
        | cons other before =>
            obtain ⟨rfl, afterFirst⟩ := List.cons_prefix_cons.mp within
            obtain ⟨next, taken, rest⟩ := run_cons_iff.mp ran
            exact later next taken before label state afterFirst rest
      · intro all
        constructor
        · exact all [] first initial (List.cons_prefix_cons.mpr ⟨rfl, List.nil_prefix⟩) rfl
        · intro next taken before label state within rest
          exact all (first :: before) label state (List.cons_prefix_cons.mpr ⟨rfl, within⟩)
            (run_cons_iff.mpr ⟨next, taken, rest⟩)

/-- Induction over a guarded run, for a property of its labels and of the state
they lead to. -/
theorem Guarded.induction {initial : State} (holds : List Label → State → Prop)
    (kept : ∀ labels state label next, run step initial labels = some state → guard state label →
      holds labels state → step state label = some next → holds (labels ++ [label]) next)
    {final : State} {labels : List Label} (guarded : Guarded step guard initial labels)
    (start : holds [] initial) (ran : run step initial labels = some final) : holds labels final := by
  refine run_induction (fun labels state => Guarded step guard initial labels → holds labels state)
    ?_ (fun _ => start) ran guarded
  intro labels state label next reached before taken guarded
  obtain ⟨earlier, now⟩ := (guarded_append_singleton reached).mp guarded
  exact kept labels state label next reached now (before earlier) taken

/-- An event that occurs at all is preceded by what always precedes it. -/
theorem Preceded.occurs {earlier : State → Label → Prop} {initial final : State} {labels : List Label}
    (preceded : Preceded step event earlier initial labels)
    (ran : run step initial labels = some final) (occurs : Occurs step event initial labels) :
    Occurs step earlier initial labels := by
  refine run_induction (fun first _ => first <+: labels → Occurs step event initial first →
    Occurs step earlier initial first) ?_ (fun _ occurs => occurs.elim) ran (List.prefix_refl labels)
    occurs
  intro first state label next reached known taken within occurs
  rw [occurs_append_singleton reached] at occurs ⊢
  rcases occurs with before | now
  · exact .inl (known ((List.prefix_append first [label]).trans within) before)
  · exact .inl (preceded first label state within reached now)

/-! An observer notes something down at every step and interferes with none. -/

section Observed

variable {Note : Type w} {observe : State → Label → Note → Note}

def observed (step : State → Label → Option State) (observe : State → Label → Note → Note)
    (state : State × Note) (label : Label) : Option (State × Note) :=
  (step state.1 label).map fun next => (next, observe state.1 label state.2)

theorem observed_iff {state next : State × Note} {label : Label} :
    observed step observe state label = some next ↔
      step state.1 label = some next.1 ∧ observe state.1 label state.2 = next.2 := by
  obtain ⟨reached, note⟩ := next
  simp only [observed, Option.map_eq_some_iff, Prod.mk.injEq]
  constructor
  · rintro ⟨_, taken, rfl, noted⟩
    exact ⟨taken, noted⟩
  · rintro ⟨taken, noted⟩
    exact ⟨reached, taken, rfl, noted⟩

/-- Without the notes, the runs of the observed system are those of the system. -/
theorem run_observed (state : State) (note : Note) (labels : List Label) :
    (run (observed step observe) (state, note) labels).map Prod.fst = run step state labels := by
  induction labels generalizing state note with
  | nil => rfl
  | cons label labels ih =>
      cases taken : step state label with
      | none => simp [run_cons, observed, taken]
      | some next => simp [run_cons, observed, taken, ih]

end Observed

/-- A component's run inside a larger system: if every step of the system is a
finite run of the component, reachability projects. -/
theorem Reachable.project {Part : Type u} {PartLabel : Type v}
    {partStep : Part → PartLabel → Option Part} (part : State → Part)
    (simulated : ∀ state label next, step state label = some next →
      Reachable partStep (part state) (part next))
    {initial state : State} (reachable : Reachable step initial state) :
    Reachable partStep (part initial) (part state) :=
  reachable.invariant (fun state => Reachable partStep (part initial) (part state))
    (fun state label next before taken => before.trans (simulated state label next taken))
    (.refl _)

end Transition
