import FirewallVpn.Library.Transition

/-! Live queries. Any number of flows watch one source, each with a query of its own;
a change makes all of them due to ask again, and what they are answered is delivered
later, flow by flow, into one place. While changes go on that place may hold anything
that was true once. When nothing is left to do, it holds what the flow that delivered
last would be answered now. -/

set_option autoImplicit false

namespace LiveQuery

universe u v w

/-- `results` are the answers on their way to the place where they are shown. -/
structure Flow (Query : Type u) (Result : Type v) where
  query : Query
  running : Bool
  /-- A question is due: the first one, or one for a change since the last. -/
  invalidated : Bool
  results : List Result

structure View (Source : Type w) (Query : Type u) (Result : Type v) where
  source : Source
  flows : List (Flow Query Result)
  shown : Result
  /-- The flow that delivered last. -/
  shownBy : Option Nat

inductive Label (Change : Type w) (Query : Type u) where
  | load (query : Query)
  | change (change : Change)
  | ask (index : Nat)
  /-- The flow ends without an answer. -/
  | fail (index : Nat)
  | deliver (index : Nat)

variable {Source Change : Type w} {Query : Type u} {Result : Type v}

def changes (labels : List (Label Change Query)) : List Change :=
  labels.filterMap fun
    | .change change => some change
    | .load _ | .ask _ | .fail _ | .deliver _ => none

/-- A source with its changes, which of them invalidate the flows, and its answers. -/
structure Queried (Source Change : Type w) (Query : Type u) (Result : Type v) where
  advance : Source → Change → Option Source
  invalidates : Source → Change → Bool
  answer : Query → Source → Result
  /-- A change that invalidates no flow changes no answer. -/
  silent : ∀ {source change next}, advance source change = some next →
    invalidates source change = false → ∀ query, answer query next = answer query source

variable (queried : Queried Source Change Query Result)

namespace View

def set (view : View Source Query Result) (index : Nat) (flow : Flow Query Result) :
    View Source Query Result :=
  { view with flows := view.flows.set index flow }

def step (view : View Source Query Result) :
    Label Change Query → Option (View Source Query Result)
  | .load query =>
      some { view with
        flows := view.flows ++ [{ query, running := true, invalidated := true, results := [] }] }
  | .change change =>
      (queried.advance view.source change).map fun source => { view with
        source
        flows :=
          if queried.invalidates view.source change then
            view.flows.map fun flow => { flow with invalidated := true }
          else view.flows }
  | .ask index =>
      match view.flows[index]? with
      | none => none
      | some flow =>
          if flow.running && flow.invalidated then
            some (view.set index { flow with
              invalidated := false
              results := flow.results ++ [queried.answer flow.query view.source] })
          else none
  | .fail index =>
      match view.flows[index]? with
      | none => none
      | some flow =>
          if flow.running && flow.invalidated then
            some (view.set index { flow with running := false })
          else none
  | .deliver index =>
      match view.flows[index]? with
      | none => none
      | some flow =>
          match flow.results with
          | [] => none
          | result :: results =>
              some { view.set index { flow with results } with
                shown := result
                shownBy := some index }

/-- A flow that is up to date has its answer on the way, or has delivered it. -/
structure Current (view : View Source Query Result) : Prop where
  onTheWay : ∀ flow ∈ view.flows, flow.running → flow.invalidated = false →
    ∀ result ∈ flow.results.getLast?, result = queried.answer flow.query view.source
  shown : ∀ index ∈ view.shownBy, ∀ flow ∈ view.flows[index]?, flow.running →
    flow.invalidated = false → flow.results = [] → view.shown = queried.answer flow.query view.source

def AtRest (view : View Source Query Result) : Prop :=
  ∀ flow ∈ view.flows, (flow.running → flow.invalidated = false) ∧ flow.results = []

instance (view : View Source Query Result) [DecidableEq Result] : Decidable view.AtRest :=
  inferInstanceAs (Decidable (∀ flow ∈ view.flows, _))

variable {queried} {view next : View Source Query Result}

/-- What is shown stays current if one flow goes on as another of the same kind. -/
theorem Current.set {index : Nat} {flow after : Flow Query Result} (current : Current queried view)
    (located : view.flows[index]? = some flow)
    (onTheWay : after.running → after.invalidated = false →
      ∀ result ∈ after.results.getLast?, result = queried.answer after.query view.source)
    (busy : after.running → after.invalidated = false → after.results ≠ []) :
    Current queried (view.set index after) := by
  have within : index < view.flows.length := (List.getElem?_eq_some_iff.mp located).1
  constructor
  · intro other member running settled
    rcases List.mem_or_eq_of_mem_set member with old | rfl
    · exact current.onTheWay other old running settled
    · exact onTheWay running settled
  · intro other last moved found running settled empty
    by_cases same : other = index
    · subst same
      rw [View.set, List.getElem?_set_self within, Option.mem_some_iff] at found
      subst found
      exact absurd empty (busy running settled)
    · rw [View.set, List.getElem?_set_ne (Ne.symm same)] at found
      exact current.shown other last moved found running settled empty

theorem Current.step {label : Label Change Query} (current : Current queried view)
    (taken : View.step queried view label = some next) : Current queried next := by
  cases label with
  | load query =>
      cases taken
      constructor
      · intro flow member running settled
        rcases List.mem_append.mp member with old | new
        · exact current.onTheWay flow old running settled
        · rw [List.mem_singleton.mp new] at settled
          cases settled
      · intro index last flow found running settled empty
        rw [List.getElem?_append] at found
        split at found
        · exact current.shown index last flow found running settled empty
        · have added := List.mem_singleton.mp (List.mem_of_getElem? found)
          rw [added] at settled
          cases settled
  | change change =>
      obtain ⟨source, advanced, rfl⟩ := Option.map_eq_some_iff.mp taken
      cases invalid : queried.invalidates view.source change with
      | true =>
          have due : ∀ flow ∈ view.flows.map fun flow => { flow with invalidated := true },
              flow.invalidated ≠ false := by
            intro flow member settled
            obtain ⟨before, -, rfl⟩ := List.mem_map.mp member
            cases settled
          simp only [if_true]
          exact ⟨fun flow member _ settled => absurd settled (due flow member),
            fun index _ flow found _ settled =>
              absurd settled (due flow (List.mem_of_getElem? found))⟩
      | false =>
          have same := queried.silent advanced invalid
          simp only [Bool.false_eq_true, if_false]
          constructor
          · intro flow member running settled result last
            rw [same]
            exact current.onTheWay flow member running settled result last
          · intro index last flow found running settled empty
            rw [same]
            exact current.shown index last flow found running settled empty
  | ask index =>
      simp only [View.step] at taken
      split at taken
      · cases taken
      · next flow located =>
          split at taken <;> cases taken
          refine current.set located (fun _ _ result last => ?_) fun _ _ => by simp
          simpa using last.symm
  | fail index =>
      simp only [View.step] at taken
      split at taken
      · cases taken
      · next flow located =>
          split at taken <;> cases taken
          exact current.set located (fun running => by cases running) fun running => by cases running
  | deliver index =>
      simp only [View.step] at taken
      split at taken
      · cases taken
      · next flow located =>
          split at taken
          · cases taken
          · next result results onTheWay =>
              cases taken
              have member := List.mem_of_getElem? located
              have within : index < view.flows.length := (List.getElem?_eq_some_iff.mp located).1
              constructor
              · intro other inList running settled last found
                rcases List.mem_or_eq_of_mem_set inList with old | rfl
                · exact current.onTheWay other old running settled last found
                · refine current.onTheWay flow member running settled last ?_
                  rw [onTheWay, List.getLast?_cons]
                  rw [Option.mem_def] at found
                  simp only at found
                  simp [found]
              · intro other last moved found running settled empty
                cases last
                rw [View.set, List.getElem?_set_self within, Option.mem_some_iff] at found
                subst found
                have alone : result ∈ flow.results.getLast? := by
                  rw [onTheWay, show results = [] from empty]
                  rfl
                exact current.onTheWay flow member running settled result alone

/-- Without the flows, a run of the view is one of the source. -/
theorem run_changes {labels : List (Label Change Query)}
    (ran : Transition.run (View.step queried) view labels = some next) :
    Transition.run queried.advance view.source (changes labels) = some next.source := by
  refine Transition.run_history (fun labels (now : View Source Query Result) =>
    Transition.run queried.advance view.source (changes labels) = some now.source) ?_ rfl ran
  intro labels now label after before taken
  have more : changes (labels ++ [label]) = changes labels ++ changes [label] :=
    List.filterMap_append
  rw [more, Transition.run_append_iff]
  refine ⟨now.source, before, ?_⟩
  cases label with
  | load query =>
      cases taken
      rfl
  | change change =>
      obtain ⟨source, advanced, rfl⟩ := Option.map_eq_some_iff.mp taken
      exact Transition.run_cons_iff.mpr ⟨source, advanced, rfl⟩
  | ask index | fail index =>
      simp only [View.step] at taken
      split at taken
      · cases taken
      · split at taken <;> cases taken
        rfl
  | deliver index =>
      simp only [View.step] at taken
      split at taken
      · cases taken
      · split at taken <;> cases taken
        rfl

def idle (source : Source) (shown : Result) : View Source Query Result where
  source := source
  flows := []
  shown := shown
  shownBy := none

theorem current_of_run {source : Source} {shown : Result} {labels : List (Label Change Query)}
    (ran : Transition.run (View.step queried) (idle source shown) labels = some view) :
    Current queried view :=
  Transition.run_preserves (Current queried) (fun _ _ _ current taken => current.step taken)
    ⟨List.forall_mem_nil _, fun _ last => by cases last⟩ ran

/-- At rest, the answer of the flow that delivered last is shown, if it still runs. -/
theorem Current.answers {index : Nat} {flow : Flow Query Result} (current : Current queried view)
    (rest : view.AtRest) (last : view.shownBy = some index) (located : view.flows[index]? = some flow)
    (running : flow.running) : view.shown = queried.answer flow.query view.source := by
  obtain ⟨settled, empty⟩ := rest flow (List.mem_of_getElem? located)
  exact current.shown index last flow located running (settled running) empty

end View

end LiveQuery
