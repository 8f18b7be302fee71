import FirewallVpn.Library.LiveQuery
import FirewallVpn.Library.Potential

/-! One query shared by many collectors. A single flow asks the source and assigns what
it is answered to a state that outlives it; the flow is there while somebody collects the
state, and a while longer. Collectors come and go, and each shows what it has collected
last. Left to itself all this comes to rest, and then every collector shows what the
source would answer now. -/

set_option autoImplicit false

namespace SharedQuery

open LiveQuery Weights

universe u v w x

/-- `invalidated`: a question is due, the first one or one for a change since the last. -/
structure Upstream (Result : Type v) where
  invalidated : Bool
  pending : Option Result
  deriving DecidableEq

/-- `place` is where the collector shows what it has collected. -/
structure Collector (Place : Type x) (Result : Type v) where
  place : Place
  collecting : Bool
  shown : Result
  deriving DecidableEq

structure Shared (Source : Type w) (Place : Type x) (Result : Type v) where
  source : Source
  upstream : Option (Upstream Result)
  value : Result
  collectors : List (Collector Place Result)

inductive Label (Change : Type w) (Place : Type x) where
  | change (change : Change)
  /-- A collector comes up, with the value of the moment. -/
  | compose (place : Place)
  | resume (index : Nat)
  | pause (index : Nat)
  | share
  /-- Nobody has collected for a while. -/
  | expire
  | ask
  | assign
  | collect (index : Nat)

variable {Source Change : Type w} {Place : Type x} {Query : Type u} {Result : Type v}

/-- The steps that are taken without the source and without whoever looks at the screens. -/
def Label.own : Label Change Place → Bool
  | .share | .expire | .ask | .assign | .collect _ => true
  | .change _ | .compose _ | .resume _ | .pause _ => false

def changes (labels : List (Label Change Place)) : List Change :=
  labels.filterMap fun
    | .change change => some change
    | .compose _ | .resume _ | .pause _ | .share | .expire | .ask | .assign | .collect _ => none

namespace Shared

def created (source : Source) (value : Result) : Shared Source Place Result where
  source := source
  upstream := none
  value := value
  collectors := []

def active (shared : Shared Source Place Result) : Bool := shared.collectors.any Collector.collecting

def setCollecting (shared : Shared Source Place Result) (index : Nat) (collecting : Bool) :
    Option (Shared Source Place Result) :=
  shared.collectors[index]?.map fun collector =>
    { shared with collectors := shared.collectors.set index { collector with collecting } }

variable [DecidableEq Result] (queried : Queried Source Change Query Result) (query : Query)

def step (shared : Shared Source Place Result) : Label Change Place → Option (Shared Source Place Result)
  | .change change =>
      (queried.advance shared.source change).map fun source => { shared with
        source
        upstream :=
          if queried.invalidates shared.source change then
            shared.upstream.map fun upstream => { upstream with invalidated := true }
          else shared.upstream }
  | .compose place =>
      some { shared with
        collectors := shared.collectors ++ [{ place, collecting := false, shown := shared.value }] }
  | .resume index => shared.setCollecting index true
  | .pause index => shared.setCollecting index false
  | .share =>
      if shared.upstream = none ∧ shared.active then
        some { shared with upstream := some { invalidated := true, pending := none } }
      else none
  | .expire =>
      if shared.upstream ≠ none ∧ !shared.active then some { shared with upstream := none } else none
  | .ask =>
      match shared.upstream with
      | some { invalidated := true, pending := none } =>
          some { shared with
            upstream := some {
              invalidated := false
              pending := some (queried.answer query shared.source) } }
      | _ => none
  | .assign =>
      match shared.upstream with
      | some { invalidated, pending := some result } =>
          some { shared with
            value := result
            upstream := some { invalidated, pending := none } }
      | _ => none
  | .collect index =>
      match shared.collectors[index]? with
      | none => none
      | some collector =>
          if collector.collecting ∧ collector.shown ≠ shared.value then
            some { shared with
              collectors := shared.collectors.set index { collector with shown := shared.value } }
          else none

/-- A flow that is up to date has its answer on the way, or has assigned it. -/
structure Current (shared : Shared Source Place Result) : Prop where
  onTheWay : ∀ upstream ∈ shared.upstream, upstream.invalidated = false →
    ∀ result ∈ upstream.pending, result = queried.answer query shared.source
  assigned : ∀ upstream ∈ shared.upstream, upstream.invalidated = false →
    upstream.pending = none → shared.value = queried.answer query shared.source

/-- Nothing is left to do but for the source and for whoever looks at the screens. -/
def Resting (shared : Shared Source Place Result) : Prop :=
  ∀ label : Label Change Place, label.own → shared.step queried query label = none

variable {queried query} {shared next : Shared Source Place Result} {label : Label Change Place}

theorem Current.step (current : Current queried query shared)
    (taken : shared.step queried query label = some next) : Current queried query next := by
  obtain ⟨onTheWay, assigned⟩ := current
  cases label with
  | change change =>
      obtain ⟨source, advanced, rfl⟩ := Option.map_eq_some_iff.mp taken
      cases invalid : queried.invalidates shared.source change with
      | true =>
          have due : ∀ upstream ∈ shared.upstream.map (fun upstream : Upstream Result =>
              { upstream with invalidated := true }), upstream.invalidated ≠ false := by
            intro upstream found settled
            obtain ⟨before, -, rfl⟩ := Option.map_eq_some_iff.mp found
            cases settled
          simp only [if_true]
          exact ⟨fun upstream found settled => absurd settled (due upstream found),
            fun upstream found settled => absurd settled (due upstream found)⟩
      | false =>
          simp only [Bool.false_eq_true, if_false]
          constructor
          · intro upstream found settled result way
            rw [queried.silent advanced invalid]
            exact onTheWay upstream found settled result way
          · intro upstream found settled empty
            rw [queried.silent advanced invalid]
            exact assigned upstream found settled empty
  | compose place =>
      cases taken
      exact ⟨onTheWay, assigned⟩
  | resume index | pause index =>
      obtain ⟨collector, -, rfl⟩ := Option.map_eq_some_iff.mp taken
      exact ⟨onTheWay, assigned⟩
  | share =>
      simp only [Shared.step] at taken
      split at taken <;> cases taken
      constructor <;> rintro _ ⟨⟩ settled <;> cases settled
  | expire =>
      simp only [Shared.step] at taken
      split at taken <;> cases taken
      constructor <;> rintro _ ⟨⟩
  | ask =>
      simp only [Shared.step] at taken
      split at taken <;> cases taken
      constructor
      · rintro _ ⟨⟩ - result way
        exact (Option.some.inj way).symm
      · rintro _ ⟨⟩ - empty
        cases empty
  | assign =>
      simp only [Shared.step] at taken
      split at taken <;> cases taken
      next invalidated result sharing =>
        constructor
        · rintro _ ⟨⟩ - result way
          cases way
        · rintro _ ⟨⟩ settled -
          exact onTheWay _ sharing settled result rfl
  | collect index =>
      simp only [Shared.step] at taken
      split at taken
      · cases taken
      · split at taken <;> cases taken
        exact ⟨onTheWay, assigned⟩

theorem current_of_run {source : Source} {value : Result} {labels : List (Label Change Place)}
    (ran : Transition.run (step queried query) (created source value) labels = some shared) :
    Current queried query shared :=
  Transition.run_preserves (Current queried query) (fun _ _ _ current taken => current.step taken)
    ⟨fun _ found => (by cases found), fun _ found => (by cases found)⟩ ran

/-- A step is one of the source, or leaves the source alone. -/
theorem step_changes (taken : shared.step queried query label = some next) :
    Transition.run queried.advance shared.source (changes [label]) = some next.source := by
  cases label with
  | change change =>
      obtain ⟨source, advanced, rfl⟩ := Option.map_eq_some_iff.mp taken
      exact Transition.run_cons_iff.mpr ⟨source, advanced, rfl⟩
  | compose place =>
      cases taken
      rfl
  | resume index | pause index =>
      obtain ⟨collector, -, rfl⟩ := Option.map_eq_some_iff.mp taken
      rfl
  | share | expire | ask | assign =>
      simp only [Shared.step] at taken
      split at taken <;> cases taken
      rfl
  | collect index =>
      simp only [Shared.step] at taken
      split at taken
      · cases taken
      · split at taken <;> cases taken
        rfl

theorem run_changes {labels : List (Label Change Place)}
    (ran : Transition.run (step queried query) shared labels = some next) :
    Transition.run queried.advance shared.source (changes labels) = some next.source := by
  refine Transition.run_history (fun labels (now : Shared Source Place Result) =>
    Transition.run queried.advance shared.source (changes labels) = some now.source) ?_ rfl ran
  intro labels now label after before taken
  have more : changes (labels ++ [label]) = changes labels ++ changes [label] :=
    List.filterMap_append
  rw [more, Transition.run_append_iff]
  exact ⟨now.source, before, step_changes taken⟩

theorem resting_iff : Resting queried query shared ↔
    (∀ label ∈ [Label.share, .expire, .ask, .assign], (shared.step queried query label).isNone) ∧
      ∀ collector ∈ shared.collectors, collector.collecting → collector.shown = shared.value := by
  constructor
  · intro resting
    refine ⟨fun label member => ?_, fun collector member collecting => ?_⟩
    · have own : label.own := by
        simp only [List.mem_cons, List.not_mem_nil, or_false] at member
        rcases member with rfl | rfl | rfl | rfl <;> rfl
      rw [resting label own]
      rfl
    · obtain ⟨index, located⟩ := List.mem_iff_getElem?.mp member
      have collects := resting (.collect index) rfl
      simp only [Shared.step, located] at collects
      split at collects
      · cases collects
      · next same => exact not_not.mp fun differs => same ⟨collecting, differs⟩
  · intro settled label own
    obtain ⟨flow, collected⟩ := settled
    cases label with
    | change | compose | resume | pause => cases own
    | share => exact Option.isNone_iff_eq_none.mp (flow .share (by simp))
    | expire => exact Option.isNone_iff_eq_none.mp (flow .expire (by simp))
    | ask => exact Option.isNone_iff_eq_none.mp (flow .ask (by simp))
    | assign => exact Option.isNone_iff_eq_none.mp (flow .assign (by simp))
    | collect index =>
        simp only [Shared.step]
        split
        · rfl
        · next collector located =>
            refine if_neg ?_
            intro lags
            obtain ⟨collecting, differs⟩ := lags
            exact differs (collected collector (List.mem_of_getElem? located) collecting)

/-- At rest, every collector shows the answer of the moment. -/
theorem Resting.shows (resting : Resting queried query shared)
    (current : Current queried query shared) {collector : Collector Place Result}
    (member : collector ∈ shared.collectors) (collecting : collector.collecting) :
    collector.shown = queried.answer query shared.source := by
  have active : shared.active := List.any_eq_true.mpr ⟨collector, member, collecting⟩
  have collected := (resting_iff.mp resting).2 collector member collecting
  rw [collected]
  cases sharing : shared.upstream with
  | none =>
      have shares := resting .share rfl
      simp [step, sharing, active] at shares
  | some upstream =>
      obtain ⟨invalidated, pending⟩ := upstream
      have asks := resting .ask rfl
      have assigns := resting .assign rfl
      simp only [step, sharing] at asks assigns
      cases pending with
      | some result => cases assigns
      | none =>
          cases invalidated with
          | true => cases asks
          | false => exact current.assigned _ sharing rfl rfl

end Shared

/-! How it comes to rest. -/

def Upstream.due (upstream : Upstream Result) : Nat :=
  upstream.invalidated.toNat + upstream.pending.isSome.toNat

/-- The steps that are left for the flow: to be started, to ask, to assign, to expire. -/
def flowWork (active : Bool) : Option (Upstream Result) → Nat
  | none => 3 * active.toNat
  | some upstream => upstream.invalidated.toNat + upstream.due + (!active).toNat

def assignments (active : Bool) : Option (Upstream Result) → Nat
  | none => active.toNat
  | some upstream => upstream.due

theorem flowWork_le (active : Bool) (upstream : Option (Upstream Result)) :
    flowWork active upstream ≤ 4 := by
  cases upstream with
  | none => cases active <;> simp [flowWork]
  | some upstream =>
      have invalidated := Bool.toNat_le upstream.invalidated
      have pending := Bool.toNat_le upstream.pending.isSome
      have idle := Bool.toNat_le !active
      simp only [flowWork, Upstream.due]
      omega

theorem assignments_le (active : Bool) (upstream : Option (Upstream Result)) :
    assignments active upstream ≤ 2 := by
  cases upstream with
  | none => cases active <;> simp [assignments]
  | some upstream =>
      have invalidated := Bool.toNat_le upstream.invalidated
      have pending := Bool.toNat_le upstream.pending.isSome
      simp only [assignments, Upstream.due]
      omega

namespace Shared

variable {shared next : Shared Source Place Result}

theorem active_collect {index : Nat} {collector : Collector Place Result} (value : Result)
    (located : shared.collectors[index]? = some collector) :
    (shared.collectors.set index { collector with shown := value }).any Collector.collecting =
      shared.active := by
  obtain ⟨within, found⟩ := List.getElem?_eq_some_iff.mp located
  obtain ⟨leading, trailing, split, rfl, set⟩ :=
    @List.exists_of_set _ _ { collector with shown := value } _ within
  rw [found] at split
  rw [set, active]
  conv_rhs => rw [split]
  simp

variable [DecidableEq Result]

def stale (value : Result) (collector : Collector Place Result) : Bool :=
  collector.collecting && decide (collector.shown ≠ value)

/-- Each assignment may set every collector to work. -/
def work (shared : Shared Source Place Result) : Nat :=
  flowWork shared.active shared.upstream +
    assignments shared.active shared.upstream * shared.collectors.length +
    shared.collectors.countP (stale shared.value)

theorem work_le : shared.work ≤ 4 + 3 * shared.collectors.length := by
  have flow := flowWork_le shared.active shared.upstream
  have assigned := Nat.mul_le_mul_right shared.collectors.length
    (assignments_le shared.active shared.upstream)
  have counted : shared.collectors.countP (stale shared.value) ≤ shared.collectors.length :=
    List.countP_le_length
  unfold work
  omega

/-- A collector that catches up leaves one less to do so. -/
theorem stale_collect {index : Nat} {collector : Collector Place Result}
    (located : shared.collectors[index]? = some collector) (collecting : collector.collecting)
    (differs : collector.shown ≠ shared.value) :
    (shared.collectors.set index { collector with shown := shared.value }).countP
        (stale shared.value) + 1 = shared.collectors.countP (stale shared.value) := by
  obtain ⟨within, found⟩ := List.getElem?_eq_some_iff.mp located
  have before : stale shared.value shared.collectors[index] := by
    rw [found]
    simp [stale, collecting, differs]
  have after : ¬ stale shared.value { collector with shown := shared.value } := by simp [stale]
  have counted : 0 < shared.collectors.countP (stale shared.value) :=
    List.countP_pos_iff.mpr ⟨_, List.getElem_mem within, before⟩
  rw [List.countP_set within, if_pos before, if_neg after]
  omega

theorem work_flow {upstream : Option (Upstream Result)}
    (flow : flowWork shared.active upstream < flowWork shared.active shared.upstream)
    (assigned : assignments shared.active upstream ≤ assignments shared.active shared.upstream) :
    { shared with upstream }.work + 1 ≤ shared.work := by
  have products := Nat.mul_le_mul_right shared.collectors.length assigned
  have same : { shared with upstream }.active = shared.active := rfl
  simp only [work, same]
  omega

variable {queried : Queried Source Change Query Result} {query : Query}

theorem own_pays :
    Transition.Pays (Transition.only Label.own (step queried query))
      (work : Shared Source Place Result → Nat) (fun _ => 1) fun _ => 0 := by
  intro shared label next taken
  simp only [Transition.only] at taken
  split at taken
  case isFalse => cases taken
  case isTrue own =>
    cases label with
    | change | compose | resume | pause => cases own
    | share =>
        simp only [step] at taken
        split at taken <;> cases taken
        next starts =>
          apply work_flow <;>
            simp [flowWork, assignments, Upstream.due, starts.1, starts.2]
    | expire =>
        simp only [step] at taken
        split at taken <;> cases taken
        next ends =>
          obtain ⟨sharing, idle⟩ := ends
          obtain ⟨upstream, present⟩ := Option.ne_none_iff_exists'.mp sharing
          rw [Bool.not_eq_true'] at idle
          apply work_flow <;> simp [flowWork, assignments, present, idle]
    | ask =>
        simp only [step] at taken
        split at taken <;> cases taken
        next sharing => apply work_flow <;> simp [flowWork, assignments, Upstream.due, sharing]
    | assign =>
        simp only [step] at taken
        split at taken <;> cases taken
        next invalidated result sharing =>
          have counted : shared.collectors.countP (stale result) ≤ shared.collectors.length :=
            List.countP_le_length
          have same : { shared with
            value := result
            upstream := some { invalidated, pending := none } }.active = shared.active := rfl
          simp only [work, same, sharing, flowWork, assignments, Upstream.due, Option.isSome_none,
            Option.isSome_some, Bool.toNat_false, Bool.toNat_true, Nat.add_mul]
          omega
    | collect index =>
        simp only [step] at taken
        split at taken
        · cases taken
        · next collector located =>
            split at taken <;> cases taken
            next lags =>
              have counted := stale_collect located lags.1 lags.2
              have same := active_collect shared.value located
              rw [active] at same
              simp only [work, active, same, List.length_set]
              omega

theorem run_source {labels : List (Label Change Place)} (own : ∀ label ∈ labels, label.own)
    (ran : Transition.run (step queried query) shared labels = some next) :
    next.source = shared.source := by
  have silent : changes labels = [] := by
    refine List.filterMap_eq_nil_iff.mpr fun label member => ?_
    have admits := own label member
    cases label with
    | change | compose | resume | pause => cases admits
    | share | expire | ask | assign | collect => rfl
  have same := run_changes ran
  rw [silent] at same
  exact (Option.some.inj same).symm

/-- Left to itself it is at rest after four steps, and three for each collector, at most. -/
theorem rests_within (queried : Queried Source Change Query Result) (query : Query)
    (shared : Shared Source Place Result) :
    (∀ more final, Transition.run (step queried query) shared more = some final →
      (∀ label ∈ more, label.own) → more.length ≤ 4 + 3 * shared.collectors.length) ∧
    ∃ more final, Transition.run (step queried query) shared more = some final ∧
      (∀ label ∈ more, label.own) ∧ Resting queried query final := by
  constructor
  · intro more final ran own
    rw [← Transition.run_only own] at ran
    have short := own_pays.length_le ran fun _ _ => ⟨Nat.one_pos, rfl⟩
    have bounded := shared.work_le
    omega
  · have spends : ∀ label : Label Change Place, label.own → 0 < 1 ∧ 0 = 0 := fun _ _ => ⟨Nat.one_pos, rfl⟩
    obtain ⟨more, final, ran, own, resting⟩ := own_pays.rests spends shared
    rw [Transition.run_only own] at ran
    refine ⟨more, final, ran, own, fun label admits => ?_⟩
    have ends := resting label admits
    rwa [Transition.only, if_pos admits] at ends

end Shared

end SharedQuery
