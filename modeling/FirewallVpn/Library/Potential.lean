import FirewallVpn.Library.Transition
import Mathlib.Algebra.GroupWithZero.Nat

/-! Bounded work. A potential that pays for what each step costs, up to a credit
the step brings with it, bounds the cost of a whole run. Steps without credit come
to an end, therefore, and where one of them is possible as long as the potential is
not spent, they spend it. -/

set_option autoImplicit false

namespace Weights

universe u

variable {Member : Type u}

/-- What the members of a list weigh together. -/
def total (weight : Member → Nat) (members : List Member) : Nat := (members.map weight).sum

@[simp] theorem total_nil (weight : Member → Nat) : total weight [] = 0 := rfl

@[simp] theorem total_cons (weight : Member → Nat) (member : Member) (members : List Member) :
    total weight (member :: members) = weight member + total weight members := List.sum_cons

@[simp] theorem total_append (weight : Member → Nat) (members others : List Member) :
    total weight (members ++ others) = total weight members + total weight others := by
  rw [total, List.map_append, List.sum_append, total, total]

theorem total_eq_zero_iff {weight : Member → Nat} {members : List Member} :
    total weight members = 0 ↔ ∀ member ∈ members, weight member = 0 := by
  rw [total, List.sum_eq_zero_iff_forall_eq_nat, List.forall_mem_map]

theorem length_le_total {weight : Member → Nat} {members : List Member}
    (heavy : ∀ member ∈ members, 0 < weight member) : members.length ≤ total weight members := by
  induction members with
  | nil => exact Nat.le_refl 0
  | cons member members ih =>
      obtain ⟨first, others⟩ := List.forall_mem_cons.mp heavy
      have rested := ih others
      rw [total_cons, List.length_cons]
      omega

end Weights

namespace Transition

open Weights

universe u v

variable {State : Type u} {Label : Type v} {step : State → Label → Option State}

/-- The potential of a state and the credit of a label pay for the step. -/
def Pays (step : State → Label → Option State) (potential : State → Nat) (cost credit : Label → Nat) :
    Prop :=
  ∀ state label next, step state label = some next →
    potential next + cost label ≤ potential state + credit label

section Pays

variable {potential : State → Nat} {cost credit : Label → Nat}

theorem Pays.run (pays : Pays step potential cost credit) {initial final : State} {labels : List Label}
    (ran : run step initial labels = some final) :
    potential final + total cost labels ≤ potential initial + total credit labels := by
  induction labels generalizing initial with
  | nil =>
      cases ran
      exact Nat.le_refl _
  | cons label labels ih =>
      obtain ⟨next, taken, ran⟩ := run_cons_iff.mp ran
      have first := pays initial label next taken
      have others := ih ran
      rw [total_cons, total_cons]
      omega

/-- A run of steps that cost something and bring nothing is as short as its potential. -/
theorem Pays.length_le (pays : Pays step potential cost credit) {initial final : State}
    {labels : List Label} (ran : Transition.run step initial labels = some final)
    (spends : ∀ label ∈ labels, 0 < cost label ∧ credit label = 0) :
    labels.length + potential final ≤ potential initial := by
  have paid := pays.run ran
  rw [total_eq_zero_iff.mpr fun label member => (spends label member).2] at paid
  have long := length_le_total fun label member => (spends label member).1
  omega

/-- Steps that cost something and bring nothing can be taken until none is left. -/
theorem Pays.rests (pays : Pays step potential cost credit) {admitted : Label → Prop}
    (spends : ∀ label, admitted label → 0 < cost label ∧ credit label = 0) (initial : State) :
    ∃ labels final, Transition.run step initial labels = some final ∧
      (∀ label ∈ labels, admitted label) ∧ ∀ label, admitted label → step final label = none := by
  induction bound : potential initial using Nat.strongRecOn generalizing initial with
  | ind number ih =>
      by_cases rest : ∀ label, admitted label → step initial label = none
      · exact ⟨[], initial, rfl, List.forall_mem_nil _, rest⟩
      · obtain ⟨label, moves⟩ := not_forall.mp rest
        obtain ⟨admits, moves⟩ := Classical.not_imp.mp moves
        obtain ⟨next, taken⟩ := Option.ne_none_iff_exists'.mp moves
        have paid := pays initial label next taken
        have less : potential next < number := by
          have spend := spends label admits
          omega
        obtain ⟨labels, final, ran, all, rests⟩ := ih _ less next rfl
        exact ⟨label :: labels, final, run_cons_iff.mpr ⟨next, taken, ran⟩,
          List.forall_mem_cons.mpr ⟨admits, all⟩, rests⟩

/-- Where such a step is possible until the potential is spent, it can be spent. -/
theorem Pays.exhausts (pays : Pays step potential cost credit) {admitted : Label → Prop}
    (spends : ∀ label, admitted label → 0 < cost label ∧ credit label = 0)
    (moves : ∀ state, potential state ≠ 0 →
      ∃ label next, admitted label ∧ step state label = some next) (initial : State) :
    ∃ labels final, Transition.run step initial labels = some final ∧ potential final = 0 ∧
      ∀ label ∈ labels, admitted label := by
  obtain ⟨labels, final, ran, all, rests⟩ := pays.rests spends initial
  refine ⟨labels, final, ran, Decidable.byContradiction fun busy => ?_, all⟩
  obtain ⟨label, next, admits, taken⟩ := moves final busy
  rw [rests label admits] at taken
  cases taken

end Pays

def only (admitted : Label → Bool) (step : State → Label → Option State) :
    State → Label → Option State :=
  fun state label => if admitted label then step state label else none

theorem run_only {admitted : Label → Bool} {labels : List Label}
    (all : ∀ label ∈ labels, admitted label) (state : State) :
    run (only admitted step) state labels = run step state labels := by
  induction labels generalizing state with
  | nil => rfl
  | cons label labels ih =>
      obtain ⟨first, others⟩ := List.forall_mem_cons.mp all
      rw [run_cons, run_cons, only, if_pos first]
      exact congrArg _ (funext (ih others))

end Transition
