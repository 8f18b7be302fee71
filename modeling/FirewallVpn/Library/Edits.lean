import Mathlib.Data.Finset.Basic

/-! Sets that are edited member by member. The last edit of a member decides whether
it is in the set, however the edits of other members come in between. -/

set_option autoImplicit false

namespace Edits

universe u

inductive Edit (Member : Type u) where
  | add (member : Member)
  | remove (member : Member)
  deriving DecidableEq

variable {Member : Type u} [DecidableEq Member]

namespace Edit

def member : Edit Member → Member
  | .add member | .remove member => member

def apply (members : Finset Member) : Edit Member → Finset Member
  | .add member => insert member members
  | .remove member => members.erase member

theorem mem_apply_of_ne {members : Finset Member} {edit : Edit Member} {member : Member}
    (other : edit.member ≠ member) : member ∈ edit.apply members ↔ member ∈ members := by
  cases edit with
  | add added =>
      have different : member ≠ added := fun same => other same.symm
      simp [apply, different]
  | remove removed =>
      have different : member ≠ removed := fun same => other same.symm
      simp [apply, different]

theorem mem_apply_self {members : Finset Member} {edit : Edit Member} :
    edit.member ∈ edit.apply members ↔ edit = .add edit.member := by
  cases edit <;> simp [apply, member]

theorem mem_apply_of_ne_remove {members : Finset Member} {edit : Edit Member} {member : Member}
    (spared : edit ≠ .remove member) (old : member ∈ members) : member ∈ edit.apply members := by
  cases edit with
  | add added => exact Finset.mem_insert_of_mem old
  | remove removed =>
      refine Finset.mem_erase.mpr ⟨?_, old⟩
      rintro rfl
      exact spared rfl

end Edit

def replay (members : Finset Member) (edits : List (Edit Member)) : Finset Member :=
  edits.foldl Edit.apply members

def lastOn (member : Member) (edits : List (Edit Member)) : Option (Edit Member) :=
  (edits.filter fun edit => edit.member = member).getLast?

@[simp] theorem replay_nil (members : Finset Member) : replay members [] = members := rfl

@[simp] theorem replay_concat (members : Finset Member) (edits : List (Edit Member))
    (edit : Edit Member) : replay members (edits ++ [edit]) = edit.apply (replay members edits) := by
  simp [replay]

theorem lastOn_concat (member : Member) (edits : List (Edit Member)) (edit : Edit Member) :
    lastOn member (edits ++ [edit]) =
      if edit.member = member then some edit else lastOn member edits := by
  by_cases same : edit.member = member <;> simp [lastOn, List.filter_append, same]

/-- A member is in the edited set exactly if its last edit adds it, or it has none and
was there before. -/
theorem mem_replay_iff {members : Finset Member} {edits : List (Edit Member)} {member : Member} :
    member ∈ replay members edits ↔
      lastOn member edits = some (.add member) ∨ lastOn member edits = none ∧ member ∈ members := by
  induction edits using List.reverseRecOn with
  | nil => simp [lastOn]
  | append_singleton edits edit ih =>
      rw [replay_concat, lastOn_concat]
      by_cases same : edit.member = member
      · subst same
        simp [Edit.mem_apply_self]
      · rw [Edit.mem_apply_of_ne same, ih, if_neg same]

end Edits
