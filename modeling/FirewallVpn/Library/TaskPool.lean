import FirewallVpn.Library.Potential
import Mathlib.Data.List.Basic

/-! A pool of tasks that are never forgotten: a step replaces the task at one
index and launches others behind the last. An index therefore names one task for
the whole run, and the order of the indices is the order of launching. -/

set_option autoImplicit false

namespace TaskPool

universe u v

variable {Task : Type u}

/-- The task at `index` goes on as `task` after having launched `launched`. -/
def advance (pool : List Task) (index : Nat) (task : Task) (launched : List Task) : List Task :=
  pool.set index task ++ launched

variable {pool launched : List Task} {index other : Nat} {before task : Task}

@[simp] theorem length_advance :
    (advance pool index task launched).length = pool.length + launched.length := by
  simp [advance]

theorem getElem?_advance_self (found : pool[index]? = some before) :
    (advance pool index task launched)[index]? = some task := by
  obtain ⟨within, -⟩ := List.getElem?_eq_some_iff.mp found
  rw [advance, List.getElem?_append_left (by simpa using within), List.getElem?_set_self within]

theorem getElem?_advance_other (distinct : other ≠ index) (within : other < pool.length) :
    (advance pool index task launched)[other]? = pool[other]? := by
  rw [advance, List.getElem?_append_left (by simpa using within), List.getElem?_set_ne distinct.symm]

/-- A task behind which others were launched is an old or a new one. -/
theorem getElem?_append_cases {after : Task} (located : (pool ++ launched)[other]? = some after) :
    pool[other]? = some after ∨
      (pool.length ≤ other ∧ launched[other - pool.length]? = some after) := by
  by_cases within : other < pool.length
  · rw [List.getElem?_append_left within] at located
    exact .inl located
  · have beyond : pool.length ≤ other := Nat.le_of_not_lt within
    rw [List.getElem?_append_right beyond] at located
    exact .inr ⟨beyond, located⟩

/-- A task after the step is the one that moved, an untouched one, or a new one. -/
theorem getElem?_advance_cases {after : Task} (found : pool[index]? = some before)
    (located : (advance pool index task launched)[other]? = some after) :
    (other = index ∧ after = task) ∨ (other ≠ index ∧ pool[other]? = some after) ∨
      (pool.length ≤ other ∧ launched[other - pool.length]? = some after) := by
  by_cases same : other = index
  · subst same
    rw [getElem?_advance_self found] at located
    cases located
    exact .inl ⟨rfl, rfl⟩
  · rcases getElem?_append_cases located with old | new
    · rw [List.getElem?_set_ne (Ne.symm same)] at old
      exact .inr (.inl ⟨same, old⟩)
    · rw [List.length_set] at new
      exact .inr (.inr new)

theorem mem_advance {member : Task} (inPool : member ∈ advance pool index task launched) :
    member ∈ pool ∨ member = task ∨ member ∈ launched := by
  rcases List.mem_append.mp inPool with old | added
  · rcases List.mem_or_eq_of_mem_set old with kept | moved
    · exact .inl kept
    · exact .inr (.inl moved)
  · exact .inr (.inr added)

theorem forall_advance {property : Task → Prop} (holds : ∀ member ∈ pool, property member)
    (moved : property task) (new : ∀ member ∈ launched, property member) :
    ∀ member ∈ advance pool index task launched, property member := by
  intro member inPool
  rcases mem_advance inPool with kept | rfl | added
  · exact holds member kept
  · exact moved
  · exact new member added

/-- What the tasks weigh together, after a step, but for the one that moved. -/
theorem total_advance (weight : Task → Nat) (found : pool[index]? = some before) (task : Task)
    (launched : List Task) :
    Weights.total weight (advance pool index task launched) + weight before =
      Weights.total weight pool + weight task + Weights.total weight launched := by
  obtain ⟨within, same⟩ := List.getElem?_eq_some_iff.mp found
  obtain ⟨leading, trailing, split, rfl, set⟩ := @List.exists_of_set _ _ task _ within
  rw [same] at split
  rw [advance, set, split]
  simp only [Weights.total_append, Weights.total_cons]
  omega

/-- What does not change with a task is the same in the whole pool, if the tasks
launched have nothing of it. -/
theorem filterMap_advance {Note : Type v} {note : Task → Option Note}
    (found : pool[index]? = some before)
    (same : note task = note before) (new : ∀ member ∈ launched, note member = none) :
    (advance pool index task launched).filterMap note = pool.filterMap note := by
  obtain ⟨within, located⟩ := List.getElem?_eq_some_iff.mp found
  obtain ⟨leading, trailing, split, rfl, set⟩ := @List.exists_of_set _ _ task _ within
  rw [located] at split
  rw [advance, set, split]
  simp only [List.filterMap_append, List.filterMap_cons, same, List.filterMap_eq_nil_iff.mpr new,
    List.append_nil]

/-! Resources that tasks hold for themselves. -/

/-- No two tasks hold the same resource. -/
def Exclusive {Resource : Type v} (held : Task → Option Resource) (pool : List Task) : Prop :=
  ∀ (first second : Nat) one other resource, pool[first]? = some one → pool[second]? = some other →
    held one = some resource → held other = some resource → first = second

section Exclusive

variable {Resource : Type v} {held : Task → Option Resource}

theorem Exclusive.set (exclusive : Exclusive held pool) (found : pool[index]? = some before)
    (moved : ∀ resource, held task = some resource →
      held before = some resource ∨ ∀ member ∈ pool, held member ≠ some resource) :
    Exclusive held (pool.set index task) := by
  have untaken : ∀ position member resource, position ≠ index → pool[position]? = some member →
      held member = some resource → held task ≠ some resource := by
    intro position member resource distinct located holds takes
    rcases moved resource takes with kept | unheld
    · exact distinct (exclusive position index member before resource located found holds kept)
    · exact unheld member (List.mem_of_getElem? located) holds
  obtain ⟨within, -⟩ := List.getElem?_eq_some_iff.mp found
  intro first second one other resource oneLocated otherLocated oneHolds otherHolds
  by_cases oneMoved : first = index
  · by_cases otherMoved : second = index
    · rw [oneMoved, otherMoved]
    · rw [List.getElem?_set_ne (Ne.symm otherMoved)] at otherLocated
      rw [oneMoved, List.getElem?_set_self within, Option.some.injEq] at oneLocated
      subst oneLocated
      exact absurd oneHolds (untaken second other resource otherMoved otherLocated otherHolds)
  · rw [List.getElem?_set_ne (Ne.symm oneMoved)] at oneLocated
    by_cases otherMoved : second = index
    · rw [otherMoved, List.getElem?_set_self within, Option.some.injEq] at otherLocated
      subst otherLocated
      exact absurd otherHolds (untaken first one resource oneMoved oneLocated oneHolds)
    · rw [List.getElem?_set_ne (Ne.symm otherMoved)] at otherLocated
      exact exclusive first second one other resource oneLocated otherLocated oneHolds otherHolds

theorem Exclusive.append (exclusive : Exclusive held pool)
    (new : ∀ member ∈ launched, held member = none) : Exclusive held (pool ++ launched) := by
  have old : ∀ (position : Nat) member resource, (pool ++ launched)[position]? = some member →
      held member = some resource → pool[position]? = some member := by
    intro position member resource located holds
    rcases getElem?_append_cases located with kept | ⟨-, added⟩
    · exact kept
    · rw [new member (List.mem_of_getElem? added)] at holds
      cases holds
  intro first second one other resource oneLocated otherLocated oneHolds otherHolds
  exact exclusive first second one other resource (old first one resource oneLocated oneHolds)
    (old second other resource otherLocated otherHolds) oneHolds otherHolds

/-- A step keeps resources exclusive if the task that moved holds no other one
than before, or one that nobody held, and the tasks it launched hold none. -/
theorem Exclusive.advance (exclusive : Exclusive held pool) (found : pool[index]? = some before)
    (moved : ∀ resource, held task = some resource →
      held before = some resource ∨ ∀ member ∈ pool, held member ≠ some resource)
    (new : ∀ member ∈ launched, held member = none) :
    Exclusive held (advance pool index task launched) :=
  (exclusive.set found moved).append new

end Exclusive

theorem mem_take_advance {number : Nat} {member : Task} (within : number ≤ pool.length)
    (inPool : member ∈ (advance pool index task launched).take number) :
    member ∈ pool.take number ∨ (member = task ∧ index < number) := by
  rw [advance, List.take_append_of_le_length (by simpa using within)] at inPool
  obtain ⟨position, located⟩ := List.mem_iff_getElem?.mp inPool
  rw [List.getElem?_take] at located
  split at located
  · next before =>
      by_cases moved : index = position
      · subst moved
        rw [List.getElem?_set_self (Nat.lt_of_lt_of_le before within), Option.some.injEq] at located
        exact .inr ⟨located.symm, before⟩
      · rw [List.getElem?_set_ne moved] at located
        refine .inl (List.mem_iff_getElem?.mpr ⟨position, ?_⟩)
        rw [List.getElem?_take, if_pos before]
        exact located
  · cases located

/-! The selected tasks from an index on, each with its index, in launching order. -/

def view (selected : Task → Bool) (first : Nat) (pool : List Task) : List (Task × Nat) :=
  pool.zipIdx.filter fun entry => first ≤ entry.2 && selected entry.1

variable {selected : Task → Bool} {first : Nat}

theorem mem_view {entry : Task × Nat} (member : entry ∈ view selected first pool) :
    pool[entry.2]? = some entry.1 ∧ first ≤ entry.2 ∧ selected entry.1 := by
  obtain ⟨located, chosen⟩ := List.mem_filter.mp member
  simp only [Bool.and_eq_true, decide_eq_true_eq] at chosen
  exact ⟨List.mem_zipIdx_iff_getElem?.mp located, chosen⟩

theorem view_append_singleton :
    view selected first (pool ++ [task]) = view selected first pool ++
      if first ≤ pool.length && selected task then [(task, pool.length)] else [] := by
  simp [view, List.zipIdx_append, List.filter_cons]

private theorem view_launched (hidden : ∀ member ∈ launched, selected member = false) :
    view selected first (pool ++ launched) = view selected first pool := by
  have unseen : (launched.zipIdx pool.length).filter
      (fun entry => first ≤ entry.2 && selected entry.1) = [] := by
    rw [List.filter_eq_nil_iff]
    intro entry member
    simp [hidden entry.1 (List.fst_mem_of_mem_zipIdx member)]
  rw [view, List.zipIdx_append, List.filter_append, Nat.zero_add, unseen, List.append_nil, view]

private theorem view_split {leading trailing : List Task} :
    view selected first (leading ++ task :: trailing) =
      view selected first leading ++
        (if first ≤ leading.length && selected task then [(task, leading.length)] else []) ++
        (trailing.zipIdx (leading.length + 1)).filter
          fun entry => first ≤ entry.2 && selected entry.1 := by
  simp only [view, List.zipIdx_append, List.filter_append, List.zipIdx_cons, List.filter_cons,
    Nat.zero_add, List.append_assoc]
  split <;> rfl

/-- A step of a task outside the view leaves the view as it is. -/
theorem view_advance_other (found : pool[index]? = some before)
    (outside : (first ≤ index && selected before) = false)
    (remains : (first ≤ index && selected task) = false)
    (hidden : ∀ member ∈ launched, selected member = false) :
    view selected first (advance pool index task launched) = view selected first pool := by
  obtain ⟨within, same⟩ := List.getElem?_eq_some_iff.mp found
  obtain ⟨leading, trailing, split, rfl, set⟩ := @List.exists_of_set _ _ task _ within
  rw [same] at split
  rw [advance, view_launched hidden, set, view_split, remains, split, view_split, outside]
  simp only [Bool.false_eq_true, if_false]

/-- A step of a task in the view changes that entry alone. -/
theorem view_advance_self (found : pool[index]? = some before) (reached : first ≤ index)
    (chosen : selected before) (stays : selected task)
    (hidden : ∀ member ∈ launched, selected member = false) :
    ∃ earlier later,
      view selected first pool = earlier ++ (before, index) :: later ∧
        view selected first (advance pool index task launched) = earlier ++ (task, index) :: later ∧
        ∀ entry ∈ earlier, entry.1 ∈ pool.take index ∧ selected entry.1 := by
  obtain ⟨within, same⟩ := List.getElem?_eq_some_iff.mp found
  obtain ⟨leading, trailing, split, rfl, set⟩ := @List.exists_of_set _ _ task _ within
  rw [same] at split
  refine ⟨view selected first leading, (trailing.zipIdx (leading.length + 1)).filter
    fun entry => first ≤ entry.2 && selected entry.1, ?_, ?_, ?_⟩
  · rw [split, view_split]
    simp [reached, chosen]
  · rw [advance, view_launched hidden, set, view_split]
    simp [reached, stays]
  · intro entry member
    obtain ⟨located, -, picked⟩ := mem_view member
    rw [split, List.take_left]
    exact ⟨List.mem_of_getElem? located, picked⟩

end TaskPool
