import Mathlib.Data.List.Dedup
import Mathlib.Data.List.Nodup

/-! One row for each group. A query that groups by a column and selects others leaves open
which row of a group they are read from; a choice takes a row of every group there is. -/

set_option autoImplicit false

namespace Groups

universe u v

variable {Row : Type u} {Key : Type v} [DecidableEq Key]

/-- Picks a row of each list of rows that has one. -/
structure Choice (Row : Type u) where
  pick : List Row → Option Row
  mem : ∀ {rows row}, pick rows = some row → row ∈ rows
  total : ∀ {rows}, rows ≠ [] → (pick rows).isSome

def Choice.first : Choice Row where
  pick rows := rows.head?
  mem found := List.mem_of_mem_head? found
  total nonempty := List.isSome_head?.mpr nonempty

def Choice.last : Choice Row where
  pick rows := rows.getLast?
  mem found := List.mem_of_getLast? found
  total nonempty := List.getLast?_isSome.mpr nonempty

def group (key : Row → Key) (rows : List Row) (value : Key) : List Row :=
  rows.filter fun row => key row = value

def representatives (key : Row → Key) (choice : Choice Row) (rows : List Row) : List Row :=
  (rows.map key).dedup.filterMap fun value => choice.pick (group key rows value)

variable {key : Row → Key} {choice : Choice Row} {rows : List Row}

theorem mem_group {value : Key} {row : Row} :
    row ∈ group key rows value ↔ row ∈ rows ∧ key row = value := by
  rw [group, List.mem_filter, decide_eq_true_eq]

theorem group_ne_nil (key : Row → Key) {row : Row} (member : row ∈ rows) :
    group key rows (key row) ≠ [] :=
  List.ne_nil_of_mem (mem_group.mpr ⟨member, rfl⟩)

theorem pick_key {value : Key} {row : Row} (picked : choice.pick (group key rows value) = some row) :
    row ∈ rows ∧ key row = value :=
  mem_group.mp (choice.mem picked)

theorem mem_of_mem_representatives {row : Row} (member : row ∈ representatives key choice rows) :
    row ∈ rows := by
  obtain ⟨value, -, picked⟩ := List.mem_filterMap.mp member
  exact (pick_key picked).1

theorem exists_representative (key : Row → Key) (choice : Choice Row) {row : Row}
    (member : row ∈ rows) :
    ∃ chosen ∈ representatives key choice rows, key chosen = key row := by
  obtain ⟨chosen, picked⟩ :=
    Option.isSome_iff_exists.mp (choice.total (group_ne_nil key member))
  refine ⟨chosen, List.mem_filterMap.mpr ⟨key row, ?_, picked⟩, (pick_key picked).2⟩
  exact List.mem_dedup.mpr (List.mem_map_of_mem member)

theorem nodup_keys : ((representatives key choice rows).map key).Nodup := by
  rw [representatives, List.map_filterMap]
  refine (List.nodup_dedup _).filterMap fun value other shared ofValue ofOther => ?_
  obtain ⟨row, picked, rfl⟩ := Option.map_eq_some_iff.mp ofValue
  obtain ⟨otherRow, otherPicked, same⟩ := Option.map_eq_some_iff.mp ofOther
  rw [← (pick_key picked).2, ← same, (pick_key otherPicked).2]

end Groups
