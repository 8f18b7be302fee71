import Mathlib.Data.List.Nodup
import Mathlib.Data.List.Pairwise

/-! The last entry for each key: what is left of a history of writes when a write
replaces the one before under the same key. -/

set_option autoImplicit false

namespace Latest

universe u v

variable {Entry : Type u} {Key : Type v} [DecidableEq Key] {key : Entry → Key}

/-- The entries that no later one has the key of, in order. -/
def latest (key : Entry → Key) (entries : List Entry) : List Entry :=
  entries.pwFilter fun earlier later => key earlier ≠ key later

/-- A write takes the place of the one before it. -/
theorem latest_concat (entries : List Entry) (entry : Entry) :
    latest key (entries ++ [entry]) =
      (latest key entries).filter (fun other => key other ≠ key entry) ++ [entry] := by
  unfold latest
  induction entries with
  | nil => simp [List.pwFilter]
  | cons first entries ih =>
      rw [List.cons_append]
      by_cases replaced : ∀ later ∈ entries.pwFilter fun earlier later => key earlier ≠ key later,
          key first ≠ key later
      · rw [List.pwFilter_cons_of_pos replaced]
        by_cases now : key first = key entry
        · rw [List.pwFilter_cons_of_neg, ih, List.filter_cons_of_neg (by simp [now])]
          intro kept
          refine kept entry ?_ now
          rw [ih]
          exact List.mem_append_right _ (List.mem_singleton_self entry)
        · rw [List.pwFilter_cons_of_pos, ih, List.filter_cons_of_pos (by simpa using now),
            List.cons_append]
          intro later member
          rw [ih] at member
          rcases List.mem_append.mp member with old | new
          · exact replaced later (List.mem_filter.mp old).1
          · rw [List.mem_singleton.mp new]
            exact now
      · rw [List.pwFilter_cons_of_neg replaced, List.pwFilter_cons_of_neg, ih]
        intro kept
        apply replaced
        intro later member
        by_cases now : key later = key entry
        · rw [now]
          refine kept entry ?_
          rw [ih]
          exact List.mem_append_right _ (List.mem_singleton_self entry)
        · refine kept later ?_
          rw [ih]
          exact List.mem_append_left _ (List.mem_filter.mpr ⟨member, by simpa using now⟩)

theorem keys_nodup (entries : List Entry) : ((latest key entries).map key).Nodup :=
  List.pairwise_map.mpr (List.pairwise_pwFilter entries)

theorem latest_eq_self {entries : List Entry} (distinct : (entries.map key).Nodup) :
    latest key entries = entries :=
  List.pwFilter_eq_self.mpr (List.pairwise_map.mp distinct)

private theorem length_le_filter {entries : List Entry} (distinct : (entries.map key).Nodup)
    (removed : Key) :
    entries.length ≤ (entries.filter fun entry => key entry ≠ removed).length + 1 := by
  induction entries with
  | nil => exact Nat.zero_le _
  | cons entry entries ih =>
      obtain ⟨fresh, distinct⟩ := List.nodup_cons.mp distinct
      by_cases now : key entry = removed
      · have others : entries.filter (fun entry => key entry ≠ removed) = entries := by
          refine List.filter_eq_self.mpr fun other member => decide_eq_true fun same => ?_
          exact fresh (now.trans same.symm ▸ List.mem_map_of_mem member)
        rw [List.filter_cons_of_neg (by simp [now]), others]
        exact Nat.le_refl _
      · rw [List.filter_cons_of_pos (by simpa using now), List.length_cons, List.length_cons]
        exact Nat.succ_le_succ (ih distinct)

/-- More writes leave no fewer keys. -/
theorem length_latest_le_concat (entries : List Entry) (entry : Entry) :
    (latest key entries).length ≤ (latest key (entries ++ [entry])).length := by
  rw [latest_concat, List.length_append]
  exact length_le_filter (keys_nodup entries) (key entry)

end Latest
