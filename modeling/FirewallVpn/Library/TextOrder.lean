import Mathlib.Data.List.Lex
import Mathlib.Data.String.Basic

/-! The order of texts that are made of fields: fields of one width, and fields
that end at a separator, compare one after the other, and numerals of one width
compare as the numbers they stand for. -/

set_option autoImplicit false

namespace Text

universe u

section Fields

variable {Letter : Type u} [LinearOrder Letter] {first second rest other : List Letter}

theorem append_lt_append_iff (width : first.length = second.length) :
    first ++ rest < second ++ other ↔ first < second ∨ first = second ∧ rest < other := by
  induction first generalizing second with
  | nil =>
      have empty : second = [] := List.eq_nil_of_length_eq_zero width.symm
      subst empty
      simp
  | cons letter first ih =>
      cases second with
      | nil => cases width
      | cons letter' second =>
          have shorter : first.length = second.length := Nat.succ.inj width
          simp only [List.cons_append, List.cons_lt_cons_iff, ih shorter, List.cons.injEq]
          grind

/-- A separator below every letter of the fields ends the shorter one first. -/
theorem separated_lt_iff {separator : Letter} (above : ∀ letter ∈ first, separator < letter)
    (otherAbove : ∀ letter ∈ second, separator < letter) :
    first ++ separator :: rest < second ++ separator :: other ↔
      first < second ∨ first = second ∧ rest < other := by
  induction first generalizing second with
  | nil =>
      cases second with
      | nil => simp
      | cons letter second =>
          have below := otherAbove letter List.mem_cons_self
          simp [List.cons_lt_cons_iff, below]
  | cons letter first ih =>
      have below := above letter List.mem_cons_self
      cases second with
      | nil => simp [List.cons_lt_cons_iff, below.not_gt, below.ne']
      | cons letter' second =>
          have rested := ih (fun later member => above later (List.mem_cons_of_mem _ member))
            (fun later member => otherAbove later (List.mem_cons_of_mem _ member))
          simp only [List.cons_append, List.cons_lt_cons_iff, rested, List.cons.injEq]
          grind

end Fields

/-- The decimal numeral of the given width, with leading zeros. -/
def numeral : Nat → Nat → List Char
  | 0, _ => []
  | width + 1, value => Nat.digitChar (value / 10 ^ width) :: numeral width (value % 10 ^ width)

@[simp] theorem numeral_length (width value : Nat) : (numeral width value).length = width := by
  induction width generalizing value with
  | zero => rfl
  | succ width ih => simp [numeral, ih]

private theorem digitChar_lt_iff : ∀ digit < 10, ∀ other < 10,
    (Nat.digitChar digit < Nat.digitChar other ↔ digit < other) ∧
      (Nat.digitChar digit = Nat.digitChar other ↔ digit = other) := by
  decide

theorem numeral_lt_iff {width value other : Nat} (fits : value < 10 ^ width)
    (otherFits : other < 10 ^ width) : numeral width value < numeral width other ↔ value < other := by
  induction width generalizing value other with
  | zero =>
      simp only [Nat.pow_zero, Nat.lt_one_iff] at fits otherFits
      simp [numeral, fits, otherFits]
  | succ width ih =>
      have power : 0 < 10 ^ width := Nat.pow_pos (by decide)
      have digit : value / 10 ^ width < 10 := Nat.div_lt_of_lt_mul (by rwa [← Nat.pow_succ])
      have otherDigit : other / 10 ^ width < 10 := Nat.div_lt_of_lt_mul (by rwa [← Nat.pow_succ])
      obtain ⟨compared, same⟩ := digitChar_lt_iff _ digit _ otherDigit
      rw [numeral, numeral, List.cons_lt_cons_iff, compared, same,
        ih (Nat.mod_lt _ power) (Nat.mod_lt _ power)]
      have split := Nat.div_add_mod value (10 ^ width)
      have otherSplit := Nat.div_add_mod other (10 ^ width)
      have remainder := Nat.mod_lt value power
      have otherRemainder := Nat.mod_lt other power
      generalize value / 10 ^ width = high at *
      generalize other / 10 ^ width = otherHigh at *
      constructor
      · rintro (less | ⟨rfl, less⟩)
        · have carried := Nat.mul_le_mul_left (10 ^ width) less
          rw [Nat.mul_succ] at carried
          omega
        · omega
      · intro less
        rcases Nat.lt_trichotomy high otherHigh with below | rfl | above
        · exact .inl below
        · exact .inr ⟨rfl, by omega⟩
        · have carried := Nat.mul_le_mul_left (10 ^ width) above
          rw [Nat.mul_succ] at carried
          omega

theorem numeral_inj {width value other : Nat} (fits : value < 10 ^ width)
    (otherFits : other < 10 ^ width) : numeral width value = numeral width other ↔ value = other := by
  refine ⟨fun same => ?_, fun same => by rw [same]⟩
  rcases Nat.lt_trichotomy value other with below | equal | above
  · have less := (numeral_lt_iff fits otherFits).mpr below
    exact absurd (same ▸ less) (lt_irrefl _)
  · exact equal
  · have less := (numeral_lt_iff otherFits fits).mpr above
    exact absurd (same ▸ less) (lt_irrefl _)

end Text
