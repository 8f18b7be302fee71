import Mathlib.Algebra.Group.Int.Defs
import Mathlib.Algebra.Group.Nat.Defs
import Mathlib.Data.List.Infix

/-! Numbers in text, and text cut at blanks, as Kotlin's standard library reads
and prints them. Digits are the ASCII digits. -/

set_option autoImplicit false

namespace Text

/-- The number that decimal digits stand for. -/
def magnitude (digits : List Char) : Option Nat :=
  if digits ≠ [] ∧ digits.all Char.isDigit then some (Nat.ofDigitChars 10 digits 0) else none

/-- A 32-bit integer: decimal digits behind an optional sign. -/
def toIntOrNull (text : List Char) : Option Int :=
  let value : Option Int :=
    match text with
    | '-' :: digits => (magnitude digits).map fun value => -value
    | '+' :: digits => (magnitude digits).map Int.ofNat
    | digits => (magnitude digits).map Int.ofNat
  value.filter fun value => -2 ^ 31 ≤ value ∧ value < 2 ^ 31

/-- `toString(16)`: lower-case digits behind the sign. -/
def toHex (value : Int) : List Char :=
  match value with
  | .ofNat value => Nat.toDigits 16 value
  | .negSucc value => '-' :: Nat.toDigits 16 (value + 1)

/-- `Integer.toHexString`: the lower-case digits of the 32-bit word. -/
def toHexString (value : Int) : List Char := Nat.toDigits 16 (value % 2 ^ 32).toNat

/-- `\s` of a regular expression. -/
def isBlank (char : Char) : Bool :=
  char ∈ [' ', '\t', '\n', '\r', Char.ofNat 0x0B, Char.ofNat 0x0C]

/-- `isWhitespace`, by which `trim` goes. -/
def isWhitespace (char : Char) : Bool :=
  isBlank char || (0x1C ≤ char.toNat && char.toNat ≤ 0x1F) ||
    (0x2000 ≤ char.toNat && char.toNat ≤ 0x200A) ||
    char.toNat ∈ [0xA0, 0x1680, 0x2028, 0x2029, 0x202F, 0x205F, 0x3000]

def trim (text : List Char) : List Char :=
  ((text.dropWhile isWhitespace).reverse.dropWhile isWhitespace).reverse

/-- `split(Regex("\\s+"))`: the pieces between the runs of blanks. -/
def splitBlanks : List Char → List (List Char)
  | [] => [[]]
  | char :: rest =>
      if isBlank char then
        if rest.head?.any isBlank then splitBlanks rest else [] :: splitBlanks rest
      else (splitBlanks rest).modifyHead (char :: ·)

def equalsIgnoreCase (text other : String) : Bool :=
  text.toList.map Char.toLower = other.toList.map Char.toLower

theorem magnitude_toDigits (value : Nat) : magnitude (Nat.toDigits 10 value) = some value := by
  have digits : ∀ char ∈ Nat.toDigits 10 value, char.isDigit :=
    fun _ member => Nat.isDigit_of_mem_toDigits (by decide) (by decide) member
  rw [magnitude, if_pos ⟨Nat.toDigits_ne_nil, List.all_eq_true.mpr digits⟩,
    Nat.ofDigitChars_ten_toDigits]

/-- Digits are read as long as their number fits. -/
theorem toIntOrNull_toDigits_eq (value : Nat) :
    toIntOrNull (Nat.toDigits 10 value) = if value < 2 ^ 31 then some (value : Int) else none := by
  have unsigned : ∀ sign digits, Nat.toDigits 10 value = sign :: digits → sign.isDigit := by
    intro sign digits split
    exact Nat.isDigit_of_mem_toDigits (by decide) (by decide) (split ▸ List.mem_cons_self)
  unfold toIntOrNull
  split
  · next digits split => exact absurd (unsigned _ _ split) (by decide)
  · next digits split => exact absurd (unsigned _ _ split) (by decide)
  · rw [magnitude_toDigits, Option.map_some, Option.filter_some]
    have fits : (-2 ^ 31 ≤ Int.ofNat value ∧ Int.ofNat value < 2 ^ 31) ↔ value < 2 ^ 31 := by
      simp only [Int.ofNat_eq_natCast]
      omega
    simp only [fits, decide_eq_true_eq]
    rfl

theorem toIntOrNull_toDigits {value : Nat} (small : value < 2 ^ 31) :
    toIntOrNull (Nat.toDigits 10 value) = some (value : Int) := by
  rw [toIntOrNull_toDigits_eq, if_pos small]

/-- A text is cut at the first separator in one way only. -/
theorem cut_unique {separator : Char} {before other after rest : List Char}
    (absent : separator ∉ before) (absentToo : separator ∉ other)
    (same : before ++ separator :: after = other ++ separator :: rest) :
    before = other ∧ after = rest := by
  induction before generalizing other with
  | nil =>
      cases other with
      | nil => exact ⟨rfl, List.tail_eq_of_cons_eq same⟩
      | cons char other =>
          rw [List.nil_append, List.cons_append, List.cons.injEq] at same
          exact absurd (same.1 ▸ List.mem_cons_self) absentToo
  | cons char before ih =>
      cases other with
      | nil =>
          rw [List.nil_append, List.cons_append, List.cons.injEq] at same
          exact absurd (same.1 ▸ List.mem_cons_self) absent
      | cons char' other =>
          rw [List.cons_append, List.cons_append, List.cons.injEq] at same
          obtain ⟨rfl, shorter⟩ := same
          obtain ⟨rfl, rfl⟩ := ih (List.not_mem_of_not_mem_cons absent)
            (List.not_mem_of_not_mem_cons absentToo) shorter
          exact ⟨rfl, rfl⟩

theorem not_mem_toDigits {char : Char} (other : char.isDigit = false) (value : Nat) :
    char ∉ Nat.toDigits 10 value := by
  intro member
  rw [Nat.isDigit_of_mem_toDigits (by decide) (by decide) member] at other
  cases other

theorem toDigits_injective {value other : Nat} (same : Nat.toDigits 10 value = Nat.toDigits 10 other) :
    value = other := by
  rw [← Nat.ofDigitChars_ten_toDigits (n := value), same, Nat.ofDigitChars_ten_toDigits]

/-- `toString()`: decimal digits behind the sign. -/
def toDecimal (value : Int) : List Char :=
  match value with
  | .ofNat value => Nat.toDigits 10 value
  | .negSucc value => '-' :: Nat.toDigits 10 (value + 1)

theorem toList_toString (value : Int) : (toString value).toList = toDecimal value := by
  cases value with
  | ofNat value => exact Nat.toList_repr
  | negSucc value => exact (String.toList_append ..).trans (congrArg ('-' :: ·) Nat.toList_repr)

/-- A number ends at the first minus that is not its sign. -/
theorem cut_decimal {value other : Int} {after rest : List Char}
    (same : toDecimal value ++ '-' :: after = toDecimal other ++ '-' :: rest) :
    value = other ∧ after = rest := by
  have dash : ∀ value, '-' ∉ Nat.toDigits 10 value := not_mem_toDigits (by decide)
  have unsigned : ∀ (value : Nat) after rest, Nat.toDigits 10 value ++ '-' :: after ≠ '-' :: rest := by
    intro value after rest starts
    cases digits : Nat.toDigits 10 value with
    | nil => exact Nat.toDigits_ne_nil digits
    | cons digit digits' =>
        rw [digits, List.cons_append, List.cons.injEq] at starts
        exact dash value (digits ▸ starts.1 ▸ List.mem_cons_self)
  cases value with
  | ofNat value =>
      cases other with
      | ofNat other =>
          obtain ⟨digits, rfl⟩ := cut_unique (dash _) (dash _) same
          exact ⟨congrArg Int.ofNat (toDigits_injective digits), rfl⟩
      | negSucc other => exact absurd same (unsigned value after _)
  | negSucc value =>
      cases other with
      | ofNat other => exact absurd same.symm (unsigned other rest _)
      | negSucc other =>
          obtain ⟨digits, rfl⟩ := cut_unique (dash _) (dash _) (List.tail_eq_of_cons_eq same)
          exact ⟨congrArg Int.negSucc (Nat.succ.inj (toDigits_injective digits)), rfl⟩

theorem toDecimal_injective {value other : Int} (same : toDecimal value = toDecimal other) :
    value = other := by
  have ended : toDecimal value ++ ['-'] = toDecimal other ++ ['-'] := by rw [same]
  exact (cut_decimal ended).1

/-! Parts joined with a separator. -/

section Joined

variable {word separator : List Char}

theorem infix_behind_separator (nonempty : word ≠ []) (apart : ∀ char ∈ word, char ∉ separator)
    {rest : List Char} : word <:+: separator ++ rest ↔ word <:+: rest := by
  rw [List.infix_append_iff_ne_nil]
  constructor
  · rintro (within | behind | ⟨first, second, some, -, rfl, ends, -⟩)
    · obtain ⟨char, member⟩ := List.exists_mem_of_ne_nil word nonempty
      exact absurd (within.subset member) (apart char member)
    · exact behind
    · obtain ⟨char, member⟩ := List.exists_mem_of_ne_nil first some
      exact absurd (ends.subset member) (apart char (List.mem_append_left _ member))
  · exact fun behind => .inr (.inl behind)

theorem infix_around_separator (nonempty : word ≠ []) (apart : ∀ char ∈ word, char ∉ separator)
    (separates : separator ≠ []) {text rest : List Char} :
    word <:+: text ++ (separator ++ rest) ↔ word <:+: text ∨ word <:+: rest := by
  rw [List.infix_append_iff_ne_nil, infix_behind_separator nonempty apart, ← or_assoc, or_iff_left]
  rintro ⟨first, second, -, some, rfl, -, starts⟩
  obtain ⟨head, separator, rfl⟩ := List.exists_cons_of_ne_nil separates
  obtain ⟨char, second, rfl⟩ := List.exists_cons_of_ne_nil some
  obtain ⟨rfl, -⟩ := List.cons_prefix_cons.mp starts
  exact apart char (List.mem_append_right _ List.mem_cons_self) List.mem_cons_self

/-- A word that shares no character with the separator stands within one part. -/
theorem infix_intercalate_iff (nonempty : word ≠ []) (apart : ∀ char ∈ word, char ∉ separator)
    (separates : separator ≠ []) {parts : List (List Char)} :
    word <:+: separator.intercalate parts ↔ ∃ part ∈ parts, word <:+: part := by
  induction parts with
  | nil => simpa [List.intercalate] using nonempty
  | cons part parts ih =>
      cases parts with
      | nil => simp [List.intercalate]
      | cons other parts =>
          have joined : separator.intercalate (part :: other :: parts) =
              part ++ (separator ++ separator.intercalate (other :: parts)) := by
            simp [List.intercalate]
          rw [joined, infix_around_separator nonempty apart separates, ih]
          exact (List.exists_mem_cons_iff _ _ _).symm

end Joined

end Text
