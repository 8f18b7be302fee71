import FirewallVpn.Library.Text

/-! JSON objects without nesting, whose values are texts and integers: how one is
printed by concatenation, and a reader for the part of the grammar in which every
character of a text stands for itself. -/

set_option autoImplicit false

namespace FlatJson

inductive Value where
  | text (chars : List Char)
  | number (value : Int)
  deriving DecidableEq

abbrev Member := List Char × Value

/-!
## Printing
-/

def quoted (chars : List Char) : List Char := '"' :: (chars ++ ['"'])

def Value.print : Value → List Char
  | .text chars => quoted chars
  | .number value => Text.toDecimal value

def printMember (member : Member) : List Char := quoted member.1 ++ ':' :: member.2.print

def print (members : List Member) : List Char :=
  '{' :: ([','].intercalate (members.map printMember) ++ ['}'])

/-!
## Reading
-/

/-- The character stands for itself between quotation marks. -/
def plain (char : Char) : Bool := char ≠ '"' && char ≠ '\\' && 0x20 ≤ char.toNat

/-- A text up to its closing quotation mark, and what follows. -/
def readText : List Char → Option (List Char × List Char)
  | [] => none
  | char :: rest =>
      if char = '"' then some ([], rest)
      else if plain char then (readText rest).map fun (chars, rest) => (char :: chars, rest)
      else none

/-- Digits as far as they go; no number but zero begins with zero. -/
def readDigits (chars : List Char) : Option (Nat × List Char) :=
  let digits := chars.takeWhile Char.isDigit
  if digits = [] ∨ (digits.head? = some '0' ∧ digits.length ≠ 1) then none
  else some (Nat.ofDigitChars 10 digits 0, chars.dropWhile Char.isDigit)

def readNumber : List Char → Option (Int × List Char)
  | '-' :: chars => (readDigits chars).map fun (value, rest) => (-value, rest)
  | chars => (readDigits chars).map fun (value, rest) => (value, rest)

def readValue : List Char → Option (Value × List Char)
  | '"' :: chars => (readText chars).map fun (chars, rest) => (.text chars, rest)
  | chars => (readNumber chars).map fun (value, rest) => (.number value, rest)

def readMember : List Char → Option (Member × List Char)
  | '"' :: chars => do
      let (name, rest) ← readText chars
      match rest with
      | ':' :: rest =>
          let (value, rest) ← readValue rest
          return ((name, value), rest)
      | _ => none
  | _ => none

/-- The members behind an opening brace or a comma; each takes up one unit of fuel. -/
def readMembers : Nat → List Char → Option (List Member)
  | 0, _ => none
  | fuel + 1, chars => do
      let (member, rest) ← readMember chars
      match rest with
      | ['}'] => return [member]
      | ',' :: rest => return member :: (← readMembers fuel rest)
      | _ => none

def read : List Char → Option (List Member)
  | ['{', '}'] => some []
  | '{' :: rest => readMembers rest.length rest
  | _ => none

/-!
## What is printed is read
-/

def Value.plain : Value → Bool
  | .text chars => chars.all FlatJson.plain
  | .number _ => true

/-- No character of the texts has to be escaped. -/
def Plain (members : List Member) : Prop :=
  ∀ member ∈ members, member.1.all plain ∧ member.2.plain

instance (members : List Member) : Decidable (Plain members) :=
  inferInstanceAs (Decidable (∀ member ∈ members, _))

theorem readText_quoted {chars : List Char} (unescaped : chars.all plain) (rest : List Char) :
    readText (chars ++ '"' :: rest) = some (chars, rest) := by
  induction chars with
  | nil => rfl
  | cons char chars ih =>
      obtain ⟨stands, others⟩ := Bool.and_eq_true_iff.mp (List.all_cons ▸ unescaped)
      have notMark : char ≠ '"' := by
        rintro rfl
        exact absurd stands (by decide)
      rw [List.cons_append, readText, if_neg notMark, if_pos stands, ih others]
      rfl

def NoDigit (rest : List Char) : Prop := ∀ char ∈ rest.head?, char.isDigit = false

private theorem takeWhile_digits {digits rest : List Char} (all : ∀ char ∈ digits, char.isDigit)
    (ended : NoDigit rest) :
    (digits ++ rest).takeWhile Char.isDigit = digits ∧
      (digits ++ rest).dropWhile Char.isDigit = rest := by
  have stops : rest.takeWhile Char.isDigit = [] ∧ rest.dropWhile Char.isDigit = rest := by
    cases rest with
    | nil => exact ⟨rfl, rfl⟩
    | cons char rest =>
        have other := ended char rfl
        simp [other]
  rw [List.takeWhile_append_of_pos all, List.dropWhile_append_of_pos all, stops.1, stops.2,
    List.append_nil]
  exact ⟨rfl, rfl⟩

private theorem head_toDigits {value : Nat} (positive : value ≠ 0) :
    (Nat.toDigits 10 value).head? ≠ some '0' := by
  induction value using Nat.strongRecOn with
  | ind value ih =>
      by_cases single : value < 10
      · have notZero : ∀ digit < 10, digit ≠ 0 → ([digit.digitChar] : List Char).head? ≠ some '0' := by
          decide
        rw [Nat.toDigits_of_lt_base single]
        exact notZero value single positive
      · have several : 10 ≤ value := Nat.le_of_not_lt single
        rw [Nat.toDigits_of_base_le (by decide) several,
          List.head?_append_of_ne_nil _ Nat.toDigits_ne_nil]
        exact ih (value / 10) (by omega) (by omega)

theorem readDigits_toDigits (value : Nat) {rest : List Char} (ended : NoDigit rest) :
    readDigits (Nat.toDigits 10 value ++ rest) = some (value, rest) := by
  have digits : ∀ char ∈ Nat.toDigits 10 value, char.isDigit :=
    fun _ member => Nat.isDigit_of_mem_toDigits (by decide) (by decide) member
  obtain ⟨taken, left⟩ := takeWhile_digits digits ended
  have canonical : ¬ ((Nat.toDigits 10 value).head? = some '0' ∧
      (Nat.toDigits 10 value).length ≠ 1) := by
    intro padded
    obtain ⟨zero, long⟩ := padded
    by_cases positive : value = 0
    · subst positive
      exact long rfl
    · exact head_toDigits positive zero
  simp only [readDigits, taken, left, canonical, Nat.toDigits_ne_nil, or_self, if_false,
    Nat.ofDigitChars_ten_toDigits]

theorem readNumber_toDecimal (value : Int) {rest : List Char} (ended : NoDigit rest) :
    readNumber (Text.toDecimal value ++ rest) = some (value, rest) := by
  cases value with
  | ofNat value =>
      have unsigned : ∀ chars, Text.toDecimal (.ofNat value) ++ rest ≠ '-' :: chars := by
        intro chars starts
        cases digits : Nat.toDigits 10 value with
        | nil => exact Nat.toDigits_ne_nil digits
        | cons digit others =>
            simp only [Text.toDecimal, digits, List.cons_append, List.cons.injEq] at starts
            exact Text.not_mem_toDigits (by decide : '-'.isDigit = false) value
              (digits ▸ starts.1 ▸ List.mem_cons_self)
      rw [readNumber.eq_2 _ unsigned, Text.toDecimal, readDigits_toDigits value ended]
      rfl
  | negSucc value =>
      rw [Text.toDecimal, List.cons_append, readNumber, readDigits_toDigits (value + 1) ended]
      rfl

/-- What a value is printed as begins with a quotation mark, a sign or a digit. -/
theorem readValue_print {value : Value} (unescaped : value.plain) {rest : List Char}
    (ended : NoDigit rest) : readValue (value.print ++ rest) = some (value, rest) := by
  cases value with
  | text chars =>
      rw [Value.print, quoted, List.cons_append, List.append_assoc, List.singleton_append, readValue,
        readText_quoted unescaped]
      rfl
  | number value =>
      have unquoted : ∀ chars, Text.toDecimal value ++ rest ≠ '"' :: chars := by
        intro chars starts
        cases value with
        | ofNat value =>
            cases digits : Nat.toDigits 10 value with
            | nil => exact Nat.toDigits_ne_nil digits
            | cons digit others =>
                simp only [Text.toDecimal, digits, List.cons_append, List.cons.injEq] at starts
                exact Text.not_mem_toDigits (by decide : '"'.isDigit = false) value
                  (digits ▸ starts.1 ▸ List.mem_cons_self)
        | negSucc value =>
            simp only [Text.toDecimal, List.cons_append, List.cons.injEq] at starts
            exact absurd starts.1 (by decide)
      rw [Value.print, readValue.eq_2 _ unquoted, readNumber_toDecimal value ended]
      rfl

theorem readMember_print {member : Member} (unescaped : member.1.all plain ∧ member.2.plain)
    {rest : List Char} (ended : NoDigit rest) :
    readMember (printMember member ++ rest) = some (member, rest) := by
  have laidOut : printMember member ++ rest =
      '"' :: (member.1 ++ '"' :: ':' :: (member.2.print ++ rest)) := by
    simp [printMember, quoted]
  rw [laidOut, readMember, readText_quoted unescaped.1]
  simp [readValue_print unescaped.2 ended]

private theorem noDigit_cons {char : Char} (other : char.isDigit = false) (rest : List Char) :
    NoDigit (char :: rest) := by
  intro first found
  cases found
  exact other

theorem readMembers_print {members : List Member} (unescaped : Plain members)
    (filled : members ≠ []) {fuel : Nat} (enough : members.length ≤ fuel) :
    readMembers fuel ([','].intercalate (members.map printMember) ++ ['}']) = some members := by
  induction members generalizing fuel with
  | nil => exact absurd rfl filled
  | cons member members ih =>
      obtain ⟨fuel, rfl⟩ := Nat.exists_eq_add_one_of_ne_zero (Nat.ne_of_gt (Nat.lt_of_lt_of_le
        (Nat.zero_lt_succ members.length) enough))
      obtain ⟨first, others⟩ := List.forall_mem_cons.mp unescaped
      cases members with
      | nil =>
          have laidOut : [','].intercalate ([member].map printMember) ++ ['}'] =
              printMember member ++ ['}'] := by
            simp [List.intercalate]
          rw [laidOut, readMembers, readMember_print first (noDigit_cons (by decide) _)]
          rfl
      | cons next members =>
          have laidOut : [','].intercalate ((member :: next :: members).map printMember) ++ ['}'] =
              printMember member ++
                ',' :: ([','].intercalate ((next :: members).map printMember) ++ ['}']) := by
            simp [List.intercalate]
          have shorter : (next :: members).length ≤ fuel := Nat.le_of_succ_le_succ enough
          have rested := ih others (List.cons_ne_nil _ _) shorter
          rw [laidOut, readMembers, readMember_print first (noDigit_cons (by decide) _)]
          simp only [Option.bind_eq_bind, Option.bind_some, rested, Option.pure_def]

private theorem length_le_intercalate (members : List Member) :
    members.length ≤ ([','].intercalate (members.map printMember)).length := by
  induction members with
  | nil => exact Nat.zero_le _
  | cons member members ih =>
      have long : 1 ≤ (printMember member).length := by
        simp [printMember, quoted]
      cases members with
      | nil => simpa [List.intercalate] using long
      | cons next members =>
          simp only [List.intercalate, List.map_cons, List.intersperse_cons_cons, List.flatten_cons,
            List.length_append, List.length_cons] at ih ⊢
          omega

/-- A printed object is read as what it was printed from. -/
theorem read_print {members : List Member} (unescaped : Plain members) :
    read (print members) = some members := by
  cases members with
  | nil => rfl
  | cons member members =>
      have notEmpty : ∀ (text : List Char), print (member :: members) = '{' :: text → text ≠ ['}'] := by
        intro text same empty
        have long := length_le_intercalate (member :: members)
        subst empty
        have lengths := congrArg List.length same
        simp only [print, List.length_cons, List.length_append, List.length_nil] at lengths long
        omega
      have enough : (member :: members).length ≤
          ([','].intercalate ((member :: members).map printMember) ++ ['}']).length := by
        rw [List.length_append]
        exact Nat.le_add_right_of_le (length_le_intercalate (member :: members))
      rw [print, read.eq_2 _ (fun ended => notEmpty _ rfl ended)]
      exact readMembers_print unescaped (List.cons_ne_nil _ _) enough

end FlatJson
