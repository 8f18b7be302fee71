import FirewallVpn.Library.Text

/-! Lines of columns with runs of blanks between them: what `trim` and `splitBlanks`
read from such a line, and where a word of it can stand. -/

set_option autoImplicit false

namespace Text

structure IsColumn (column : List Char) : Prop where
  nonempty : column ≠ []
  unbroken : ∀ char ∈ column, isWhitespace char = false

instance (column : List Char) : Decidable (IsColumn column) :=
  decidable_of_iff (column ≠ [] ∧ column.all fun char => !isWhitespace char)
    ⟨fun ⟨nonempty, unbroken⟩ => ⟨nonempty, by simpa using unbroken⟩,
      fun isColumn => ⟨isColumn.nonempty, by simpa using isColumn.unbroken⟩⟩

def IsGap (gap : List Char) : Prop := ∀ char ∈ gap, isBlank char

/-- The columns in order, from the first character to the last. -/
inductive Spaced : List (List Char) → List Char → Prop where
  | single {column} (isColumn : IsColumn column) : Spaced [column] column
  | cons {column gap columns text} (isColumn : IsColumn column) (isGap : IsGap gap)
      (separates : gap ≠ []) (rest : Spaced columns text) :
      Spaced (column :: columns) (column ++ (gap ++ text))

/-- A line of these columns; blanks may also stand around them. -/
def LaidOut (columns : List (List Char)) (line : List Char) : Prop :=
  ∃ lead text trail, IsGap lead ∧ IsGap trail ∧ Spaced columns text ∧ line = lead ++ (text ++ trail)

theorem isWhitespace_of_isBlank {char : Char} (blank : isBlank char) : isWhitespace char := by
  simp [isWhitespace, blank]

theorem isBlank_of_not_isWhitespace {char : Char} (solid : isWhitespace char = false) :
    isBlank char = false :=
  Bool.eq_false_iff.mpr fun blank => nomatch (isWhitespace_of_isBlank blank).symm.trans solid

theorem IsColumn.starts {column : List Char} (isColumn : IsColumn column) :
    ∃ char rest, column = char :: rest ∧ isWhitespace char = false := by
  cases column with
  | nil => exact absurd rfl isColumn.nonempty
  | cons char rest => exact ⟨char, rest, rfl, isColumn.unbroken char List.mem_cons_self⟩

theorem IsColumn.ends {column : List Char} (isColumn : IsColumn column) :
    ∃ before char, column = before ++ [char] ∧ isWhitespace char = false := by
  have split := List.dropLast_append_getLast isColumn.nonempty
  exact ⟨_, _, split.symm, isColumn.unbroken _ (List.getLast_mem isColumn.nonempty)⟩

theorem Spaced.starts {columns : List (List Char)} {text : List Char} (spaced : Spaced columns text) :
    ∃ char rest, text = char :: rest ∧ isWhitespace char = false := by
  cases spaced with
  | single isColumn => exact isColumn.starts
  | cons isColumn =>
      obtain ⟨char, rest, rfl, solid⟩ := isColumn.starts
      exact ⟨char, _, rfl, solid⟩

theorem Spaced.ends {columns : List (List Char)} {text : List Char} (spaced : Spaced columns text) :
    ∃ before char, text = before ++ [char] ∧ isWhitespace char = false := by
  induction spaced with
  | single isColumn => exact isColumn.ends
  | @cons column gap columns text isColumn isGap separates rest ih =>
      obtain ⟨before, char, rfl, solid⟩ := ih
      exact ⟨column ++ (gap ++ before), char, by simp only [List.append_assoc], solid⟩

private theorem dropWhile_gap {gap text : List Char} (isGap : IsGap gap)
    (starts : ∃ char rest, text = char :: rest ∧ isWhitespace char = false) :
    (gap ++ text).dropWhile isWhitespace = text := by
  obtain ⟨char, rest, rfl, solid⟩ := starts
  rw [List.dropWhile_append_of_pos fun char member => isWhitespace_of_isBlank (isGap char member)]
  exact List.dropWhile_cons_of_neg (by rw [solid]; exact Bool.false_ne_true)

theorem trim_spaced {columns : List (List Char)} {lead text trail : List Char}
    (spaced : Spaced columns text) (isLead : IsGap lead) (isTrail : IsGap trail) :
    trim (lead ++ (text ++ trail)) = text := by
  have starts : ∃ char rest, text ++ trail = char :: rest ∧ isWhitespace char = false := by
    obtain ⟨char, rest, rfl, solid⟩ := spaced.starts
    exact ⟨char, rest ++ trail, rfl, solid⟩
  have ends : ∃ char rest, text.reverse = char :: rest ∧ isWhitespace char = false := by
    obtain ⟨before, char, rfl, solid⟩ := spaced.ends
    exact ⟨char, before.reverse, List.reverse_concat .., solid⟩
  have isTrailReversed : IsGap trail.reverse :=
    fun char member => isTrail char (List.mem_reverse.mp member)
  rw [trim, dropWhile_gap isLead starts, List.reverse_append, dropWhile_gap isTrailReversed ends,
    List.reverse_reverse]

theorem splitBlanks_append {column : List Char} (isColumn : ∀ char ∈ column, isBlank char = false)
    (rest : List Char) :
    splitBlanks (column ++ rest) = (splitBlanks rest).modifyHead (column ++ ·) := by
  induction column with
  | nil =>
      rw [List.nil_append]
      cases splitBlanks rest <;> rfl
  | cons char column ih =>
      obtain ⟨solid, others⟩ := List.forall_mem_cons.mp isColumn
      rw [List.cons_append, splitBlanks, solid, ih others]
      cases splitBlanks rest <;> rfl

theorem splitBlanks_gap {gap text : List Char} (isGap : IsGap gap) (separates : gap ≠ [])
    (starts : ∃ char rest, text = char :: rest ∧ isWhitespace char = false) :
    splitBlanks (gap ++ text) = [] :: splitBlanks text := by
  induction gap with
  | nil => exact absurd rfl separates
  | cons char gap ih =>
      obtain ⟨blank, others⟩ := List.forall_mem_cons.mp isGap
      rw [List.cons_append, splitBlanks, if_pos blank]
      cases gap with
      | nil =>
          obtain ⟨first, rest, rfl, solid⟩ := starts
          rw [List.nil_append, if_neg]
          simp [isBlank_of_not_isWhitespace solid]
      | cons next gap =>
          rw [if_pos]
          · exact ih others (List.cons_ne_nil _ _)
          · exact others next List.mem_cons_self

theorem Spaced.splitBlanks {columns : List (List Char)} {text : List Char}
    (spaced : Spaced columns text) : splitBlanks text = columns := by
  induction spaced with
  | @single column isColumn =>
      have split := splitBlanks_append
        (fun char member => isBlank_of_not_isWhitespace (isColumn.unbroken char member)) []
      rw [List.append_nil] at split
      rw [split, Text.splitBlanks, List.modifyHead_cons, List.append_nil]
  | @cons column gap columns text isColumn isGap separates rest ih =>
      rw [splitBlanks_append fun char member => isBlank_of_not_isWhitespace (isColumn.unbroken char member),
        splitBlanks_gap isGap separates rest.starts, ih, List.modifyHead_cons, List.append_nil]

theorem laidOut_intercalate {columns : List (List Char)} (nonempty : columns ≠ [])
    (all : ∀ column ∈ columns, IsColumn column) : LaidOut columns ([' '].intercalate columns) := by
  have noGap : IsGap [] := List.forall_mem_nil _
  refine ⟨[], _, [], noGap, noGap, ?_, by rw [List.nil_append, List.append_nil]⟩
  induction columns with
  | nil => exact absurd rfl nonempty
  | cons column columns ih =>
      obtain ⟨isColumn, others⟩ := List.forall_mem_cons.mp all
      cases columns with
      | nil =>
          rw [List.intercalate_singleton]
          exact .single isColumn
      | cons next columns =>
          rw [List.intercalate_cons_cons, List.append_assoc]
          refine .cons isColumn (List.forall_mem_singleton.mpr rfl) (List.cons_ne_nil _ _) ?_
          exact ih (List.cons_ne_nil _ _) others

theorem LaidOut.columns {columns : List (List Char)} {line : List Char} (laidOut : LaidOut columns line) :
    Text.splitBlanks (trim line) = columns := by
  obtain ⟨lead, text, trail, isLead, isTrail, spaced, rfl⟩ := laidOut
  rw [trim_spaced spaced isLead isTrail, spaced.splitBlanks]

/-! A word without blanks stands within one column. -/

section Word

variable {word : List Char}

private theorem infix_before_gap (unbroken : ∀ char ∈ word, isBlank char = false) {text behind : List Char}
    (blanks : behind = [] ∨ ∃ char rest, behind = char :: rest ∧ isBlank char) :
    word <:+: text ++ behind ↔ word <:+: text ∨ word <:+: behind := by
  rw [List.infix_append_iff]
  constructor
  · rintro (before | after | ⟨first, second, rfl, ends, starts⟩)
    · exact .inl before
    · exact .inr after
    · cases second with
      | nil =>
          rw [List.append_nil]
          exact .inl ends.isInfix
      | cons char second =>
          rcases blanks with rfl | ⟨blank, rest, rfl, isBlank⟩
          · cases List.prefix_nil.mp starts
          · obtain ⟨rfl, -⟩ := List.cons_prefix_cons.mp starts
            rw [unbroken char (List.mem_append_right _ List.mem_cons_self)] at isBlank
            cases isBlank
  · rintro (before | after)
    · exact .inl before
    · exact .inr (.inl after)

private theorem infix_behind_gap (nonempty : word ≠ []) (unbroken : ∀ char ∈ word, isBlank char = false)
    {gap text : List Char} (isGap : IsGap gap) : word <:+: gap ++ text ↔ word <:+: text := by
  induction gap with
  | nil => rfl
  | cons char gap ih =>
      obtain ⟨blank, others⟩ := List.forall_mem_cons.mp isGap
      rw [List.cons_append, List.infix_cons_iff, ih others, or_iff_right]
      intro starts
      cases word with
      | nil => exact nonempty rfl
      | cons first word =>
          obtain ⟨rfl, -⟩ := List.cons_prefix_cons.mp starts
          rw [unbroken first List.mem_cons_self] at blank
          cases blank

theorem Spaced.infix_iff (nonempty : word ≠ []) (unbroken : ∀ char ∈ word, isBlank char = false)
    {columns : List (List Char)} {text : List Char} (spaced : Spaced columns text) :
    word <:+: text ↔ ∃ column ∈ columns, word <:+: column := by
  induction spaced with
  | single => simp
  | @cons column gap columns text isColumn isGap separates rest ih =>
      have blanks : ∃ char rest, gap ++ text = char :: rest ∧ isBlank char := by
        cases gap with
        | nil => exact absurd rfl separates
        | cons char gap => exact ⟨char, gap ++ text, rfl, isGap char List.mem_cons_self⟩
      rw [infix_before_gap unbroken (.inr blanks), infix_behind_gap nonempty unbroken isGap, ih,
        List.exists_mem_cons_iff]

theorem LaidOut.infix_iff (nonempty : word ≠ []) (unbroken : ∀ char ∈ word, isBlank char = false)
    {columns : List (List Char)} {line : List Char} (laidOut : LaidOut columns line) :
    word <:+: line ↔ ∃ column ∈ columns, word <:+: column := by
  obtain ⟨lead, text, trail, isLead, isTrail, spaced, rfl⟩ := laidOut
  have blanks : trail = [] ∨ ∃ char rest, trail = char :: rest ∧ isBlank char := by
    cases trail with
    | nil => exact .inl rfl
    | cons char trail => exact .inr ⟨char, trail, rfl, isTrail char List.mem_cons_self⟩
  have outside : ¬ word <:+: trail := by
    rw [← List.append_nil trail, infix_behind_gap nonempty unbroken isTrail]
    exact fun inside => nonempty (List.infix_nil.mp inside)
  rw [infix_behind_gap nonempty unbroken isLead, infix_before_gap unbroken blanks, or_iff_left outside,
    spaced.infix_iff nonempty unbroken]

end Word

/-- Where a word that holds the separator stands in a text that holds it once. -/
theorem infix_cut {separator : Char} {before after left right : List Char} (absent : separator ∉ left)
    (absentToo : separator ∉ right)
    (inside : before ++ separator :: after <:+: left ++ separator :: right) :
    before <:+ left ∧ after <+: right := by
  obtain ⟨lead, trail, split⟩ := inside
  have same : (lead ++ before) ++ separator :: (after ++ trail) = left ++ separator :: right := by
    simpa only [List.append_assoc, List.cons_append] using split
  have counted := congrArg (List.count separator) same
  have leftCount := List.count_eq_zero.mpr absent
  have rightCount := List.count_eq_zero.mpr absentToo
  simp only [List.count_append, List.count_cons_self] at counted
  have notBefore : separator ∉ lead ++ before := by
    rw [← List.count_eq_zero, List.count_append]
    omega
  obtain ⟨rfl, rfl⟩ := cut_unique notBefore absent same
  exact ⟨List.suffix_append _ _, List.prefix_append _ _⟩

end Text
