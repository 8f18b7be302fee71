import FirewallVpn.Library.TextOrder
import FirewallVpn.Log.Dao
import Mathlib.Data.List.Basic

/-! Log entries by their age. `parseRealPacket` prints the day first, and the
queries of `BlockLogDao` sort by the text. -/

set_option autoImplicit false

namespace FirewallVpn

/-- The fields of `struct tm` that are printed. -/
structure LocalTime where
  year : Nat
  month : Nat
  day : Nat
  hour : Nat
  minute : Nat
  second : Nat
  monthRange : 1 ≤ month ∧ month ≤ 12
  dayRange : 1 ≤ day ∧ day ≤ 31
  hourRange : hour ≤ 23
  minuteRange : minute ≤ 59
  secondRange : second ≤ 60
  deriving DecidableEq

namespace LocalTime

/-- `%Y`. -/
def yearText (year : Nat) : List Char := (Nat.toDigits 10 year).leftpad 4 '0'

/-- `strftime` with `"%d/%m/%Y %H:%M:%S"`. -/
def timeStamp (time : LocalTime) : String :=
  String.ofList (Text.numeral 2 time.day ++ '/' :: (Text.numeral 2 time.month ++ '/' ::
    (yearText time.year ++ ' ' :: (Text.numeral 2 time.hour ++ ':' ::
      (Text.numeral 2 time.minute ++ ':' :: Text.numeral 2 time.second)))))

def date (time : LocalTime) : List Nat := [time.year, time.month, time.day]

def clock (time : LocalTime) : List Nat := [time.hour, time.minute, time.second]

/-- `time` is earlier than `other`. -/
def Before (time other : LocalTime) : Prop :=
  time.date < other.date ∨ time.date = other.date ∧ time.clock < other.clock

/-- The printed date of `time` sorts before that of `other`: by day, then by
month, and by year last. -/
def DatePrintedBefore (time other : LocalTime) : Prop :=
  [time.day, time.month] < [other.day, other.month] ∨
    [time.day, time.month] = [other.day, other.month] ∧ yearText time.year < yearText other.year

instance : DecidableRel DatePrintedBefore :=
  fun _ _ => inferInstanceAs (Decidable (_ ∨ _ ∧ _))

private theorem ofDigitChars_zeros (count : Nat) (digits : List Char) :
    Nat.ofDigitChars 10 (List.replicate count '0' ++ digits) 0 = Nat.ofDigitChars 10 digits 0 := by
  induction count with
  | zero => rfl
  | succ count ih =>
      rw [List.replicate_succ, List.cons_append, Nat.ofDigitChars_cons]
      exact ih

theorem yearText_inj {year other : Nat} : yearText year = yearText other ↔ year = other := by
  have read : ∀ year, Nat.ofDigitChars 10 (yearText year) 0 = year := by
    intro year
    rw [yearText, List.leftpad, ofDigitChars_zeros, Nat.ofDigitChars_ten_toDigits]
  refine ⟨fun same => ?_, fun same => by rw [same]⟩
  rw [← read year, same, read]

private theorem blank_lt_yearText (year : Nat) : ∀ char ∈ yearText year, ' ' < char := by
  intro char member
  rw [yearText, List.leftpad, List.mem_append] at member
  rcases member with zero | digit
  · rw [(List.mem_replicate.mp zero).2]
    decide
  · have isDigit := Nat.isDigit_of_mem_toDigits (by decide) (by decide) digit
    simp only [Char.isDigit, Bool.and_eq_true, decide_eq_true_eq] at isDigit
    exact lt_of_lt_of_le (by decide : ' ' < '0') isDigit.1

section Order

variable {time other : LocalTime}

private theorem two_digits (time : LocalTime) :
    time.day < 10 ^ 2 ∧ time.month < 10 ^ 2 ∧ time.hour < 10 ^ 2 ∧ time.minute < 10 ^ 2 ∧
      time.second < 10 ^ 2 := by
  have month := time.monthRange
  have day := time.dayRange
  have hour := time.hourRange
  have minute := time.minuteRange
  have second := time.secondRange
  omega

private theorem nested_iff {day month year sameDay sameMonth sameYear clock : Prop} :
    day ∨ sameDay ∧ (month ∨ sameMonth ∧ (year ∨ sameYear ∧ clock)) ↔
      ((day ∨ sameDay ∧ month) ∨ (sameDay ∧ sameMonth) ∧ year) ∨
        (sameYear ∧ sameMonth ∧ sameDay) ∧ clock := by
  tauto

/-- The texts sort by the printed dates, and within one date by the clock. -/
theorem timeStamp_lt_iff :
    time.timeStamp < other.timeStamp ↔
      time.DatePrintedBefore other ∨ time.date = other.date ∧ time.clock < other.clock := by
  obtain ⟨day, month, hour, minute, second⟩ := two_digits time
  obtain ⟨otherDay, otherMonth, otherHour, otherMinute, otherSecond⟩ := two_digits other
  have width : ∀ value value', (Text.numeral 2 value).length = (Text.numeral 2 value').length := by
    simp
  rw [String.lt_iff_toList_lt, timeStamp, timeStamp, String.toList_ofList, String.toList_ofList,
    Text.append_lt_append_iff (width _ _), Text.numeral_lt_iff day otherDay,
    Text.numeral_inj day otherDay, List.cons_lt_cons_iff, Text.append_lt_append_iff (width _ _),
    Text.numeral_lt_iff month otherMonth, Text.numeral_inj month otherMonth,
    List.cons_lt_cons_iff,
    Text.separated_lt_iff (blank_lt_yearText _) (blank_lt_yearText _), yearText_inj,
    Text.append_lt_append_iff (width _ _), Text.numeral_lt_iff hour otherHour,
    Text.numeral_inj hour otherHour, List.cons_lt_cons_iff, Text.append_lt_append_iff (width _ _),
    Text.numeral_lt_iff minute otherMinute, Text.numeral_inj minute otherMinute,
    List.cons_lt_cons_iff, Text.numeral_lt_iff second otherSecond]
  simp only [DatePrintedBefore, date, clock, List.cons_lt_cons_iff, List.cons.injEq, lt_irrefl,
    false_or, true_and, and_true, and_false, or_false]
  exact nested_iff

private theorem printed_total (distinct : time.date ≠ other.date) :
    time.DatePrintedBefore other ∨ other.DatePrintedBefore time := by
  rcases lt_trichotomy [time.day, time.month] [other.day, other.month] with before | same | after
  · exact .inl (.inl before)
  · rcases lt_trichotomy (yearText time.year) (yearText other.year) with before | equal | after
    · exact .inl (.inr ⟨same, before⟩)
    · refine absurd ?_ distinct
      simp only [List.cons.injEq, and_true] at same
      rw [date, date, yearText_inj.mp equal, same.1, same.2]
    · exact .inr (.inr ⟨same.symm, after⟩)
  · exact .inr (.inl after)

/-- A text that sorts first of two is of the later time, unless the dates do not
sort as they follow one another. -/
theorem not_before_of_le (sorted : other.timeStamp ≤ time.timeStamp)
    (aligned : time.date < other.date → ¬ other.DatePrintedBefore time) : ¬ time.Before other := by
  rintro (earlier | ⟨same, earlier⟩)
  · have printed := (printed_total earlier.ne).resolve_right (aligned earlier)
    exact absurd (timeStamp_lt_iff.mpr (.inl printed)) (not_lt_of_ge sorted)
  · exact absurd (timeStamp_lt_iff.mpr (.inr ⟨same, earlier⟩)) (not_lt_of_ge sorted)

end Order

end LocalTime

namespace BlockLogTable

variable {table : BlockLogTable} {time : BlockLogEntity → LocalTime}

/-- Every timestamp of the table was printed from the local time of its entry. -/
def Stamped (table : BlockLogTable) (time : BlockLogEntity → LocalTime) : Prop :=
  ∀ row ∈ table.rows, row.blockLog.timestamp = (time row.blockLog).timeStamp

/-- What the queries are for: the most recent 100 entries stay, and the log screen
shows them from the newest to the oldest. -/
structure KeepsRecent (table : BlockLogTable) (time : BlockLogEntity → LocalTime) : Prop where
  number : table.deleteExtraLogs.rows.length = min table.rows.length 100
  recent : ∀ kept ∈ table.deleteExtraLogs.rows, ∀ deleted ∈ table.rows,
    deleted ∉ table.deleteExtraLogs.rows → ¬ (time kept.blockLog).Before (time deleted.blockLog)
  listed : table.getAllLogs.Pairwise fun newer older => ¬ (time newer).Before (time older)

/-- No two dates of the table are printed in another order than they follow one another. -/
def DatesAligned (table : BlockLogTable) (time : BlockLogEntity → LocalTime) : Prop :=
  ∀ row ∈ table.rows, ∀ other ∈ table.rows,
    (time row.blockLog).date < (time other.blockLog).date →
      ¬ (time other.blockLog).DatePrintedBefore (time row.blockLog)

theorem keepsRecent_of_aligned (stamped : Stamped table time) (aligned : DatesAligned table time) :
    KeepsRecent table time := by
  have ordered : ∀ row ∈ table.rows, ∀ other ∈ table.rows, row.sortsBefore other →
      ¬ (time row.blockLog).Before (time other.blockLog) := by
    intro row member other otherMember sorted
    rw [LogRow.sortsBefore, stamped row member, stamped other otherMember] at sorted
    exact LocalTime.not_before_of_le sorted (aligned row member other otherMember)
  refine ⟨length_deleteExtraLogs, fun kept keptMember deleted member gone => ?_, ?_⟩
  · have inTable := mem_newestFirst.mp (List.mem_of_mem_take (mem_deleteExtraLogs.mp keptMember))
    exact ordered kept inTable deleted member (kept_sortsBefore keptMember member gone)
  · rw [getAllLogs, List.pairwise_map]
    refine newestFirst_sorted.imp_of_mem fun first second sorted => ?_
    exact ordered _ (mem_newestFirst.mp first) _ (mem_newestFirst.mp second) sorted

theorem KeepsRecent.aligned (recent : KeepsRecent table time) (stamped : Stamped table time) :
    DatesAligned table time := by
  intro row member other otherMember earlier printed
  have distinct : row ≠ other := by
    rintro rfl
    exact lt_irrefl _ earlier
  have texts : other.blockLog.timestamp < row.blockLog.timestamp := by
    rw [stamped row member, stamped other otherMember, LocalTime.timeStamp_lt_iff]
    exact .inl printed
  have listed := recent.listed
  rw [getAllLogs, List.pairwise_map] at listed
  have impossible : table.newestFirst.Pairwise fun first second =>
      ¬ (first = row ∧ second = other) ∧ ¬ (first = other ∧ second = row) := by
    refine (newestFirst_sorted.and listed).imp ?_
    rintro first second ⟨sorted, notBefore⟩
    refine ⟨?_, ?_⟩
    · rintro ⟨rfl, rfl⟩
      exact notBefore (.inl earlier)
    · rintro ⟨rfl, rfl⟩
      exact absurd texts (not_lt_of_ge sorted)
  obtain ⟨leading, trailing, split⟩ := List.append_of_mem (mem_newestFirst.mpr member)
  have otherListed := mem_newestFirst.mpr otherMember
  rw [split] at impossible otherListed
  obtain ⟨-, later, across⟩ := List.pairwise_append.mp impossible
  rcases List.mem_append.mp otherListed with front | rear
  · exact (across other front row List.mem_cons_self).2 ⟨rfl, rfl⟩
  · have behind := (List.mem_cons.mp rear).resolve_left distinct.symm
    exact (List.rel_of_pairwise_cons later behind).1 ⟨rfl, rfl⟩

/-- The queries go by age exactly for the tables in which no date is followed by
one whose printed form sorts before its own. -/
theorem keepsRecent_iff (stamped : Stamped table time) :
    KeepsRecent table time ↔ DatesAligned table time :=
  ⟨fun recent => recent.aligned stamped, keepsRecent_of_aligned stamped⟩

end BlockLogTable

def logEntry (dstPort : Int) (timestamp : String) : BlockLogEntity where
  appName := "Mail"
  protocol := .tcp
  srcIp := "10.0.0.2"
  srcPort := 40000
  dstIp := "93.184.216.34"
  dstPort := dstPort
  timestamp := timestamp

/-- Ten o'clock on a day of 2025. -/
def tenOn (day month : Nat) (dayRange : 1 ≤ day ∧ day ≤ 31) (monthRange : 1 ≤ month ∧ month ≤ 12) :
    LocalTime where
  year := 2025
  month := month
  day := day
  hour := 10
  minute := 0
  second := 0
  monthRange := monthRange
  dayRange := dayRange
  hourRange := by decide
  minuteRange := by decide
  secondRange := by decide

def januaryThirtieth : LocalTime := tenOn 30 1 (by decide) (by decide)

def januaryLast : LocalTime := tenOn 31 1 (by decide) (by decide)

def februaryFirst : LocalTime := tenOn 1 2 (by decide) (by decide)

/-- Two entries, for the ports 80 and 443. -/
def twoEntries (first second : LocalTime) : BlockLogTable :=
  (BlockLogTable.empty.insert (logEntry 80 first.timeStamp)).insert (logEntry 443 second.timeStamp)

def entryTime (first second : LocalTime) (blockLog : BlockLogEntity) : LocalTime :=
  if blockLog.dstPort = 80 then first else second

theorem januaryEntries_keepRecent :
    (twoEntries januaryThirtieth januaryLast).KeepsRecent (entryTime januaryThirtieth januaryLast) :=
  (BlockLogTable.keepsRecent_iff (by unfold BlockLogTable.Stamped; decide +kernel)).mpr
    (by unfold BlockLogTable.DatesAligned; decide +kernel)

/-- The entry of the last of January is listed before the one of the first of February. -/
theorem februaryEntry_listed_last :
    ¬ ∀ (table : BlockLogTable) (time : BlockLogEntity → LocalTime),
      table.Stamped time → table.KeepsRecent time := by
  intro all
  have recent := all (twoEntries januaryLast februaryFirst) (entryTime januaryLast februaryFirst)
    (by unfold BlockLogTable.Stamped; decide +kernel)
  have listed : (twoEntries januaryLast februaryFirst).getAllLogs =
      [logEntry 80 januaryLast.timeStamp, logEntry 443 februaryFirst.timeStamp] := by
    decide +kernel
  have newest := recent.listed
  rw [listed] at newest
  exact List.rel_of_pairwise_cons newest List.mem_cons_self (.inl (by decide))

end FirewallVpn
