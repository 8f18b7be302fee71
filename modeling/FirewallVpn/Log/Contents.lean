import FirewallVpn.Library.Latest
import FirewallVpn.Log.Trimming
import Mathlib.Data.List.Perm.Basic

/-! What the log holds. The inserts are carried out in any order, each replaces the
row with its key, and a trim can only take rows away. -/

set_option autoImplicit false

namespace FirewallVpn

open Latest

namespace BlockLogTable

variable {table : BlockLogTable}

def entries (table : BlockLogTable) : List BlockLogEntity := table.rows.map LogRow.blockLog

theorem entries_insert (blockLog : BlockLogEntity) :
    (table.insert blockLog).entries =
      table.entries.filter (fun other => other.primaryKey ≠ blockLog.primaryKey) ++ [blockLog] := by
  rw [entries, insert, List.map_append, entries, List.filter_map]
  rfl

theorem entries_deleteExtraLogs : table.deleteExtraLogs.entries.Sublist table.entries :=
  List.filter_sublist.map _

theorem deleteExtraLogs_of_small (small : table.rows.length ≤ 100) :
    table.deleteExtraLogs.rows = table.rows := by
  refine List.filter_sublist.eq_of_length ?_
  have length : table.deleteExtraLogs.rows.length = min table.rows.length 100 :=
    length_deleteExtraLogs
  rw [Nat.min_eq_left small] at length
  exact length

theorem entries_keys :
    table.entries.map BlockLogEntity.primaryKey = table.rows.map LogRow.primaryKey := by
  simp only [entries, List.map_map]
  rfl

end BlockLogTable

namespace Log

def noteInsert (logging : Logging) (label : Label) (written : List BlockLogEntity) :
    List BlockLogEntity :=
  match label with
  | .insert index => written ++ (logging.pending[index]?).toList
  | .packet _ | .deleteExtraLogs | .deleteExtraLogsFails => written

/-- The entries of the packets with a known app, in the order of the packets. -/
def launched (labels : List Label) : List BlockLogEntity :=
  labels.filterMap fun
    | .packet traffic => if appUnknown traffic then none else some (.ofTraffic traffic)
    | .deleteExtraLogs | .deleteExtraLogsFails | .insert _ => none

/-- The log against the inserts carried out, `written`, on a table that held `stored`. -/
structure Contents (stored : List BlockLogEntity) (labels : List Label) (logging : Logging)
    (written : List BlockLogEntity) : Prop where
  accounted : (written ++ logging.pending).Perm (launched labels)
  newest : logging.table.entries.Sublist (latest BlockLogEntity.primaryKey (stored ++ written))
  complete : (latest BlockLogEntity.primaryKey (stored ++ written)).length ≤ 100 →
    logging.table.entries = latest BlockLogEntity.primaryKey (stored ++ written)

variable {stored written : List BlockLogEntity} {labels : List Label} {logging next : Logging}

theorem launched_append (labels others : List Label) :
    launched (labels ++ others) = launched labels ++ launched others :=
  List.filterMap_append

theorem Contents.trim (contents : Contents stored labels logging written) {loop : LoopStage} :
    Contents stored (labels ++ [.deleteExtraLogs])
      { logging with table := logging.table.deleteExtraLogs, loop } written := by
  obtain ⟨accounted, newest, complete⟩ := contents
  refine ⟨?_, BlockLogTable.entries_deleteExtraLogs.trans newest, fun few => ?_⟩
  · rw [launched_append]
    simpa [launched] using accounted
  · have all := complete few
    have small : logging.table.rows.length ≤ 100 := by
      rw [← all, BlockLogTable.entries, List.length_map] at few
      exact few
    rw [← all]
    exact congrArg (List.map LogRow.blockLog) (BlockLogTable.deleteExtraLogs_of_small small)

theorem Contents.insert (contents : Contents stored labels logging written) {index : Nat}
    {blockLog : BlockLogEntity} (located : logging.pending[index]? = some blockLog) :
    Contents stored (labels ++ [.insert index])
      { logging with
        table := logging.table.insert blockLog, pending := logging.pending.eraseIdx index }
      (written ++ [blockLog]) := by
  obtain ⟨accounted, newest, complete⟩ := contents
  refine ⟨?_, ?_, fun few => ?_⟩
  · rw [launched_append]
    obtain ⟨inside, rfl⟩ := List.getElem?_eq_some_iff.mp located
    have moved := (List.getElem_cons_eraseIdx_perm inside).append_left written
    simpa [launched] using moved.trans accounted
  · rw [BlockLogTable.entries_insert, ← List.append_assoc, latest_concat]
    exact (newest.filter _).append_right _
  · rw [← List.append_assoc] at few
    have fewer := (length_latest_le_concat (stored ++ written) blockLog).trans few
    rw [BlockLogTable.entries_insert, ← List.append_assoc, latest_concat, complete fewer]

theorem Contents.step {label : Label} (contents : Contents stored labels logging written)
    (taken : step logging label = some next) :
    Contents stored (labels ++ [label]) next (noteInsert logging label written) := by
  cases label with
  | packet traffic =>
      obtain ⟨accounted, newest, complete⟩ := contents
      simp only [Log.step] at taken
      split at taken
      · cases taken
      · split at taken <;> cases taken
        · next unknown =>
            refine ⟨?_, newest, complete⟩
            rw [launched_append]
            simpa [launched, noteInsert, unknown] using accounted
        · next known =>
            refine ⟨?_, newest, complete⟩
            rw [launched_append, logBlockedPacket, ← List.append_assoc]
            simpa [launched, noteInsert, known] using
              accounted.append_right [BlockLogEntity.ofTraffic traffic]
  | deleteExtraLogs =>
      simp only [Log.step] at taken
      split at taken <;> cases taken
      exact contents.trim
  | deleteExtraLogsFails =>
      obtain ⟨accounted, newest, complete⟩ := contents
      simp only [Log.step] at taken
      split at taken <;> cases taken
      refine ⟨?_, newest, complete⟩
      rw [launched_append]
      simpa [launched, noteInsert] using accounted
  | insert index =>
      obtain ⟨blockLog, located, rfl⟩ := Option.map_eq_some_iff.mp taken
      have noted : noteInsert logging (.insert index) written = written ++ [blockLog] := by
        simp [noteInsert, located]
      rw [noted]
      exact contents.insert located

theorem Contents.start {table : BlockLogTable} :
    Contents table.entries [] (idle table) [] := by
  have kept : latest BlockLogEntity.primaryKey table.entries = table.entries := by
    apply latest_eq_self
    rw [BlockLogTable.entries_keys]
    exact table.unique
  constructor
  · exact List.Perm.refl _
  · rw [List.append_nil, kept]
    exact List.Sublist.refl _
  · rw [List.append_nil, kept]
    exact fun _ => rfl

theorem Contents.run {before : List Label} {final : Logging} {all : List BlockLogEntity}
    (contents : Contents stored before logging written)
    (ran : Transition.run (Transition.observed Log.step noteInsert) (logging, written) labels =
      some (final, all)) :
    Contents stored (before ++ labels) final all := by
  refine Transition.run_history
    (fun more state => Contents stored (before ++ more) state.1 state.2) ?_ ?_ ran
  · intro more state label next known taken
    obtain ⟨logging, noted⟩ := state
    obtain ⟨next, notedNext⟩ := next
    obtain ⟨stepped, rfl⟩ := Transition.observed_iff.mp taken
    rw [← List.append_assoc]
    exact known.step stepped
  · rw [List.append_nil]
    exact contents

/-- In every run each packet with a known app is written once or its insert is pending;
every row is the one written last under its key, in the order of the writes; and as long
as there have been no more than 100 keys nothing else is missing from the log. -/
theorem contents_of_run {table : BlockLogTable}
    (ran : Transition.run (Transition.observed step noteInsert) (idle table, []) labels =
      some (logging, written)) :
    Contents table.entries labels logging written :=
  Contents.start.run ran

theorem onePacket_contents :
    ∃ logging written, Transition.run (Transition.observed step noteInsert) (idle .empty, [])
        onePacket = some (logging, written) ∧
      logging.table.entries = [.ofTraffic (packetTo 443)] := by
  have seen : (Transition.run (Transition.observed step noteInsert) (idle .empty, [])
      onePacket).map Prod.snd = some [.ofTraffic (packetTo 443)] := by
    decide +kernel
  obtain ⟨⟨logging, written⟩, ran, rfl⟩ := Option.map_eq_some_iff.mp seen
  exact ⟨logging, _, ran, (contents_of_run ran).complete (by decide +kernel)⟩

end Log

end FirewallVpn
