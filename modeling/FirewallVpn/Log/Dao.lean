import FirewallVpn.Native.Layer
import Mathlib.Data.List.Nodup
import Mathlib.Data.List.Sort
import Mathlib.Data.String.Basic

/-! The table `block_log` and the queries of `BlockLogDao` that the service and
the log screen use. -/

set_option autoImplicit false

namespace FirewallVpn

structure BlockLogEntity where
  appName : String
  protocol : ProtocolByte
  srcIp : String
  srcPort : Int
  dstIp : String
  dstPort : Int
  timestamp : String
  deriving DecidableEq, Repr

structure BlockLogKey where
  appName : String
  protocol : ProtocolByte
  dstIp : String
  dstPort : Int
  deriving DecidableEq, Repr

def BlockLogEntity.primaryKey (blockLog : BlockLogEntity) : BlockLogKey :=
  ⟨blockLog.appName, blockLog.protocol, blockLog.dstIp, blockLog.dstPort⟩

structure LogRow where
  rowid : Nat
  blockLog : BlockLogEntity
  deriving DecidableEq, Repr

def LogRow.primaryKey (row : LogRow) : BlockLogKey := row.blockLog.primaryKey

/-- The rows by rowid; the primary key is unique. -/
structure BlockLogTable where
  rows : List LogRow
  ascending : rows.Pairwise fun earlier later => earlier.rowid < later.rowid
  unique : (rows.map LogRow.primaryKey).Nodup

/-- `timestamp DESC`: text compares by its characters. -/
def LogRow.sortsBefore (row other : LogRow) : Prop := other.blockLog.timestamp ≤ row.blockLog.timestamp

instance : DecidableRel LogRow.sortsBefore :=
  fun row other => inferInstanceAs (Decidable (other.blockLog.timestamp ≤ row.blockLog.timestamp))

instance : Std.Total LogRow.sortsBefore :=
  ⟨fun row other => le_total other.blockLog.timestamp row.blockLog.timestamp⟩

instance : IsTrans LogRow LogRow.sortsBefore := ⟨fun _ _ _ first second => le_trans second first⟩

namespace BlockLogTable

def empty : BlockLogTable where
  rows := []
  ascending := .nil
  unique := .nil

variable (table : BlockLogTable)

/-- The rowid of the next row is one above the largest. -/
def nextRowid : Nat := (table.rows.map LogRow.rowid).foldr max 0 + 1

theorem rowid_lt_nextRowid {row : LogRow} (member : row ∈ table.rows) :
    row.rowid < table.nextRowid := by
  rw [nextRowid]
  have listed := List.mem_map_of_mem (f := LogRow.rowid) member
  generalize table.rows.map LogRow.rowid = rowids at listed
  induction rowids with
  | nil => cases listed
  | cons rowid rowids ih =>
      rw [List.foldr_cons]
      rcases List.mem_cons.mp listed with same | later
      · omega
      · have bound := ih later
        omega

/-- The rows with another primary key than this log entry. -/
def otherRows (blockLog : BlockLogEntity) : List LogRow :=
  table.rows.filter fun row => row.primaryKey ≠ blockLog.primaryKey

/-- `@Insert(onConflict = REPLACE)`: the row with the same primary key goes. -/
def insert (blockLog : BlockLogEntity) : BlockLogTable where
  rows := table.otherRows blockLog ++ [⟨table.nextRowid, blockLog⟩]
  ascending := by
    refine List.pairwise_append.mpr ⟨table.ascending.filter _, List.pairwise_singleton _ _, ?_⟩
    intro earlier member later single
    rw [List.mem_singleton.mp single]
    exact table.rowid_lt_nextRowid (List.mem_filter.mp member).1
  unique := by
    rw [List.map_append, List.nodup_append]
    refine ⟨(List.filter_sublist.map _).nodup table.unique, List.nodup_singleton _, ?_⟩
    intro key member other single
    obtain ⟨row, kept, rfl⟩ := List.mem_map.mp member
    rw [List.mem_singleton.mp single]
    exact of_decide_eq_true (List.mem_filter.mp kept).2

/-- `ORDER BY timestamp DESC`; rows with one timestamp keep the order of their rowids. -/
def newestFirst : List LogRow := table.rows.insertionSort LogRow.sortsBefore

def getAllLogs : List BlockLogEntity := table.newestFirst.map LogRow.blockLog

/-- The subquery of `deleteExtraLogs`. -/
def keptRowids : List Nat := (table.newestFirst.take 100).map LogRow.rowid

def deleteExtraLogs : BlockLogTable where
  rows := table.rows.filter fun row => row.rowid ∈ table.keptRowids
  ascending := table.ascending.filter _
  unique := (List.filter_sublist.map _).nodup table.unique

variable {table : BlockLogTable}

theorem rowid_inj {row other : LogRow} (member : row ∈ table.rows) (otherMember : other ∈ table.rows)
    (same : row.rowid = other.rowid) : row = other := by
  have distinct : (table.rows.map LogRow.rowid).Nodup :=
    List.pairwise_map.mpr (table.ascending.imp fun less => Nat.ne_of_lt less)
  exact List.inj_on_of_nodup_map distinct member otherMember same

theorem rows_nodup : table.rows.Nodup := table.ascending.imp fun less same => by
  rw [same] at less
  exact Nat.lt_irrefl _ less

@[simp] theorem mem_newestFirst {row : LogRow} : row ∈ table.newestFirst ↔ row ∈ table.rows :=
  List.mem_insertionSort _

theorem newestFirst_nodup : table.newestFirst.Nodup :=
  (List.perm_insertionSort _ _).nodup_iff.mpr rows_nodup

theorem newestFirst_sorted : table.newestFirst.Pairwise LogRow.sortsBefore :=
  List.pairwise_insertionSort _ _

theorem mem_deleteExtraLogs {row : LogRow} :
    row ∈ table.deleteExtraLogs.rows ↔ row ∈ table.newestFirst.take 100 := by
  simp only [deleteExtraLogs, keptRowids, List.mem_filter, List.mem_map, decide_eq_true_eq]
  constructor
  · rintro ⟨member, kept, inTop, same⟩
    have keptMember := mem_newestFirst.mp (List.mem_of_mem_take inTop)
    exact rowid_inj keptMember member same ▸ inTop
  · exact fun inTop => ⟨mem_newestFirst.mp (List.mem_of_mem_take inTop), row, inTop, rfl⟩

theorem length_deleteExtraLogs :
    table.deleteExtraLogs.rows.length = min table.rows.length 100 := by
  have same : table.deleteExtraLogs.rows.Perm (table.newestFirst.take 100) :=
    (List.perm_ext_iff_of_nodup rows_nodup (newestFirst_nodup.sublist (List.take_sublist _ _))).mpr
      fun row => mem_deleteExtraLogs
  rw [same.length_eq, List.length_take, newestFirst, List.length_insertionSort, Nat.min_comm]

theorem length_insert (blockLog : BlockLogEntity) :
    (table.insert blockLog).rows.length = (table.otherRows blockLog).length + 1 := by
  simp [insert]

theorem otherRows_of_fresh {blockLog : BlockLogEntity}
    (fresh : blockLog.primaryKey ∉ table.rows.map LogRow.primaryKey) :
    table.otherRows blockLog = table.rows := by
  refine List.filter_eq_self.mpr fun row member => decide_eq_true ?_
  intro same
  exact fresh (same ▸ List.mem_map_of_mem member)

/-- No row that `deleteExtraLogs` deletes sorts before one that it keeps. -/
theorem kept_sortsBefore {kept deleted : LogRow} (keptMember : kept ∈ table.deleteExtraLogs.rows)
    (member : deleted ∈ table.rows) (gone : deleted ∉ table.deleteExtraLogs.rows) :
    kept.sortsBefore deleted := by
  rw [mem_deleteExtraLogs] at keptMember gone
  have split := List.take_append_drop 100 table.newestFirst
  have inRest : deleted ∈ table.newestFirst.drop 100 := by
    have listed := mem_newestFirst.mpr member
    rw [← split, List.mem_append] at listed
    exact listed.resolve_left gone
  have sorted : table.newestFirst.Pairwise LogRow.sortsBefore := newestFirst_sorted
  rw [← split, List.pairwise_append] at sorted
  exact sorted.2.2 kept keptMember deleted inRest

end BlockLogTable

end FirewallVpn
