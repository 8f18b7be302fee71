import FirewallVpn.Library.Transition
import FirewallVpn.Log.Dao
import Mathlib.Data.List.Infix

/-! How many rows the log can have. `logBlockedPacket` only launches the insert,
and the read loop trims the table right after it; the insert is carried out at
any time, before the trim or long after. -/

set_option autoImplicit false

namespace FirewallVpn

def BlockLogEntity.ofTraffic (traffic : TrafficLogResponse) : BlockLogEntity where
  appName := traffic.appName
  protocol := traffic.protocolByte
  srcIp := traffic.srcIp
  srcPort := traffic.srcPort
  dstIp := traffic.dstIp
  dstPort := traffic.dstPort
  timestamp := traffic.timeStamp

namespace Log

inductive LoopStage where
  | reading
  | trimming
  | ended
  deriving DecidableEq

/-- `pending` are the inserts launched and not yet carried out. -/
structure Logging where
  table : BlockLogTable
  pending : List BlockLogEntity
  loop : LoopStage

inductive Label where
  /-- The loop is done with the verdict and the forwarding of a packet. -/
  | packet (traffic : TrafficLogResponse)
  | deleteExtraLogs
  /-- The query throws, and the loop breaks. -/
  | deleteExtraLogsFails
  | insert (index : Nat)

/-- `appName.contains("Unknown")`. -/
def appUnknown (traffic : TrafficLogResponse) : Bool :=
  decide ("Unknown".toList <:+: traffic.appName.toList)

theorem appUnknown_iff {traffic : TrafficLogResponse} :
    appUnknown traffic = true ↔ "Unknown".toList <:+: traffic.appName.toList :=
  decide_eq_true_iff

def logBlockedPacket (logging : Logging) (traffic : TrafficLogResponse) : Logging :=
  { logging with pending := logging.pending ++ [.ofTraffic traffic] }

def step (logging : Logging) : Label → Option Logging
  | .packet traffic =>
      if logging.loop ≠ .reading then none
      else if appUnknown traffic then some logging
      else some { logBlockedPacket logging traffic with loop := .trimming }
  | .deleteExtraLogs =>
      if logging.loop ≠ .trimming then none
      else some { logging with table := logging.table.deleteExtraLogs, loop := .reading }
  | .deleteExtraLogsFails =>
      if logging.loop ≠ .trimming then none else some { logging with loop := .ended }
  | .insert index =>
      (logging.pending[index]?).map fun blockLog =>
        { logging with
          table := logging.table.insert blockLog, pending := logging.pending.eraseIdx index }

/-- With no insert pending the table has at most 100 rows. -/
def Bounded (logging : Logging) : Prop := logging.pending = [] → logging.table.rows.length ≤ 100

/-- If the step carries out the only pending insert, the table has at most 99 rows
that the insert does not replace. -/
def FindsRoom (logging : Logging) : Label → Prop
  | .insert index => ∀ blockLog ∈ logging.pending[index]?, logging.pending.length = 1 →
      (logging.table.otherRows blockLog).length ≤ 99
  | .packet _ | .deleteExtraLogs | .deleteExtraLogsFails => True

instance (logging : Logging) : ∀ label, Decidable (FindsRoom logging label)
  | .insert _ => inferInstanceAs (Decidable (∀ blockLog ∈ _, _ → _))
  | .packet _ | .deleteExtraLogs | .deleteExtraLogsFails => .isTrue True.intro

theorem bounded_step {logging next : Logging} {label : Label} (bounded : Bounded logging)
    (taken : step logging label = some next) : Bounded next ↔ FindsRoom logging label := by
  cases label with
  | packet traffic =>
      refine iff_of_true ?_ True.intro
      simp only [step] at taken
      split at taken
      · cases taken
      · split at taken <;> cases taken
        · exact bounded
        · intro none
          exact absurd none (List.append_ne_nil_of_right_ne_nil _ nofun)
  | deleteExtraLogs =>
      refine iff_of_true ?_ True.intro
      simp only [step] at taken
      split at taken <;> cases taken
      intro _
      rw [BlockLogTable.length_deleteExtraLogs]
      exact Nat.min_le_right _ _
  | deleteExtraLogsFails =>
      refine iff_of_true ?_ True.intro
      simp only [step] at taken
      split at taken <;> cases taken
      exact bounded
  | insert index =>
      obtain ⟨blockLog, located, rfl⟩ := Option.map_eq_some_iff.mp taken
      have within := (List.getElem?_eq_some_iff.mp located).1
      have last : logging.pending.eraseIdx index = [] ↔ logging.pending.length = 1 := by
        rw [← List.length_eq_zero_iff, List.length_eraseIdx_of_lt within]
        omega
      simp only [Bounded, FindsRoom, last, BlockLogTable.length_insert, located, Option.mem_def,
        Option.some.injEq, forall_eq']
      omega

/-- The bound holds at every moment at which no insert is pending exactly if every
insert carried out last finds room in the table. -/
theorem bounded_iff {start final : Logging} {labels : List Label} (bounded : Bounded start)
    (ran : Transition.run step start labels = some final) :
    Transition.Always step Bounded start labels ↔
      Transition.Guarded step FindsRoom start labels :=
  Transition.always_iff_guarded (fun _ => True) (fun _ _ _ _ _ => True.intro)
    (fun _ _ _ _ bounded taken => bounded_step bounded taken) True.intro bounded ran

/-- All but `waiting` of the inserts launched have been carried out when the loop trims. -/
def TrimsBehind (waiting : Nat) (logging : Logging) (label : Label) : Prop :=
  label = .deleteExtraLogs → logging.pending.length ≤ waiting

/-- The rows there are and may still come, at the head of the loop and behind it. -/
def Filled (waiting : Nat) (logging : Logging) : Prop :=
  logging.table.rows.length + logging.pending.length ≤
    if logging.loop = .reading then 100 + waiting else 101 + waiting

theorem filled_step {waiting : Nat} {logging next : Logging} {label : Label}
    (filled : Filled waiting logging) (behind : TrimsBehind waiting logging label)
    (taken : step logging label = some next) : Filled waiting next := by
  unfold Filled at filled ⊢
  cases label with
  | packet traffic =>
      simp only [step] at taken
      split at taken
      · cases taken
      next atHead =>
        rw [not_not] at atHead
        rw [if_pos atHead] at filled
        split at taken <;> cases taken
        · rw [if_pos atHead]
          exact filled
        · simp only [logBlockedPacket, List.length_append, List.length_singleton, reduceCtorEq, if_false]
          omega
  | deleteExtraLogs =>
      simp only [step] at taken
      split at taken <;> cases taken
      have few := behind rfl
      have trimmed := Nat.min_le_right logging.table.rows.length 100
      simp only [BlockLogTable.length_deleteExtraLogs, if_true]
      omega
  | deleteExtraLogsFails =>
      simp only [step] at taken
      split at taken <;> cases taken
      split at filled <;> simp only [reduceCtorEq, if_false] <;> omega
  | insert index =>
      obtain ⟨blockLog, located, rfl⟩ := Option.map_eq_some_iff.mp taken
      have within := (List.getElem?_eq_some_iff.mp located).1
      have others : (logging.table.otherRows blockLog).length ≤ logging.table.rows.length :=
        List.length_filter_le ..
      simp only [BlockLogTable.length_insert, List.length_eraseIdx_of_lt within]
      omega

/-- What the trims are good for. With at most `waiting` inserts late for the trim behind
their packet, the table never grows beyond 101 rows and those, and at the head of the loop
it has 100 and those at most: with every insert in its turn, the 100 the log is meant to
keep. -/
theorem rows_le_of_run {waiting : Nat} {start final : Logging} {labels : List Label}
    (few : start.table.rows.length + start.pending.length ≤ 100)
    (behind : Transition.Guarded step (TrimsBehind waiting) start labels)
    (ran : Transition.run step start labels = some final) :
    final.table.rows.length + final.pending.length ≤
      if final.loop = .reading then 100 + waiting else 101 + waiting := by
  refine behind.preserves (Filled waiting)
    (fun _ _ _ filled behind taken => filled_step filled behind taken) ?_ ran
  unfold Filled
  split <;> omega

/-- A packet of an app to this port of one server. -/
def packetTo (dstPort : Nat) : TrafficLogResponse where
  appName := "Mail"
  protocol := .ipv4
  protocolByte := .tcp
  srcIp := "10.0.0.2"
  srcPort := 40000
  dstIp := "93.184.216.34"
  dstPort := dstPort
  timeStamp := "01/02/2025 10:00:00"

def idle (table : BlockLogTable) : Logging where
  table := table
  pending := []
  loop := .reading

/-- One packet, with its insert carried out after the trim. -/
def onePacket : List Label := [.packet (packetTo 443), .deleteExtraLogs, .insert 0]

theorem onePacket_bounded : Transition.Always step Bounded (idle .empty) onePacket := by
  have ran : (Transition.run step (idle .empty) onePacket).isSome := by
    decide +kernel
  obtain ⟨final, ran⟩ := Option.isSome_iff_exists.mp ran
  exact (bounded_iff (fun _ => Nat.zero_le _) ran).mpr (by decide +kernel)

/-- The loop takes these packets, and trims after each, before any insert of theirs. -/
def launches (ports : List Nat) : List Label :=
  ports.flatMap fun dstPort => [.packet (packetTo dstPort), .deleteExtraLogs]

private theorem launches_run (ports : List Nat) (pending : List BlockLogEntity) :
    Transition.run step { idle .empty with pending } (launches ports) =
      some { idle .empty with pending := pending ++ ports.map fun dstPort => .ofTraffic (packetTo dstPort) } := by
  induction ports generalizing pending with
  | nil => simp [launches]
  | cons dstPort ports ih =>
      have known : appUnknown (packetTo dstPort) = false := by
        change decide ("Unknown".toList <:+: "Mail".toList) = false
        decide
      have launched : Transition.run step { idle .empty with pending }
          [.packet (packetTo dstPort), .deleteExtraLogs] =
          some { idle .empty with pending := pending ++ [.ofTraffic (packetTo dstPort)] } := by
        simp [Transition.run_cons, step, idle, known, logBlockedPacket]
        rfl
      rw [launches, List.flatMap_cons]
      refine Transition.run_append_iff.mpr ⟨_, launched, ?_⟩
      rw [← launches, ih]
      simp

/-- Inserts with keys that are not in the table add a row each. -/
private theorem inserts_run (pending : List BlockLogEntity) (table : BlockLogTable)
    (fresh : ((table.rows.map LogRow.primaryKey) ++ pending.map BlockLogEntity.primaryKey).Nodup) :
    ∃ filled : BlockLogTable, filled.rows.length = table.rows.length + pending.length ∧
      Transition.run step { idle table with pending } (List.replicate pending.length (.insert 0)) =
        some (idle filled) := by
  induction pending generalizing table with
  | nil => exact ⟨table, rfl, rfl⟩
  | cons blockLog pending ih =>
      have absent : blockLog.primaryKey ∉ table.rows.map LogRow.primaryKey := by
        intro member
        exact (List.nodup_append.mp fresh).2.2 _ member _ List.mem_cons_self rfl
      have rows : (table.insert blockLog).rows = table.rows ++ [⟨table.nextRowid, blockLog⟩] := by
        change table.otherRows blockLog ++ _ = _
        rw [BlockLogTable.otherRows_of_fresh absent]
      have stillFresh : (((table.insert blockLog).rows.map LogRow.primaryKey) ++
          pending.map BlockLogEntity.primaryKey).Nodup := by
        rw [rows, List.map_append, List.append_assoc]
        exact fresh
      obtain ⟨filled, length, ran⟩ := ih (table.insert blockLog) stillFresh
      refine ⟨filled, ?_, ?_⟩
      · rw [length, rows]
        simp only [List.length_append, List.length_cons, List.length_nil]
        omega
      · rw [List.length_cons, List.replicate_succ]
        exact Transition.run_cons_iff.mpr ⟨_, rfl, ran⟩

/-- The packets go to 101 ports, and their inserts are carried out when the loop
has trimmed for the last time. -/
def delayedInserts : List Label :=
  launches (List.range 101) ++ List.replicate 101 (.insert 0)

theorem delayedInserts_unbounded :
    ¬ ∀ (start final : Logging) (labels : List Label), Bounded start →
      Transition.run step start labels = some final → Transition.Always step Bounded start labels := by
  intro all
  have launched := launches_run (List.range 101) []
  have fresh : (([] : List BlockLogKey) ++
      (((List.range 101).map fun dstPort => BlockLogEntity.ofTraffic (packetTo dstPort)).map
        BlockLogEntity.primaryKey)).Nodup := by
    rw [List.nil_append, List.map_map]
    refine List.nodup_range.map fun port other same => ?_
    exact Int.ofNat.inj (congrArg BlockLogKey.dstPort same)
  obtain ⟨filled, length, inserted⟩ := inserts_run _ .empty fresh
  have ran : Transition.run step (idle .empty) delayedInserts = some (idle filled) :=
    Transition.run_append_iff.mpr ⟨_, launched, by simpa using inserted⟩
  have bounded := (all _ _ _ (fun _ => Nat.zero_le _) ran).last ran rfl
  change filled.rows.length ≤ 100 at bounded
  rw [length] at bounded
  simp at bounded

end Log

end FirewallVpn
