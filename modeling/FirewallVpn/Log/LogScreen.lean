import FirewallVpn.Library.LiveQuery
import FirewallVpn.Log.Contents

/-! The log as the user sees it. `AppNavigation` calls `getBlockLogs` at its start and
after each turn of the switch; every call adds a collector of `getAllLogs`, and all of
them write `allBlackLogs`. -/

set_option autoImplicit false

namespace FirewallVpn

open Latest LiveQuery

namespace Log

/-- A statement that touches no row invalidates no flow. -/
def changesTable (logging : Logging) : Label → Bool
  | .insert index => logging.pending[index]?.isSome
  | .deleteExtraLogs => logging.table.deleteExtraLogs.rows ≠ logging.table.rows
  | .packet _ | .deleteExtraLogsFails => false

theorem rows_of_unchanged {logging next : Logging} {label : Label}
    (taken : step logging label = some next) (unchanged : changesTable logging label = false) :
    next.table.rows = logging.table.rows := by
  cases label with
  | packet traffic =>
      simp only [step] at taken
      split at taken
      · cases taken
      · split at taken <;> cases taken <;> rfl
  | deleteExtraLogs =>
      simp only [step] at taken
      split at taken <;> cases taken
      simpa [changesTable] using unchanged
  | deleteExtraLogsFails =>
      simp only [step] at taken
      split at taken <;> cases taken
      rfl
  | insert index =>
      obtain ⟨blockLog, located, rfl⟩ := Option.map_eq_some_iff.mp taken
      simp [changesTable, located] at unchanged

/-- `getAllLogs` as a flow of the table. -/
def getAllLogs : Queried Logging Label Unit (List BlockLogEntity) where
  advance := step
  invalidates := changesTable
  answer _ logging := logging.table.getAllLogs
  silent taken unchanged _ := by
    rw [BlockLogTable.getAllLogs, BlockLogTable.newestFirst, rows_of_unchanged taken unchanged]
    rfl

end Log

/-- `shown` is `allBlackLogs`. -/
abbrev LogScreen := View Log.Logging Unit (List BlockLogEntity)

namespace LogScreen

def initial (table : BlockLogTable) : LogScreen := View.idle (Log.idle table) []

abbrev Label := LiveQuery.Label Log.Label Unit

def getBlockLogs : Label := .load ()

def step : LogScreen → Label → Option LogScreen := View.step Log.getAllLogs

variable {screen : LogScreen} {labels : List Label}

/-- What the log screen promises when nothing is left to do: it lists what the table
holds, and where the packets of the run and the rows before it had no more than 100 keys
between them, that is the entry written last for each. -/
structure Shows (stored : List BlockLogEntity) (labels : List Label) (screen : LogScreen)
    (written : List BlockLogEntity) : Prop where
  contents : Log.Contents stored (changes labels) screen.source written
  listed : screen.shown.Perm screen.source.table.entries
  newestFirst : screen.shown.Pairwise fun newer older => older.timestamp ≤ newer.timestamp
  complete : (latest BlockLogEntity.primaryKey (stored ++ written)).length ≤ 100 →
    screen.shown.Perm (latest BlockLogEntity.primaryKey (stored ++ written))

/-- When every collector is up to date, whatever came in between, the screen lists the
log as the inserts of the run have written it, in their order, if the collector that
delivered last has not failed since. -/
theorem log_shown_at_rest {table : BlockLogTable}
    (ran : Transition.run step (initial table) labels = some screen) (rest : screen.AtRest)
    {index : Nat} {flow : Flow Unit (List BlockLogEntity)} (last : screen.shownBy = some index)
    (located : screen.flows[index]? = some flow) (running : flow.running) :
    ∃ written, Transition.run (Transition.observed Log.step Log.noteInsert) (Log.idle table, [])
        (changes labels) = some (screen.source, written) ∧
      Shows table.entries labels screen written := by
  have current : screen.shown = screen.source.table.getAllLogs :=
    (View.current_of_run ran).answers rest last located running
  obtain ⟨⟨logging, written⟩, observed, same⟩ := Option.map_eq_some_iff.mp
    ((Transition.run_observed (Log.idle table) [] (changes labels)).trans (View.run_changes ran))
  cases same
  have contents : Log.Contents table.entries (changes labels) screen.source written :=
    Log.Contents.start.run observed
  have listed : screen.shown.Perm screen.source.table.entries := by
    rw [current, BlockLogTable.getAllLogs]
    exact (List.perm_insertionSort _ _).map _
  refine ⟨written, observed, contents, listed, ?_, fun few => contents.complete few ▸ listed⟩
  rw [current, BlockLogTable.getAllLogs, List.pairwise_map]
  exact BlockLogTable.newestFirst_sorted

/-- The switch is turned once; the second collector delivers what it was told before the
packet, and both ask again. -/
def switchTurned : List Label :=
  [getBlockLogs, getBlockLogs, .ask 0, .deliver 0, .ask 1] ++ Log.onePacket.map .change ++
    [.ask 0, .deliver 0, .deliver 1, .ask 1, .deliver 1]

theorem switchTurned_shows :
    ∃ screen written, Transition.run step (initial .empty) switchTurned = some screen ∧
      Transition.run (Transition.observed Log.step Log.noteInsert) (Log.idle .empty, [])
        (changes switchTurned) = some (screen.source, written) ∧
      Shows [] switchTurned screen written ∧
      screen.shown = [.ofTraffic (Log.packetTo 443)] := by
  have seen : (Transition.run step (initial .empty) switchTurned).any (fun screen =>
      decide screen.AtRest && decide (screen.shownBy = some 1) &&
        screen.flows[1]?.any Flow.running &&
        decide (screen.shown = [.ofTraffic (Log.packetTo 443)])) = true := by
    decide +kernel
  obtain ⟨screen, ran, holds⟩ := (Option.any_eq_true _ _).mp seen
  simp only [Bool.and_eq_true, decide_eq_true_eq] at holds
  obtain ⟨⟨⟨rest, last⟩, runs⟩, shown⟩ := holds
  obtain ⟨flow, located, running⟩ := (Option.any_eq_true _ _).mp runs
  obtain ⟨written, inserted, shows⟩ := log_shown_at_rest ran rest last located running
  exact ⟨screen, written, ran, inserted, shows, shown⟩

end LogScreen

end FirewallVpn
