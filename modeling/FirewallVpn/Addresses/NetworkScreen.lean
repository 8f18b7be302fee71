import FirewallVpn.Addresses.LiveAddresses
import FirewallVpn.Addresses.Provenance
import FirewallVpn.Library.Groups

/-! The network screen, with one line for each app that has been seen. As for the log,
every turn of the switch adds a collector, here of `getAppsWithAddresses`. -/

set_option autoImplicit false

namespace FirewallVpn

open LiveQuery

/-- `ORDER BY appName`. -/
def AppAddressEntity.namedBefore (row other : AppAddressEntity) : Prop := row.appName ≤ other.appName

instance : DecidableRel AppAddressEntity.namedBefore :=
  fun row other => inferInstanceAs (Decidable (row.appName ≤ other.appName))

instance : Std.Total AppAddressEntity.namedBefore where
  total row other := le_total row.appName other.appName

instance : IsTrans AppAddressEntity AppAddressEntity.namedBefore where
  trans _ _ _ := le_trans

/-- `GROUP BY packageName` under `SELECT *`: the database reads all columns of a group
from one of its rows, and the query does not say from which. -/
def AddressTable.getAppsWithAddresses (table : AddressTable) (choice : Groups.Choice AppAddressEntity) :
    List AppAddressEntity :=
  (Groups.representatives AppAddressEntity.packageName choice table.rows).insertionSort
    AppAddressEntity.namedBefore

namespace Addresses

/-- `getAppsWithAddresses` as flows of the table; two of them may choose differently. -/
def getAppsWithAddresses :
    Queried Addresses Label (Groups.Choice AppAddressEntity) (List AppAddressEntity) where
  advance := step
  invalidates := changesTable
  answer choice addresses := addresses.table.getAppsWithAddresses choice
  silent taken unchanged choice := by
    rw [AddressTable.getAppsWithAddresses, rows_of_unchanged taken unchanged]
    rfl

end Addresses

/-- `shown` is `appsWithAddresses`. -/
abbrev NetworkScreen := View Addresses (Groups.Choice AppAddressEntity) (List AppAddressEntity)

namespace NetworkScreen

def initial : NetworkScreen := View.idle .initial []

abbrev Label := LiveQuery.Label Addresses.Label (Groups.Choice AppAddressEntity)

def loadAppsWithAddresses (choice : Groups.Choice AppAddressEntity) : Label := .load choice

def step : NetworkScreen → Label → Option NetworkScreen := View.step Addresses.getAppsWithAddresses

/-- The screen lists the apps of the table, each of them once and in the order of their
names, and these are the apps of the packets that were tracked. -/
structure ListsApps (labels : List Label) (screen : NetworkScreen) : Prop where
  rows : ∀ app ∈ screen.shown, app ∈ screen.source.table.rows
  listed : ∀ row ∈ screen.source.table.rows, ∃ app ∈ screen.shown, app.packageName = row.packageName
  once : (screen.shown.map AppAddressEntity.packageName).Nodup
  byName : screen.shown.Pairwise AppAddressEntity.namedBefore
  seen : ∀ app ∈ screen.shown, ∃ sighting ∈ Addresses.sightings (changes labels),
    sighting.packageName = app.packageName ∧ sighting.appName = app.appName
  complete : ∀ sighting ∈ Addresses.sightings (changes labels),
    (∃ app ∈ screen.shown, app.packageName = sighting.packageName) ∨
      (∃ tracker ∈ screen.source.trackers, tracker.sighting = sighting) ∨
        Transition.Occurs Addresses.step (Addresses.Fails sighting) .initial (changes labels)

variable {labels : List Label} {screen : NetworkScreen}

/-- When every collector is up to date the screen lists each app that has been seen, if
the collector that delivered last has not failed since; an app is missing only if its
trackers are still at work or have thrown. -/
theorem apps_listed_at_rest (ran : Transition.run step initial labels = some screen)
    (rest : screen.AtRest) {index : Nat}
    {flow : Flow (Groups.Choice AppAddressEntity) (List AppAddressEntity)}
    (last : screen.shownBy = some index) (located : screen.flows[index]? = some flow)
    (running : flow.running) : ListsApps labels screen := by
  have current : screen.shown = screen.source.table.getAppsWithAddresses flow.query :=
    (View.current_of_run ran).answers rest last located running
  have known : Addresses.Provenance (changes labels) screen.source :=
    Transition.run_induction Addresses.Provenance
      (fun _ _ _ _ reached known taken => known.step reached taken) .start (View.run_changes ran)
  have shown : ∀ app, app ∈ screen.shown ↔
      app ∈ Groups.representatives AppAddressEntity.packageName flow.query screen.source.table.rows := by
    intro app
    rw [current, AddressTable.getAppsWithAddresses, List.mem_insertionSort]
  have listed : ∀ row ∈ screen.source.table.rows,
      ∃ app ∈ screen.shown, app.packageName = row.packageName := by
    intro row member
    obtain ⟨app, chosen, same⟩ := Groups.exists_representative
      AppAddressEntity.packageName flow.query member
    exact ⟨app, (shown app).mpr chosen, same⟩
  have rows : ∀ app ∈ screen.shown, app ∈ screen.source.table.rows :=
    fun app member => Groups.mem_of_mem_representatives ((shown app).mp member)
  refine ⟨rows, listed, ?_, ?_, fun app member => ?_, fun sighting tracked => ?_⟩
  · rw [current, AddressTable.getAppsWithAddresses]
    exact ((List.perm_insertionSort _ _).map _).nodup_iff.mpr Groups.nodup_keys
  · rw [current, AddressTable.getAppsWithAddresses]
    exact List.pairwise_insertionSort _ _
  · obtain ⟨first, tracked, _, _, made⟩ := known.rows app (rows app member)
    exact ⟨first, tracked, congrArg AddressKey.packageName made.key, made.appName.symm⟩
  · rcases known.traced sighting tracked with ⟨row, member, same⟩ | pending
    · obtain ⟨app, inList, samePackage⟩ := listed row member
      exact .inl ⟨app, inList, samePackage.trans (congrArg AddressKey.packageName same)⟩
    · exact .inr pending

/-- A packet of a web app and two of the mail app, to two servers; the switch is turned
in between, and the second collector reads other rows than the first. -/
def twoAppsSeen : List Label :=
  [loadAppsWithAddresses .first, .ask 0, .deliver 0,
    .change (.trackAppAddress "com.example.web" "Web" (Addresses.trafficTo "198.51.100.7")),
    .change (.trackAppAddress "com.example.mail" "Mail" (Addresses.trafficTo "93.184.216.34")),
    .change (.tracker 0), .change (.tracker 1), .change (.tracker 0), .ask 0,
    loadAppsWithAddresses .last, .change (.tracker 0),
    .change (.trackAppAddress "com.example.mail" "Mail" (Addresses.trafficTo "198.51.100.7")),
    .change (.tracker 0), .change (.tracker 0), .deliver 0, .ask 0, .deliver 0, .ask 1, .deliver 1]

theorem twoAppsSeen_listed :
    ∃ screen, Transition.run step initial twoAppsSeen = some screen ∧ ListsApps twoAppsSeen screen ∧
      screen.shown.map (fun app => (app.appName, app.ipAddress)) =
        [("Mail", "198.51.100.7"), ("Web", "198.51.100.7")] := by
  have seen : (Transition.run step initial twoAppsSeen).any (fun screen =>
      decide screen.AtRest && decide (screen.shownBy = some 1) &&
        screen.flows[1]?.any Flow.running &&
        decide (screen.shown.map (fun app => (app.appName, app.ipAddress)) =
          [("Mail", "198.51.100.7"), ("Web", "198.51.100.7")])) = true := by
    decide +kernel
  obtain ⟨screen, ran, holds⟩ := (Option.any_eq_true _ _).mp seen
  simp only [Bool.and_eq_true, decide_eq_true_eq] at holds
  obtain ⟨⟨⟨rest, last⟩, runs⟩, shown⟩ := holds
  obtain ⟨flow, located, running⟩ := (Option.any_eq_true _ _).mp runs
  exact ⟨screen, ran, apps_listed_at_rest ran rest last located running, shown⟩

end NetworkScreen

end FirewallVpn
