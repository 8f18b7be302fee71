import FirewallVpn.Library.SharedQuery
import FirewallVpn.System.UserPolicy

/-! The blocked apps as the user sees them. `MainViewModel.blockedApps` shares one
collection of the store among the screens; `Select_Apps` and `Blocked_Apps` draw what
they have collected last, and `Select_Apps` decides by it what a tap asks for. -/

set_option autoImplicit false

namespace FirewallVpn

open Edits SharedQuery

namespace UserPolicy

/-- The edit changes what is stored; one that changes nothing is not written. -/
def changesStore (policy : UserPolicy) : Label → Bool
  | .edit index none => policy.editing[index]?.any fun edit =>
      edit.apply policy.system.service.persisted ≠ policy.system.service.persisted
  | .edit _ (some _) | .addBlockedApp _ | .removeBlockedApp _ | .system _ => false

theorem persisted_of_unchanged {pcpp : PcapPlusPlus} {policy next : UserPolicy} {label : Label}
    (taken : policy.step pcpp label = some next) (unchanged : policy.changesStore label = false) :
    next.system.service.persisted = policy.system.service.persisted := by
  cases step_policy taken with
  | asked | threw => rfl
  | wrote located =>
      simp only [changesStore, located, Option.any_some, decide_eq_false_iff_not, not_not] at unchanged
      exact unchanged
  | ran kept stepped => exact (step_cache kept stepped).1

/-- `BlockedAppRepositoryImpl.getBlockedApps` as a flow of the store. -/
def getBlockedApps (pcpp : PcapPlusPlus) :
    LiveQuery.Queried UserPolicy Label Unit (Finset String) where
  advance := step pcpp
  invalidates := changesStore
  answer _ policy := policy.system.service.persisted
  silent taken unchanged _ := persisted_of_unchanged taken unchanged

end UserPolicy

/-- The screens that collect `blockedApps`. -/
inductive AppList where
  | selectApps
  | blockedApps
  deriving DecidableEq

/-- `value` is `blockedApps`, and the collectors are the screens that have been drawn. -/
abbrev BlockedList := Shared UserPolicy AppList (Finset String)

namespace BlockedList

abbrev Label := SharedQuery.Label UserPolicy.Label AppList

abbrev Screen := SharedQuery.Collector AppList (Finset String)

def created (persisted : Finset String) : BlockedList := Shared.created (.created persisted) ∅

def step (pcpp : PcapPlusPlus) : BlockedList → Label → Option BlockedList :=
  Shared.step (UserPolicy.getBlockedApps pcpp) ()

/-- What a tap on the icon of an item brings about. -/
inductive Tap where
  | toast (text : String)
  | addBlockedApp (packageName : String)
  /-- The dialog that asks whether to unblock the app. -/
  | isDeleting (packageName : String)
  deriving DecidableEq

/-- What the two screens hand to `App_Item` as `onBlockIconClicked`. -/
def onBlockIconClicked (screen : Screen) (packageName : String) : Tap :=
  match screen.place with
  | .selectApps =>
      if packageName ∉ screen.shown then .addBlockedApp packageName else .toast "Already blocked"
  | .blockedApps => .isDeleting packageName

/-- `onClick` of `App_Item`; `isRunning` is what the flag of the service was when the item
was composed. -/
def onClick (isRunning : Bool) (screen : Screen) (packageName : String) : Tap :=
  if isRunning then .toast "Stop the VPN Service" else onBlockIconClicked screen packageName

def Tap.asks : Tap → Option Label
  | .addBlockedApp packageName => some (.change (.addBlockedApp packageName))
  | .toast _ | .isDeleting _ => none

/-- Only `Select_Apps` asks for a block, and not while the item shows a running service. -/
theorem asks_iff {isRunning : Bool} {screen : Screen} {packageName : String} :
    (onClick isRunning screen packageName).asks = some (.change (.addBlockedApp packageName)) ↔
      isRunning = false ∧ screen.place = .selectApps ∧ packageName ∉ screen.shown := by
  cases isRunning with
  | true => simp [onClick, Tap.asks]
  | false =>
      rw [onClick, if_neg Bool.false_ne_true, onBlockIconClicked]
      cases screen.place with
      | blockedApps => simp [Tap.asks]
      | selectApps => by_cases blocked : packageName ∈ screen.shown <;> simp [blocked, Tap.asks]

/-- Every screen in view shows the apps that are stored, by the edits written. While the
service works with the store these are the apps it blocks, and a tap in `Select_Apps` asks
for the block of an app exactly if the app is not blocked and its item was composed while
the VPN was not running. -/
structure Truthful (persisted : Finset String) (list : BlockedList) : Prop where
  stored : ∀ screen ∈ list.collectors, screen.collecting →
    screen.shown = list.source.system.service.persisted
  edited : ∀ screen ∈ list.collectors, screen.collecting → ∀ packageName,
    packageName ∈ screen.shown ↔ lastOn packageName list.source.written = some (.add packageName) ∨
      lastOn packageName list.source.written = none ∧ packageName ∈ persisted
  enforced : list.source.system.service.companion.scopeCancelled = false →
    list.source.system.service.Quiescent → ∀ screen ∈ list.collectors, screen.collecting →
      screen.shown = list.source.system.service.blockedAppCache
  tapped : list.source.system.service.companion.scopeCancelled = false →
    list.source.system.service.Quiescent → ∀ screen ∈ list.collectors, screen.collecting →
      screen.place = .selectApps → ∀ isRunning packageName,
        (onClick isRunning screen packageName).asks = some (.change (.addBlockedApp packageName)) ↔
          isRunning = false ∧ packageName ∉ list.source.system.service.blockedAppCache

variable {pcpp : PcapPlusPlus} {persisted : Finset String} {labels : List Label} {list : BlockedList}

theorem truthful_at_rest
    (ran : Transition.run (step pcpp) (created persisted) labels = some list)
    (resting : Shared.Resting (UserPolicy.getBlockedApps pcpp) () list) : Truthful persisted list := by
  have stored : ∀ screen ∈ list.collectors, screen.collecting →
      screen.shown = list.source.system.service.persisted :=
    fun screen member collecting => resting.shows (Shared.current_of_run ran) member collecting
  have ranBelow := Shared.run_changes ran
  have enforced : list.source.system.service.companion.scopeCancelled = false →
      list.source.system.service.Quiescent → ∀ screen ∈ list.collectors, screen.collecting →
        screen.shown = list.source.system.service.blockedAppCache := by
    intro active quiescent screen member collecting
    rw [stored screen member collecting, UserPolicy.cache_stored ⟨_, ranBelow⟩ active quiescent]
  refine ⟨stored, fun screen member collecting packageName => ?_, enforced, ?_⟩
  · rw [stored screen member collecting, (UserPolicy.follows_of_run ranBelow).stored, mem_replay_iff]
  · intro active quiescent screen member collecting place isRunning packageName
    rw [asks_iff, and_iff_right place, enforced active quiescent screen member collecting]

/-- When the store is left alone and nobody moves between the screens, the lists come to
rest in a few steps, whatever came before, and then they tell the truth. -/
theorem blocked_list_truthful
    (ran : Transition.run (step pcpp) (created persisted) labels = some list) :
    (∀ more final, Transition.run (step pcpp) list more = some final → (∀ label ∈ more, label.own) →
      final.source = list.source ∧ more.length ≤ 4 + 3 * list.collectors.length ∧
        (Shared.Resting (UserPolicy.getBlockedApps pcpp) () final → Truthful persisted final)) ∧
    ∃ more final, Transition.run (step pcpp) list more = some final ∧ (∀ label ∈ more, label.own) ∧
      Truthful persisted final := by
  obtain ⟨bounded, more, final, settled, own, resting⟩ :=
    Shared.rests_within (UserPolicy.getBlockedApps pcpp) () list
  have joins : ∀ {more : List Label} {final : BlockedList},
      Transition.run (step pcpp) list more = some final →
        Transition.run (step pcpp) (created persisted) (labels ++ more) = some final :=
    fun goesOn => Transition.run_append_iff.mpr ⟨list, ran, goesOn⟩
  refine ⟨fun more final goesOn own => ?_, more, final, settled, own, ?_⟩
  · exact ⟨Shared.run_source own goesOn, bounded more final goesOn own, truthful_at_rest (joins goesOn)⟩
  · exact truthful_at_rest (joins settled) resting

/-- An app is blocked while its list is out of view, and the collection has expired. -/
def seenAgain : List Label :=
  [.compose .selectApps, .resume 0, .share, .ask, .assign,
    .change (.addBlockedApp "com.example.mail"), .pause 0, .expire, .change (.edit 0 none), .resume 0]

theorem seenAgain_truthful :
    ∃ list final, Transition.run (step .headerRules) (created ∅) seenAgain = some list ∧
      list.collectors.map SharedQuery.Collector.shown = [∅] ∧
      Transition.run (step .headerRules) list [.share, .ask, .assign, .collect 0] = some final ∧
      final.collectors.map SharedQuery.Collector.shown = [{"com.example.mail"}] ∧
      Truthful ∅ final := by
  have seen : (Transition.run (step .headerRules) (created ∅) seenAgain).any (fun list =>
      decide (list.collectors.map SharedQuery.Collector.shown = [∅]) &&
        (Transition.run (step .headerRules) list [.share, .ask, .assign, .collect 0]).any fun final =>
          decide (final.collectors.map SharedQuery.Collector.shown = [{"com.example.mail"}]) &&
            decide (∀ label ∈ [Label.share, .expire, .ask, .assign],
              (step .headerRules final label).isNone) &&
            decide (∀ screen ∈ final.collectors, screen.collecting → screen.shown = final.value)) =
      true := by
    decide +kernel
  obtain ⟨list, ran, holds⟩ := (Option.any_eq_true _ _).mp seen
  simp only [Bool.and_eq_true, decide_eq_true_eq] at holds
  obtain ⟨stale, later⟩ := holds
  obtain ⟨final, goesOn, atEnd⟩ := (Option.any_eq_true _ _).mp later
  simp only [Bool.and_eq_true, decide_eq_true_eq] at atEnd
  obtain ⟨⟨shown, flow⟩, collected⟩ := atEnd
  have settled := ((blocked_list_truthful ran).1 _ final goesOn (by decide)).2.2
  exact ⟨list, final, ran, stale, goesOn, shown, settled (Shared.resting_iff.mpr ⟨flow, collected⟩)⟩

end BlockedList

end FirewallVpn
