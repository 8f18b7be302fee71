import FirewallVpn.Addresses.Provenance
import FirewallVpn.Library.BackStack
import FirewallVpn.System.UserPolicy

/-! The screens over the firewall, as `AppNavigation` puts them together: which of them a
user can get to, and what the user can ask the firewall for there. -/

set_option autoImplicit false

namespace FirewallVpn

inductive Screen where
  | SelectApps
  | NestedGraph
  | NetworkApps
  | AppAddresses (packageName appName : String)
  deriving DecidableEq

/-- The calls of `newBackStack.add`, by the entry they are made in. -/
inductive Screen.Opens : Screen → Screen → Prop where
  | onFabClicked : Opens .NestedGraph .SelectApps
  | onAppClick {packageName appName : String} : Opens .NetworkApps (.AppAddresses packageName appName)

instance : DecidableRel Screen.Opens
  | .NestedGraph, .SelectApps => .isTrue .onFabClicked
  | .NetworkApps, .AppAddresses _ _ => .isTrue .onAppClick
  | .NestedGraph, .NestedGraph | .NestedGraph, .NetworkApps | .NestedGraph, .AppAddresses _ _
  | .NetworkApps, .SelectApps | .NetworkApps, .NestedGraph | .NetworkApps, .NetworkApps
  | .SelectApps, _ | .AppAddresses _ _, _ => .isFalse nofun

/-- `updating` are the coroutines of `viewModelScope` that have yet to update
`app_addresses`, `loaded` the calls of `loadAddressesForApp`. -/
structure AppNavigation where
  newBackStack : BackStack Screen
  policy : UserPolicy
  updating : List Addresses.Label
  loaded : List String

namespace AppNavigation

def created (persisted : Finset String) : AppNavigation where
  newBackStack := .created .NestedGraph
  policy := .created persisted
  updating := []
  loaded := []

inductive Label where
  | onFabClicked
  /-- Of the entry `Screen.NetworkApps`. -/
  | onAppClick (packageName appName : String)
  /-- Of the tab in `Nested_Graph`, where the body is empty. -/
  | onTabAppClick (packageName appName : String)
  /-- Also `onNavBackClicked` and `onBackClick`. -/
  | onBack
  | onBlockIconClicked (packageName : String)
  | onUnblockConfirmed (packageName : String)
  | launchedEffect (packageName appName : String)
  | onToggleAddress (packageName appName : String) (addressId : Nat) (isBlocked : Bool)
  | onBlockAll (packageName appName : String)
  | onAllowAll (packageName appName : String)
  /-- A coroutine of the view model comes to its update. -/
  | update (index : Nat) (thrown : Option String)
  | activityRecreated (restored : Bool)
  | processRestarted (restored : Bool)
  | policy (label : UserPolicy.Label)
  deriving DecidableEq

/-- What the user asks for comes from the screens. -/
def isRequest : UserPolicy.Label → Bool
  | .addBlockedApp _ | .removeBlockedApp _ => true
  | .edit _ _ => false
  | .system (.addresses (.toggleAddressBlock _ _)) => true
  | .system (.addresses (.blockAllAddressesForApp _)) => true
  | .system (.addresses (.allowAllAddressesForApp _)) => true
  | .system _ => false

variable (pcpp : PcapPlusPlus) (nav : AppNavigation)

def onScreen (screen : Screen) (next : Option AppNavigation) : Option AppNavigation :=
  if screen ∈ nav.newBackStack.drawn then next else none

def add (screen : Screen) : AppNavigation :=
  { nav with newBackStack := nav.newBackStack.add screen }

def ask (label : UserPolicy.Label) : Option AppNavigation :=
  (nav.policy.step pcpp label).map fun policy => { nav with policy }

def launchUpdate (request : Addresses.Label) : AppNavigation :=
  { nav with updating := nav.updating ++ [request] }

/-- What outlives the process: the two stores, and perhaps the back stack. -/
def restarted (restored : Bool) : AppNavigation where
  newBackStack := nav.newBackStack.restored .NestedGraph restored
  policy :=
    let persisted := nav.policy.system.service.persisted
    { UserPolicy.created persisted with
      system := { System.created persisted with
        addresses := { table := nav.policy.system.addresses.table, trackers := [] } } }
  updating := []
  loaded := []

/-- `App_Item` and `Select_Apps` turn some of the taps down, which only makes them fewer. -/
def step : Label → Option AppNavigation
  | .onFabClicked => nav.onScreen .NestedGraph (some (nav.add .SelectApps))
  | .onAppClick packageName appName =>
      nav.onScreen .NetworkApps (some (nav.add (.AppAddresses packageName appName)))
  | .onTabAppClick _ _ => nav.onScreen .NestedGraph (some nav)
  | .onBack => some { nav with newBackStack := nav.newBackStack.removeLast }
  | .onBlockIconClicked packageName =>
      nav.onScreen .SelectApps (nav.ask pcpp (.addBlockedApp packageName))
  | .onUnblockConfirmed packageName =>
      nav.onScreen .NestedGraph (nav.ask pcpp (.removeBlockedApp packageName))
  | .launchedEffect packageName appName =>
      nav.onScreen (.AppAddresses packageName appName)
        (some { nav with loaded := nav.loaded ++ [packageName] })
  | .onToggleAddress packageName appName addressId isBlocked =>
      nav.onScreen (.AppAddresses packageName appName)
        (some (nav.launchUpdate (.toggleAddressBlock addressId isBlocked)))
  | .onBlockAll packageName appName =>
      nav.onScreen (.AppAddresses packageName appName)
        (some (nav.launchUpdate (.blockAllAddressesForApp packageName)))
  | .onAllowAll packageName appName =>
      nav.onScreen (.AppAddresses packageName appName)
        (some (nav.launchUpdate (.allowAllAddressesForApp packageName)))
  | .update index thrown =>
      match nav.updating[index]? with
      | none => none
      | some request =>
          let rest := { nav with updating := nav.updating.eraseIdx index }
          match thrown with
          | some _ => some rest
          | none => rest.ask pcpp (.system (.addresses request))
  | .activityRecreated restored =>
      some { nav with newBackStack := nav.newBackStack.restored .NestedGraph restored }
  | .processRestarted restored => some (nav.restarted restored)
  | .policy label => if isRequest label then none else nav.ask pcpp label

variable {pcpp nav}

/-- The steps of the screens and of what is under them. -/
inductive NavStep (pcpp : PcapPlusPlus) (nav : AppNavigation) : AppNavigation → Prop where
  | turned {label : BackStack.Label Screen} {newBackStack : BackStack Screen}
      (taken : nav.newBackStack.step Screen.Opens .NestedGraph label = some newBackStack) :
      NavStep pcpp nav { nav with newBackStack }
  | ignored : NavStep pcpp nav nav
  | asked {label : UserPolicy.Label} {policy : UserPolicy}
      (silent : ∀ request, label = .system (.addresses request) → ∀ row, request.request row = none)
      (taken : nav.policy.step pcpp label = some policy) : NavStep pcpp nav { nav with policy }
  | opened {packageName appName : String} {updating : List Addresses.Label} {loaded : List String}
      (drawn : .AppAddresses packageName appName ∈ nav.newBackStack.drawn) :
      NavStep pcpp nav { nav with updating, loaded }
  | updated {index : Nat} {request : Addresses.Label} {policy : UserPolicy}
      (located : nav.updating[index]? = some request) :
      NavStep pcpp nav { nav with policy, updating := nav.updating.eraseIdx index }
  | restarted {restored : Bool} : NavStep pcpp nav (nav.restarted restored)

theorem onScreen_iff {screen : Screen} {asked : Option AppNavigation} {next : AppNavigation} :
    nav.onScreen screen asked = some next ↔
      screen ∈ nav.newBackStack.drawn ∧ asked = some next := by
  unfold onScreen
  split <;> simp [*]

theorem asks {label : UserPolicy.Label} {next : AppNavigation}
    (silent : ∀ request, label = .system (.addresses request) → ∀ row, request.request row = none)
    (taken : nav.ask pcpp label = some next) : NavStep pcpp nav next := by
  obtain ⟨policy, stepped, rfl⟩ := Option.map_eq_some_iff.mp taken
  exact .asked silent stepped

theorem step_nav {label : Label} {next : AppNavigation} (taken : nav.step pcpp label = some next) :
    NavStep pcpp nav next := by
  cases label with
  | onFabClicked =>
      obtain ⟨drawn, same⟩ := onScreen_iff.mp taken
      cases same
      have added : nav.newBackStack.step Screen.Opens .NestedGraph (.add .NestedGraph .SelectApps) =
          some (nav.newBackStack.add .SelectApps) := if_pos ⟨drawn, .onFabClicked⟩
      exact .turned added
  | onAppClick packageName appName =>
      obtain ⟨drawn, same⟩ := onScreen_iff.mp taken
      cases same
      have added : nav.newBackStack.step Screen.Opens .NestedGraph
          (.add .NetworkApps (.AppAddresses packageName appName)) =
            some (nav.newBackStack.add (.AppAddresses packageName appName)) :=
        if_pos ⟨drawn, .onAppClick⟩
      exact .turned added
  | onTabAppClick packageName appName =>
      obtain ⟨-, same⟩ := onScreen_iff.mp taken
      cases same
      exact .ignored
  | onBack =>
      cases taken
      have moved : nav.newBackStack.step Screen.Opens .NestedGraph .removeLast =
          some nav.newBackStack.removeLast := rfl
      exact .turned moved
  | activityRecreated saved =>
      cases taken
      have moved : nav.newBackStack.step Screen.Opens .NestedGraph (.restored saved) =
          some (nav.newBackStack.restored .NestedGraph saved) := rfl
      exact .turned moved
  | onBlockIconClicked packageName | onUnblockConfirmed packageName =>
      exact asks (fun _ => UserPolicy.Label.noConfusion) (onScreen_iff.mp taken).2
  | launchedEffect packageName appName | onToggleAddress packageName appName
  | onBlockAll packageName appName | onAllowAll packageName appName =>
      obtain ⟨drawn, same⟩ := onScreen_iff.mp taken
      cases same
      exact .opened drawn
  | update index thrown =>
      simp only [step] at taken
      split at taken
      · cases taken
      · next request located =>
          split at taken
          · cases taken
            exact .updated located
          · obtain ⟨policy, stepped, rfl⟩ := Option.map_eq_some_iff.mp taken
            exact .updated located
  | processRestarted saved =>
      cases taken
      exact .restarted
  | policy label =>
      simp only [step] at taken
      split at taken
      · cases taken
      · next own =>
          refine asks ?_ taken
          rintro request rfl row
          cases request with
          | trackAppAddress | tracker | trackerThrows => rfl
          | toggleAddressBlock | blockAllAddressesForApp | allowAllAddressesForApp =>
              exact absurd rfl own

/-! The screens a user gets to. -/

/-- Without what is under them, the screens are the back stack with these additions. -/
theorem reachable_backStack {persisted : Finset String}
    (reachable : Transition.Reachable (step pcpp) (created persisted) nav) :
    Transition.Reachable (BackStack.step Screen.Opens .NestedGraph) (.created .NestedGraph)
      nav.newBackStack := by
  refine reachable.project newBackStack fun before label after taken => ?_
  cases step_nav taken with
  | turned moved => exact ⟨[_], Transition.run_cons_iff.mpr ⟨_, moved, rfl⟩⟩
  | ignored | asked | opened | updated => exact .refl _
  | @restarted saved => exact ⟨[.restored saved], rfl⟩

/-- Whatever the back stack can come to, the app can. -/
theorem reachable_of_backStack (pcpp : PcapPlusPlus) (persisted : Finset String)
    {newBackStack : BackStack Screen}
    (reachable : Transition.Reachable (BackStack.step Screen.Opens .NestedGraph)
      (.created .NestedGraph) newBackStack) :
    ∃ nav, Transition.Reachable (step pcpp) (created persisted) nav ∧
      nav.newBackStack = newBackStack := by
  refine reachable.invariant (fun newBackStack => ∃ nav,
    Transition.Reachable (step pcpp) (created persisted) nav ∧ nav.newBackStack = newBackStack)
    ?_ ⟨created persisted, .refl _, rfl⟩
  intro before label next below taken
  obtain ⟨nav, reached, rfl⟩ := below
  cases label with
  | add source target =>
      simp only [BackStack.step] at taken
      split at taken <;> cases taken
      next allowed =>
        obtain ⟨drawn, opened⟩ := allowed
        refine ⟨nav.add target, ?_, rfl⟩
        cases opened with
        | onFabClicked =>
            have tapped : nav.step pcpp .onFabClicked = some (nav.add .SelectApps) :=
              onScreen_iff.mpr ⟨drawn, rfl⟩
            exact reached.tail tapped
        | @onAppClick packageName appName =>
            have tapped : nav.step pcpp (.onAppClick packageName appName) =
                some (nav.add (.AppAddresses packageName appName)) :=
              onScreen_iff.mpr ⟨drawn, rfl⟩
            exact reached.tail tapped
  | removeLast =>
      cases taken
      exact ⟨_, reached.trans ⟨[.onBack], rfl⟩, rfl⟩
  | restored saved =>
      cases taken
      exact ⟨_, reached.trans ⟨[.activityRecreated saved], rfl⟩, rfl⟩

theorem opens_iff {screen : Screen} :
    Relation.ReflTransGen Screen.Opens .NestedGraph screen ↔
      screen = .NestedGraph ∨ screen = .SelectApps := by
  constructor
  · intro path
    induction path with
    | refl => exact .inl rfl
    | tail _ opened ih =>
        cases opened with
        | onFabClicked => exact .inr rfl
        | onAppClick => rcases ih with same | same <;> cases same
  · intro either
    rcases either with rfl | rfl
    · exact .refl
    · exact .single .onFabClicked

/-- The screens that are ever drawn are the start and the list of apps to block. -/
theorem drawn_iff {persisted : Finset String} {screen : Screen} :
    (∃ nav, Transition.Reachable (step pcpp) (created persisted) nav ∧
      screen ∈ nav.newBackStack.drawn) ↔ screen = .NestedGraph ∨ screen = .SelectApps := by
  rw [← opens_iff, ← BackStack.drawn_iff]
  constructor
  · intro seen
    obtain ⟨nav, reached, drawn⟩ := seen
    exact ⟨nav.newBackStack, reachable_backStack reached, drawn⟩
  · intro seen
    obtain ⟨newBackStack, reached, drawn⟩ := seen
    obtain ⟨nav, reachedToo, rfl⟩ := reachable_of_backStack pcpp persisted reached
    exact ⟨nav, reachedToo, drawn⟩

end AppNavigation

/-! What the firewall does when nobody asks for an address. -/

/-- No row of the table is blocked while no step asks for it. -/
theorem Addresses.unblocked_step {addresses next : Addresses} {label : Addresses.Label}
    (allowed : ∀ row ∈ addresses.table.rows, row.isBlocked = false)
    (silent : ∀ row, label.request row = none) (taken : addresses.step label = some next) :
    ∀ row ∈ next.table.rows, row.isBlocked = false := by
  intro row member
  by_cases new : ∀ old ∈ addresses.table.rows, old.id ≠ row.id
  · exact inserted_unblocked taken ⟨member, new⟩
  · simp only [not_forall, not_not] at new
    obtain ⟨old, oldMember, same⟩ := new
    obtain ⟨lastSeen, kept⟩ := keeps_step oldMember taken
    rw [silent old, Option.getD_none] at kept
    rw [AddressTable.eq_of_id_eq member kept same.symm]
    exact allowed old oldMember

structure System.AddressesAllowed (system : System) : Prop where
  rows : ∀ row ∈ system.addresses.table.rows, row.isBlocked = false
  lookups : ∀ call isAddressBlocked, system.loop = .verdict call isAddressBlocked →
    isAddressBlocked = false

namespace System.AddressesAllowed

variable {pcpp : PcapPlusPlus} {system : System}

theorem addressBlocked (allowed : system.AddressesAllowed) (key : AddressKey) :
    system.addresses.addressBlocked key = false := by
  rw [Addresses.addressBlocked, Option.any_eq_false]
  exact fun row found => allowed.rows row (AddressTable.getAddress_key found).1

theorem step {next : System} {label : System.Label} (allowed : system.AddressesAllowed)
    (silent : ∀ request, label = .addresses request → ∀ row, request.request row = none)
    (taken : system.step pcpp label = some next) : next.AddressesAllowed := by
  obtain ⟨rows, lookups⟩ := allowed
  cases System.step_system taken with
  | @service label service stepped =>
      refine ⟨rows, fun call isAddressBlocked stage => ?_⟩
      simp only [System.afterService] at stage
      split at stage
      · cases stage
      · exact lookups call isAddressBlocked stage
  | laterInstance | readNothing | task | cleared => exact ⟨rows, lookups⟩
  | addresses updated => exact ⟨Addresses.unblocked_step rows (silent _ rfl) updated, lookups⟩
  | read | skipped | dropped | accepted | forwarded =>
      exact ⟨rows, fun _ _ => LoopStage.noConfusion⟩
  | unowned =>
      refine ⟨rows, fun call isAddressBlocked stage => ?_⟩
      cases stage
      rfl
  | tracked _ _ launched =>
      exact ⟨Addresses.unblocked_step rows (fun _ => rfl) launched, fun _ _ => LoopStage.noConfusion⟩
  | lookedUp =>
      refine ⟨rows, fun call isAddressBlocked stage => ?_⟩
      cases stage
      rw [isAddressBlockedForApp_query, addressBlocked ⟨rows, lookups⟩, Bool.and_false]

theorem step_policy {policy next : UserPolicy} {label : UserPolicy.Label}
    (allowed : policy.system.AddressesAllowed)
    (silent : ∀ request, label = .system (.addresses request) → ∀ row, request.request row = none)
    (taken : policy.step pcpp label = some next) : next.system.AddressesAllowed := by
  cases UserPolicy.step_policy taken with
  | asked | threw => exact allowed
  | wrote => exact ⟨allowed.rows, allowed.lookups⟩
  | ran kept stepped => exact allowed.step (fun request same => silent request (by rw [same])) stepped

end System.AddressesAllowed

namespace AppNavigation

/-- The address screen is out of reach, and so only whole apps are ever blocked. -/
structure OnlyAppsBlocked (nav : AppNavigation) : Prop where
  screens : ∀ screen ∈ nav.newBackStack.drawn, screen = .NestedGraph ∨ screen = .SelectApps
  unloaded : nav.loaded = []
  unasked : nav.updating = []
  allowed : nav.policy.system.AddressesAllowed

theorem OnlyAppsBlocked.step {next : AppNavigation} {pcpp : PcapPlusPlus} {nav : AppNavigation}
    (only : OnlyAppsBlocked nav)
    (screens : ∀ screen ∈ next.newBackStack.drawn, screen = .NestedGraph ∨ screen = .SelectApps)
    (taken : NavStep pcpp nav next) : OnlyAppsBlocked next := by
  obtain ⟨drawn, unloaded, unasked, allowed⟩ := only
  cases taken with
  | turned moved => exact ⟨screens, unloaded, unasked, allowed⟩
  | ignored => exact ⟨screens, unloaded, unasked, allowed⟩
  | asked silent stepped => exact ⟨screens, unloaded, unasked, allowed.step_policy silent stepped⟩
  | opened onScreen => rcases drawn _ onScreen with same | same <;> cases same
  | updated located =>
      rw [unasked] at located
      cases located
  | restarted => exact ⟨screens, rfl, rfl, allowed.rows, fun _ _ => LoopStage.noConfusion⟩

/-- However the user goes through the screens, and however often they or the process are
made anew: no address is ever blocked, and the packets of an app are dropped exactly if
the app is in the cache. -/
theorem only_apps_blocked {pcpp : PcapPlusPlus} {persisted : Finset String} {labels : List Label}
    {nav : AppNavigation}
    (ran : Transition.run (step pcpp) (created persisted) labels = some nav) :
    OnlyAppsBlocked nav ∧ ∀ call isAddressBlocked,
      nav.policy.system.loop = .verdict call isAddressBlocked →
        (verdict nav.policy.system.service.blockedAppCache call.sourcePackageName isAddressBlocked =
          .drop ↔ call.FromBlocked nav.policy.system.service.blockedAppCache) := by
  have only : OnlyAppsBlocked nav := by
    refine Transition.run_induction (fun _ nav => OnlyAppsBlocked nav) ?_ ?_ ran
    · intro labels nav label next reached only taken
      have reachable : Transition.Reachable (step pcpp) (created persisted) next :=
        ⟨_, Transition.run_append_singleton reached taken⟩
      exact only.step (fun screen drawn => drawn_iff.mp ⟨next, reachable, drawn⟩) (step_nav taken)
    · exact ⟨fun screen drawn => .inl (List.mem_singleton.mp drawn), rfl, rfl, nofun,
        fun _ _ => LoopStage.noConfusion⟩
  refine ⟨only, fun call isAddressBlocked stage => ?_⟩
  rw [only.allowed.lookups call isAddressBlocked stage]
  cases source : call.sourcePackageName with
  | none => simp [verdict, ForwardCall.FromBlocked, source]
  | some packageName => simp [verdict_drop_iff, ForwardCall.FromBlocked, source]

/-- The VPN is started, and a packet of either app is read. -/
def twoAppsRead : List System.Label :=
  [.service .emission, .service .checkRunning, .service (.command .START_VPN_SERVICE)] ++
    System.acceptedTurn datagramToPort9000.bytes "com.example.mail" ++
    (System.acceptedTurn System.blockedDatagram.bytes "com.example.blocked").take 3

/-- One of them was blocked from the list; a tap on the other in the tab opens nothing. -/
def blocksFromList : List Label :=
  [.onFabClicked, .onBlockIconClicked "com.example.blocked", .policy (.edit 0 none), .onBack,
    .onTabAppClick "com.example.mail" "Mail"] ++
    twoAppsRead.map fun label => .policy (.system label)

theorem blocksFromList_drops :
    ∃ nav call, Transition.run (step .headerRules) (created ∅) blocksFromList = some nav ∧
      OnlyAppsBlocked nav ∧ nav.policy.system.forwarded.length = 1 ∧
      nav.policy.system.loop = .verdict call false ∧
      verdict nav.policy.system.service.blockedAppCache call.sourcePackageName false = .drop := by
  have seen : (Transition.run (step .headerRules) (created ∅) blocksFromList).any (fun nav =>
      decide (nav.policy.system.forwarded.length = 1) &&
        (System.loopCall nav.policy.system.loop).any fun call =>
          decide (nav.policy.system.loop = .verdict call false) &&
            decide (call.FromBlocked nav.policy.system.service.blockedAppCache)) = true := by
    decide +kernel
  obtain ⟨nav, ran, holds⟩ := (Option.any_eq_true _ _).mp seen
  simp only [Bool.and_eq_true, decide_eq_true_eq] at holds
  obtain ⟨single, held⟩ := holds
  obtain ⟨call, -, waits⟩ := (Option.any_eq_true _ _).mp held
  simp only [Bool.and_eq_true, decide_eq_true_eq] at waits
  obtain ⟨stage, blocked⟩ := waits
  obtain ⟨only, decides⟩ := only_apps_blocked ran
  exact ⟨nav, call, ran, only, single, stage, (decides call false stage).mpr blocked⟩

end AppNavigation

end FirewallVpn
