import FirewallVpn.Library.Edits
import FirewallVpn.Service.PolicyChange
import FirewallVpn.System.FirstPackets
import FirewallVpn.System.Pipeline

/-! The firewall with the user at work on its policy. `MainViewModel` launches one
coroutine for each app that is blocked or unblocked; the block it passes to
`dataStore.edit` reads and writes the set in one step, in whatever order the edits come. -/

set_option autoImplicit false

namespace FirewallVpn

open Edits

/-- The store has been edited, and nothing else has happened. -/
def System.persist (system : System) (blocked : Finset String) : System :=
  { system with service := { system.service with persisted := blocked } }

theorem System.persist_step {pcpp : PcapPlusPlus} {system : System} {blocked : Finset String} :
    system.step pcpp (.service (.persist blocked)) = some (system.persist blocked) := by
  simp [step, afterService, persist, Service.step, Service.Label.destroys]

/-- `editing` are the coroutines of `viewModelScope` that have yet to edit the store,
`written` and `failed` the history of those that have and of those whose edit threw. -/
structure UserPolicy where
  system : System
  editing : List (Edit String)
  written : List (Edit String)
  failed : List (Edit String)

namespace UserPolicy

def created (persisted : Finset String) : UserPolicy where
  system := .created persisted
  editing := []
  written := []
  failed := []

inductive Label where
  | addBlockedApp (packageName : String)
  | removeBlockedApp (packageName : String)
  /-- Either `edit` throws, or `viewModelScope` is cancelled first. -/
  | edit (index : Nat) (thrown : Option String)
  | system (label : System.Label)
  deriving DecidableEq

variable (pcpp : PcapPlusPlus) (policy : UserPolicy)

/-- The persisted set is changed by the coroutines of the view model only. -/
def step : Label → Option UserPolicy
  | .addBlockedApp packageName =>
      some { policy with editing := policy.editing ++ [.add packageName] }
  | .removeBlockedApp packageName =>
      some { policy with editing := policy.editing ++ [.remove packageName] }
  | .edit index thrown =>
      match policy.editing[index]? with
      | none => none
      | some edit =>
          match thrown with
          | some _ => some { policy with
              editing := policy.editing.eraseIdx index
              failed := policy.failed ++ [edit] }
          | none =>
              (policy.system.step pcpp
                (.service (.persist (edit.apply policy.system.service.persisted)))).map fun system =>
                  { policy with
                    system
                    editing := policy.editing.eraseIdx index
                    written := policy.written ++ [edit] }
  | .system label =>
      if System.keepsPolicy label then
        (policy.system.step pcpp label).map fun system => { policy with system }
      else none

def requests (labels : List Label) : List (Edit String) :=
  labels.filterMap fun
    | .addBlockedApp packageName => some (.add packageName)
    | .removeBlockedApp packageName => some (.remove packageName)
    | .edit _ _ | .system _ => none

inductive PolicyStep (pcpp : PcapPlusPlus) (policy : UserPolicy) : Label → UserPolicy → Prop where
  | asked {label : Label} {edit : Edit String} (request : requests [label] = [edit]) :
      PolicyStep pcpp policy label { policy with editing := policy.editing ++ [edit] }
  | wrote {index : Nat} {edit : Edit String} (located : policy.editing[index]? = some edit) :
      PolicyStep pcpp policy (.edit index none)
        { policy with
          system := policy.system.persist (edit.apply policy.system.service.persisted)
          editing := policy.editing.eraseIdx index
          written := policy.written ++ [edit] }
  | threw {index : Nat} {edit : Edit String} {message : String}
      (located : policy.editing[index]? = some edit) :
      PolicyStep pcpp policy (.edit index (some message))
        { policy with
          editing := policy.editing.eraseIdx index
          failed := policy.failed ++ [edit] }
  | ran {label : System.Label} {system : System} (kept : System.keepsPolicy label)
      (taken : policy.system.step pcpp label = some system) :
      PolicyStep pcpp policy (.system label) { policy with system }

variable {pcpp policy}

theorem step_policy {label : Label} {next : UserPolicy} (taken : policy.step pcpp label = some next) :
    PolicyStep pcpp policy label next := by
  cases label with
  | addBlockedApp packageName | removeBlockedApp packageName =>
      cases taken
      exact .asked rfl
  | edit index thrown =>
      simp only [step] at taken
      split at taken
      · cases taken
      · next edit located =>
          split at taken
          · cases taken
            exact .threw located
          · rw [System.persist_step] at taken
            cases taken
            exact .wrote located
  | system label =>
      simp only [step] at taken
      split at taken
      · next kept =>
          obtain ⟨system, stepped, rfl⟩ := Option.map_eq_some_iff.mp taken
          exact .ran kept stepped
      · cases taken

theorem reachable_system {persisted : Finset String}
    (reachable : Transition.Reachable (step pcpp) (created persisted) policy) :
    Transition.Reachable (System.step pcpp) (.created persisted) policy.system := by
  refine reachable.project UserPolicy.system fun before label next taken => ?_
  cases step_policy taken with
  | asked | threw => exact .refl _
  | @wrote index edit located =>
      refine ⟨[.service (.persist (edit.apply before.system.service.persisted))], ?_⟩
      simp [Transition.run_cons, System.persist_step]
  | @ran label system kept stepped => exact ⟨[label], by simp [Transition.run_cons, stepped]⟩

/-- Apart from the user, the store is left alone, and the cache is the store's content
of the moment or what it was. -/
theorem step_cache {system next : System} {label : System.Label} (kept : System.keepsPolicy label)
    (taken : system.step pcpp label = some next) :
    next.service.persisted = system.service.persisted ∧
      (next.service.blockedAppCache = system.service.persisted ∧ next.policyLoaded = true ∨
        next.service.blockedAppCache = system.service.blockedAppCache ∧
          next.policyLoaded = system.policyLoaded) := by
  cases System.step_system taken with
  | @service label service stepped =>
      obtain ⟨unchanged, cache⟩ := Service.step_policy stepped
      constructor
      · apply unchanged
        rintro blocked rfl
        cases kept
      · by_cases emits : label = .emission
        · rw [if_pos emits] at cache
          exact .inl ⟨cache, by simp [System.afterService, emits]⟩
        · rw [if_neg emits] at cache
          exact .inr ⟨cache, by simp [System.afterService, emits]⟩
  | @laterInstance label service destroys stepped =>
      obtain ⟨unchanged, cache⟩ := Service.step_policy stepped
      have silent : label ≠ .emission := by
        rintro rfl
        cases destroys
      constructor
      · apply unchanged
        rintro blocked rfl
        cases destroys
      · rw [if_neg silent] at cache
        exact .inr ⟨cache, rfl⟩
  | addresses | readNothing | read | skipped | unowned | tracked | lookedUp | dropped | accepted
  | forwarded | task | cleared => exact ⟨rfl, .inr ⟨rfl, rfl⟩⟩

structure Follows (persisted : Finset String) (labels : List Label) (policy : UserPolicy) : Prop where
  accounted : (policy.written ++ policy.failed ++ policy.editing).Perm (requests labels)
  stored : policy.system.service.persisted = replay persisted policy.written
  unloaded : policy.system.policyLoaded = false → policy.system.service.blockedAppCache = ∅
  cached : policy.system.policyLoaded → ∃ seen, seen <+: policy.written ∧
    policy.system.service.blockedAppCache = replay persisted seen

theorem requests_append (labels others : List Label) :
    requests (labels ++ others) = requests labels ++ requests others :=
  List.filterMap_append

theorem perm_eraseIdx {edits : List (Edit String)} {index : Nat} {edit : Edit String}
    (located : edits[index]? = some edit) : (edit :: edits.eraseIdx index).Perm edits := by
  obtain ⟨inside, rfl⟩ := List.getElem?_eq_some_iff.mp located
  exact List.getElem_cons_eraseIdx_perm inside

theorem Follows.step {persisted : Finset String} {labels : List Label} {label : Label}
    {next : UserPolicy} (follows : Follows persisted labels policy)
    (taken : policy.step pcpp label = some next) : Follows persisted (labels ++ [label]) next := by
  obtain ⟨accounted, stored, unloaded, cached⟩ := follows
  cases step_policy taken with
  | asked request =>
      refine ⟨?_, stored, unloaded, cached⟩
      rw [requests_append, request, ← List.append_assoc]
      exact accounted.append_right _
  | @wrote index edit located =>
      refine ⟨?_, ?_, unloaded, fun loaded => ?_⟩
      · rw [requests_append]
        refine List.Perm.trans ?_ (accounted.append_right _)
        simp only [List.append_assoc, List.singleton_append, requests, List.filterMap_cons,
          List.filterMap_nil, List.append_nil]
        refine List.Perm.append_left _ ?_
        exact List.perm_middle.symm.trans ((perm_eraseIdx located).append_left _)
      · change edit.apply policy.system.service.persisted = _
        rw [stored, replay_concat]
      · obtain ⟨seen, before, same⟩ := cached loaded
        exact ⟨seen, before.trans (List.prefix_append _ _), same⟩
  | @threw index edit message located =>
      refine ⟨?_, stored, unloaded, cached⟩
      rw [requests_append]
      refine List.Perm.trans ?_ (accounted.append_right _)
      simp only [List.append_assoc, List.singleton_append, requests, List.filterMap_cons,
        List.filterMap_nil, List.append_nil]
      exact (((perm_eraseIdx located).append_left _).append_left _)
  | @ran label system kept stepped =>
      obtain ⟨unchanged, ⟨cache, loaded⟩ | ⟨cache, loaded⟩⟩ := step_cache kept stepped
      · refine ⟨?_, unchanged.trans stored, fun early => ?_, fun _ => ?_⟩
        · rw [requests_append]
          simpa [requests] using accounted
        · rw [loaded] at early
          cases early
        · exact ⟨policy.written, List.prefix_refl _, cache.trans stored⟩
      · refine ⟨?_, unchanged.trans stored, fun early => ?_, fun late => ?_⟩
        · rw [requests_append]
          simpa [requests] using accounted
        · exact cache.trans (unloaded (loaded.symm.trans early))
        · obtain ⟨seen, before, same⟩ := cached (loaded.symm.trans late)
          exact ⟨seen, before, cache.trans same⟩

theorem follows_of_run {persisted : Finset String} {labels : List Label}
    (ran : Transition.run (step pcpp) (created persisted) labels = some policy) :
    Follows persisted labels policy := by
  refine Transition.run_history (Follows persisted) (fun _ _ _ _ follows taken => follows.step taken)
    ?_ ran
  exact ⟨List.Perm.refl _, rfl, fun _ => rfl, nofun⟩

/-- The live service at rest works with the stored set. -/
theorem cache_stored {persisted : Finset String}
    (reachable : Transition.Reachable (step pcpp) (created persisted) policy)
    (active : policy.system.service.companion.scopeCancelled = false)
    (quiescent : policy.system.service.Quiescent) :
    policy.system.service.blockedAppCache = policy.system.service.persisted :=
  (Service.reachable_sound (System.reachable_service (reachable_system reachable))).follows active
    quiescent

/-- In every run each edit asked for is written once, has failed or is under way, the
store holds the edits written and the cache those of some moment before; and when the
live service comes to rest, an app is blocked exactly if the last edit of it says so. -/
theorem policy_follows_edits {persisted : Finset String} {labels : List Label}
    (ran : Transition.run (step pcpp) (created persisted) labels = some policy) :
    Follows persisted labels policy ∧
      (policy.system.service.companion.scopeCancelled = false → policy.system.service.Quiescent →
        ∀ packageName, packageName ∈ policy.system.service.blockedAppCache ↔
          lastOn packageName policy.written = some (.add packageName) ∨
            lastOn packageName policy.written = none ∧ packageName ∈ persisted) := by
  have follows := follows_of_run ran
  refine ⟨follows, fun active quiescent packageName => ?_⟩
  rw [cache_stored ⟨labels, ran⟩ active quiescent, follows.stored, mem_replay_iff]

/-- The blocking of the app has been written, and the collector has loaded it. -/
structure Blocks (packageName : String) (policy : UserPolicy) : Prop where
  stored : packageName ∈ policy.system.service.persisted
  loaded : packageName ∈ policy.system.service.blockedAppCache

def Removes (packageName : String) (policy : UserPolicy) : Label → Prop
  | .edit index none => policy.editing[index]? = some (.remove packageName)
  | .edit _ (some _) | .addBlockedApp _ | .removeBlockedApp _ | .system _ => False

instance (packageName : String) (policy : UserPolicy) :
    ∀ label, Decidable (Removes packageName policy label)
  | .edit index none => inferInstanceAs (Decidable (policy.editing[index]? = _))
  | .edit _ (some _) | .addBlockedApp _ | .removeBlockedApp _ | .system _ => .isFalse id

/-- The packets of the app that have passed, and one that has been let pass already. -/
def passing (packageName : String) (system : System) : List ForwardCall :=
  (system.forwarded ++ match system.loop with
    | .forward call => [call]
    | .reading | .parsing _ | .lookup _ _ | .verdict _ _ => []).filter
      fun call => call.sourcePackageName = some packageName

theorem Blocks.step {packageName : String} {label : Label} {next : UserPolicy}
    (blocks : Blocks packageName policy) (spared : ¬ Removes packageName policy label)
    (taken : policy.step pcpp label = some next) : Blocks packageName next := by
  obtain ⟨stored, loaded⟩ := blocks
  cases step_policy taken with
  | asked | threw => exact ⟨stored, loaded⟩
  | @wrote index edit located =>
      refine ⟨Edit.mem_apply_of_ne_remove ?_ stored, loaded⟩
      rintro rfl
      exact spared located
  | ran kept stepped =>
      obtain ⟨unchanged, ⟨cache, -⟩ | ⟨cache, -⟩⟩ := step_cache kept stepped
      · exact ⟨unchanged ▸ stored, cache ▸ stored⟩
      · exact ⟨unchanged ▸ stored, cache ▸ loaded⟩

/-- A packet of an app in the cache gets no leave to pass. -/
theorem passing_step {packageName : String} {system next : System} {label : System.Label}
    (loaded : packageName ∈ system.service.blockedAppCache)
    (taken : system.step pcpp label = some next) :
    passing packageName next <+: passing packageName system := by
  have kept : ∀ next : System, next.forwarded = system.forwarded →
      (next.loop = system.loop ∨ ∀ call, next.loop ≠ .forward call) →
      passing packageName next <+: passing packageName system := by
    intro next forwarded loopOrIdle
    rcases loopOrIdle with loop | idle
    · rw [passing, passing, forwarded, loop]
    · have none : passing packageName next =
          system.forwarded.filter fun call => call.sourcePackageName = some packageName := by
        unfold passing
        split
        · next call stage => exact absurd stage (idle call)
        · rw [List.append_nil, forwarded]
        · rw [List.append_nil, forwarded]
        · rw [List.append_nil, forwarded]
        · rw [List.append_nil, forwarded]
      rw [none, passing, List.filter_append]
      exact List.prefix_append _ _
  cases System.step_system taken with
  | @service label service stepped =>
      by_cases ended : label = .readLoopBreaks ∨ label = .readLoopExits
      · exact kept _ rfl (.inr fun call => by simp [System.afterService, ended])
      · exact kept _ rfl (.inl (by simp [System.afterService, ended]))
  | laterInstance | addresses | readNothing | task | cleared => exact kept _ rfl (.inl rfl)
  | read | skipped | unowned | tracked | lookedUp | dropped =>
      exact kept _ rfl (.inr fun _ => LoopStage.noConfusion)
  | @accepted call isAddressBlocked stage allowed =>
      have other : call.sourcePackageName ≠ some packageName := by
        intro source
        rw [source, (verdict_drop_iff _ _ _).mpr (.inl loaded)] at allowed
        cases allowed
      simp [passing, stage, other]
  | forwarded stage =>
      simp [passing, stage]

/-- From the moment the blocking of an app is loaded until a removal of it is written,
no packet of the app is forwarded but the one the loop has already let pass. -/
theorem blocked_until_removed {packageName : String} {start final : UserPolicy} {labels : List Label}
    (blocks : Blocks packageName start)
    (spared : Transition.Guarded (step pcpp)
      (fun policy label => ¬ Removes packageName policy label) start labels)
    (ran : Transition.run (step pcpp) start labels = some final) :
    Blocks packageName final ∧
      passing packageName final.system <+: passing packageName start.system := by
  refine spared.preserves
    (fun policy => Blocks packageName policy ∧
      passing packageName policy.system <+: passing packageName start.system)
    ?_ ⟨blocks, List.prefix_refl _⟩ ran
  intro policy label next before spared taken
  obtain ⟨blocks, passed⟩ := before
  refine ⟨blocks.step spared taken, ?_⟩
  cases step_policy taken with
  | asked | threw | wrote => exact passed
  | ran kept stepped => exact (passing_step blocks.loaded stepped).trans passed

/-- The user blocks one app and then another, whose edit throws. -/
def blocksOne : List Label :=
  [.addBlockedApp "com.example.blocked", .edit 0 none, .system (.service .emission),
    .system (.service .checkRunning), .addBlockedApp "com.example.mail", .edit 0 (some "IOException")]

theorem blocksOne_followed :
    ∃ policy, Transition.run (step .headerRules) (created ∅) blocksOne = some policy ∧
      Follows ∅ blocksOne policy ∧
      "com.example.blocked" ∈ policy.system.service.blockedAppCache ∧
      "com.example.mail" ∉ policy.system.service.blockedAppCache := by
  have seen : (Transition.run (step .headerRules) (created ∅) blocksOne).map (fun policy =>
      (policy.system.service.companion.scopeCancelled, decide policy.system.service.Quiescent,
        policy.written)) = some (false, true, [.add "com.example.blocked"]) := by
    decide +kernel
  obtain ⟨policy, ran, same⟩ := Option.map_eq_some_iff.mp seen
  simp only [Prod.mk.injEq, decide_eq_true_eq] at same
  obtain ⟨active, quiescent, written⟩ := same
  obtain ⟨follows, decided⟩ := policy_follows_edits ran
  refine ⟨policy, ran, follows, ?_, ?_⟩
  · rw [decided active quiescent, written]
    decide
  · rw [decided active quiescent, written]
    decide

/-- The VPN is started, and a packet of either app is read. -/
def readsBoth : List Label :=
  (.service (.command .START_VPN_SERVICE) ::
    System.acceptedTurn datagramToPort9000.bytes "com.example.mail" ++
    (System.acceptedTurn System.blockedDatagram.bytes "com.example.blocked").take 4).map .system

theorem readsBoth_blocked :
    ∃ start final, Transition.run (step .headerRules) (created ∅) blocksOne = some start ∧
      Transition.run (step .headerRules) start readsBoth = some final ∧
      final.system.forwarded.length = 1 ∧ passing "com.example.blocked" final.system = [] := by
  have seen : (Transition.run (step .headerRules) (created ∅) blocksOne).any (fun start =>
      decide ("com.example.blocked" ∈ start.system.service.persisted) &&
        decide ("com.example.blocked" ∈ start.system.service.blockedAppCache) &&
        decide (Transition.Guarded (step .headerRules)
          (fun policy label => ¬ Removes "com.example.blocked" policy label) start readsBoth) &&
        decide (passing "com.example.blocked" start.system = []) &&
        (Transition.run (step .headerRules) start readsBoth).any fun final =>
          decide (final.system.forwarded.length = 1)) = true := by
    decide +kernel
  obtain ⟨start, ran, holds⟩ := (Option.any_eq_true _ _).mp seen
  simp only [Bool.and_eq_true, decide_eq_true_eq] at holds
  obtain ⟨⟨⟨⟨stored, loaded⟩, spared⟩, none⟩, later⟩ := holds
  obtain ⟨final, ranOn, single⟩ := (Option.any_eq_true _ _).mp later
  have passed := (blocked_until_removed ⟨stored, loaded⟩ spared ranOn).2
  rw [none] at passed
  exact ⟨start, final, ran, ranOn, of_decide_eq_true single, List.prefix_nil.mp passed⟩

end UserPolicy

end FirewallVpn
