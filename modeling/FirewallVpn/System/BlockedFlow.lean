import FirewallVpn.Forwarder.SpentFlow
import FirewallVpn.System.SharedBuffer

/-! A flow under a block. The verdict stops the packets that are read after it;
what the forwarder does for earlier packets goes on. -/

set_option autoImplicit false

namespace FirewallVpn

/-- The packet is of the app and goes to the address of the key. -/
def ForwardCall.flows (key : AddressKey) (call : ForwardCall) : Bool :=
  call.sourcePackageName = some key.packageName ∧
    destinationKey key.packageName call.traffic = key

/-- The two blocks the user can put on a flow. -/
inductive Block where
  | app
  | address
  deriving DecidableEq

namespace System

def InForce (key : AddressKey) (system : System) : Block → Prop
  | .app => key.packageName ∈ system.service.blockedAppCache
  | .address => system.addresses.addressBlocked key

/-- The address query for a packet of the flow does not throw. -/
def QueryReturns (key : AddressKey) (system : System) : Label → Prop
  | .lookup (some _) => ∀ call ∈ loopCall system.loop, call.flows key = false
  | _ => True

instance (key : AddressKey) (system : System) : ∀ block, Decidable (system.InForce key block)
  | .app => inferInstanceAs (Decidable (_ ∈ _))
  | .address => inferInstanceAs (Decidable (_ = true))

instance (key : AddressKey) (system : System) : ∀ label, Decidable (QueryReturns key system label)
  | .lookup (some _) => inferInstanceAs (Decidable (∀ call ∈ loopCall system.loop, _))
  | .lookup none | .service _ | .laterInstance _ | .addresses _ | .read _ | .parse _ _ _ | .verdict
  | .forward _ | .task _ _ | .clear => .isTrue trivial

/-- Nothing of the flow is on its way past the block: no coroutine has anything
left to send, and the loop has no packet that has passed the test. -/
structure Quiet (key : AddressKey) (block : Block) (system : System) : Prop where
  spent : ∀ task ∈ system.forwarder.tasks, task.call.flows key →
    Forwarder.Spent system.forwarder task.job
  unpassed : ∀ call, system.loop = .forward call → call.flows key = false
  unchecked : block = .address → ∀ call, system.loop = .verdict call false → call.flows key = false

structure Blocked (key : AddressKey) (block : Block) (start system : System) : Prop where
  winding : ∃ written,
    Forwarder.WindingDown (ForwardCall.flows key) start.forwarder system.forwarder written
  unpassed : ∀ call, system.loop = .forward call → call.flows key = false
  unchecked : block = .address → ∀ call, system.loop = .verdict call false → call.flows key = false
  source : ∀ call packageName, system.loop = .lookup call packageName →
    call.sourcePackageName = some packageName

variable {pcpp : PcapPlusPlus} {key : AddressKey} {block : Block} {system next start : System}
  {label : Label}

private theorem flows_iff {call : ForwardCall} :
    call.flows key ↔ call.sourcePackageName = some key.packageName ∧
      destinationKey key.packageName call.traffic = key := by
  simp [ForwardCall.flows]

private theorem SystemStep.source (stepped : SystemStep pcpp system label next)
    (source : ∀ call packageName, system.loop = .lookup call packageName →
      call.sourcePackageName = some packageName) :
    ∀ call packageName, next.loop = .lookup call packageName →
      call.sourcePackageName = some packageName := by
  intro call packageName stage
  cases stepped with
  | service taken =>
      simp only [afterService] at stage
      split at stage
      · cases stage
      · exact source call packageName stage
  | tracked atStage parses taken =>
      cases stage
      rw [parses]
      rfl
  | read | skipped | unowned | lookedUp | dropped | accepted | forwarded => cases stage
  | laterInstance | addresses | readNothing | task | cleared => exact source call packageName stage

theorem reachable_source {persisted : Finset String}
    (reachable : Transition.Reachable (step pcpp) (created persisted) system) :
    ∀ call packageName, system.loop = .lookup call packageName →
      call.sourcePackageName = some packageName :=
  reachable.invariant _ (fun _ _ _ source taken => (step_system taken).source source)
    fun _ _ => nofun

private theorem accepted_foreign {call : ForwardCall} {isAddressBlocked : Bool}
    (inForce : system.InForce key block)
    (unchecked : block = .address → isAddressBlocked = false → call.flows key = false)
    (allowed : FirewallVpn.verdict system.service.blockedAppCache call.sourcePackageName
      isAddressBlocked = .forward) : call.flows key = false := by
  by_contra inFlow
  rw [Bool.not_eq_false, flows_iff] at inFlow
  have dropped : FirewallVpn.verdict system.service.blockedAppCache call.sourcePackageName
      isAddressBlocked = .drop := by
    rw [inFlow.1, verdict_drop_iff]
    cases block with
    | app => exact .inl inForce
    | address =>
        cases isAddressBlocked with
        | true => exact .inr rfl
        | false =>
            have foreign := unchecked rfl rfl
            rw [← Bool.not_eq_true, flows_iff] at foreign
            exact absurd inFlow foreign
  rw [allowed] at dropped
  cases dropped

private theorem lookedUp_foreign {call : ForwardCall} {packageName : String}
    {thrown : Option String} (inForce : system.InForce key .address)
    (source : call.sourcePackageName = some packageName) (stage : system.loop = .lookup call packageName)
    (returns : QueryReturns key system (.lookup thrown))
    (unblocked : isAddressBlockedForApp
      (queryAddress system.addresses thrown (destinationKey packageName call.traffic)) = false) :
    call.flows key = false := by
  by_contra inFlow
  rw [Bool.not_eq_false] at inFlow
  obtain ⟨owner, destination⟩ := flows_iff.mp inFlow
  rw [source, Option.some.injEq] at owner
  subst owner
  cases thrown with
  | some error =>
      have foreign := returns call (by rw [stage]; rfl)
      rw [inFlow] at foreign
      cases foreign
  | none =>
      have blocked : system.addresses.addressBlocked key = true := inForce
      rw [isAddressBlockedForApp_query, destination, blocked] at unblocked
      cases unblocked

private theorem Blocked.winding_step (blocked : Blocked key block start system)
    (stepped : SystemStep pcpp system label next) :
    ∃ written, Forwarder.WindingDown (ForwardCall.flows key) start.forwarder next.forwarder written := by
  obtain ⟨written, winding⟩ := blocked.winding
  have moved := stepped.forwarder
  split at moved
  · rw [moved]
    exact ⟨written, winding⟩
  · next forwarderLabel located =>
      refine winding.step (fun call answer same => ?_) moved
      subst same
      cases stepped with
      | forwarded stage taken =>
          simp only [System.forwarderLabel, stage, Option.some.injEq,
            Forwarder.Label.forwardPacket.injEq] at located
          rw [← located.1]
          exact blocked.unpassed _ stage
      | service taken =>
          simp only [System.forwarderLabel] at located
          split at located <;> cases located
      | read atHead taken =>
          simp only [System.forwarderLabel] at located
          split at located <;> cases located
      | laterInstance | addresses | readNothing | skipped | unowned | tracked | lookedUp | dropped
      | accepted | task | cleared => cases located

theorem Blocked.step (blocked : Blocked key block start system) (inForce : system.InForce key block)
    (returns : block = .address → QueryReturns key system label)
    (taken : system.step pcpp label = some next) : Blocked key block start next := by
  have stepped := step_system taken
  have winding := blocked.winding_step stepped
  have source := stepped.source blocked.source
  obtain ⟨-, unpassed, unchecked, sourceBefore⟩ := blocked
  cases stepped with
  | service serviceTaken =>
      refine ⟨winding, fun call stage => ?_, fun address call stage => ?_, source⟩
      · simp only [afterService] at stage
        split at stage
        · cases stage
        · exact unpassed call stage
      · simp only [afterService] at stage
        split at stage
        · cases stage
        · exact unchecked address call stage
  | unowned stage =>
      refine ⟨winding, fun _ same => (by cases same), fun _ call same => ?_, source⟩
      cases same
      simp [ForwardCall.flows, parsed]
  | lookedUp stage =>
      refine ⟨winding, fun _ same => (by cases same), fun address call same => ?_, source⟩
      subst address
      obtain ⟨rfl, unblocked⟩ := LoopStage.verdict.inj same
      exact lookedUp_foreign inForce (sourceBefore _ _ stage) stage (returns rfl) unblocked
  | accepted stage allowed =>
      refine ⟨winding, fun call same => ?_, fun _ _ same => (by cases same), source⟩
      cases same
      refine accepted_foreign inForce (fun address unblocked => ?_) allowed
      exact unchecked address _ (unblocked ▸ stage)
  | read | skipped | tracked | dropped | forwarded =>
      exact ⟨winding, fun _ same => (by cases same), fun _ _ same => (by cases same), source⟩
  | laterInstance | addresses | readNothing | task | cleared =>
      exact ⟨winding, unpassed, unchecked, source⟩

/-- From a state in which nothing of the flow is on its way past the block, and
while the block stays in force, only what had been begun reaches the TUN and
nothing is sent to the remote side. -/
theorem blocked_flow_winds_down {persisted : Finset String} {labels : List Label} {final : System}
    (reachable : Transition.Reachable (step pcpp) (created persisted) start)
    (quiet : Quiet key block start)
    (guarded : Transition.Guarded (step pcpp)
      (fun system label => system.InForce key block ∧
        (block = .address → QueryReturns key system label)) start labels)
    (ran : Transition.run (step pcpp) start labels = some final) :
    Forwarder.OnlyUnderWay (ForwardCall.flows key) start.forwarder
      (final.forwarder.outputs.drop start.forwarder.outputs.length) := by
  have owned : Forwarder.Owned start.forwarder := by
    obtain ⟨forwarderLabels, forwarderRan⟩ := reachable_forwarder reachable
    exact Forwarder.owned_of_run forwarderRan
  have atStart : Blocked key block start start :=
    ⟨⟨[], Forwarder.windingDown_start owned quiet.spent⟩, quiet.unpassed, quiet.unchecked,
      reachable_source reachable⟩
  have blocked := guarded.preserves (Blocked key block start)
    (fun _ _ _ blocked admitted taken => blocked.step admitted.1 admitted.2 taken) atStart ran
  obtain ⟨written, winding⟩ := blocked.winding
  exact winding.onlyUnderWay

/-- The mail app connects to its server, and the server's row is in the table. -/
def mailConnects : List Label :=
  .service (.command .START_VPN_SERVICE) ::
    acceptedTurn (Forwarder.synPacket 0).bytes "com.example.mail" ++
    List.replicate 2 (.addresses (.tracker 0)) ++ List.replicate 10 (.task 0 .returns)

def blockServer : Label := .addresses (.toggleAddressBlock 1 true)

def mailKey : AddressKey := ⟨"com.example.mail", "93.184.216.34", 443, .tcp⟩

/-- The system after `labels`, from the creation of the service on. -/
def reached (labels : List Label) : System :=
  (Transition.run (step .headerRules) (created ∅) labels).getD (created ∅)

private theorem reached_reachable {labels : List Label}
    (enabled : (Transition.run (step .headerRules) (created ∅) labels).isSome) :
    Transition.Reachable (step .headerRules) (created ∅) (reached labels) := by
  obtain ⟨state, ran⟩ := Option.isSome_iff_exists.mp enabled
  refine ⟨labels, ?_⟩
  rw [reached, ran, Option.getD_some]

/-- The server ends the connection before its address is blocked. -/
def mailEnded : List Label :=
  mailConnects ++
    [.task 1 .returns, .task 1 .endOfStream, .task 1 .returns, .task 1 .returns, blockServer]

/-- The app connects anew and meets the block. -/
def packetDropped : List Label :=
  [.read (Forwarder.synPacket 9).bytes, .parse "" "" (some "com.example.mail"), .lookup none, .verdict]

theorem ended_flow_silent :
    ∃ final, Transition.run (step .headerRules) (reached mailEnded) packetDropped = some final ∧
      Forwarder.OnlyUnderWay (ForwardCall.flows mailKey) (reached mailEnded).forwarder
        (final.forwarder.outputs.drop (reached mailEnded).forwarder.outputs.length) := by
  obtain ⟨final, ran⟩ := Option.isSome_iff_exists.mp (by decide +kernel :
    (Transition.run (step .headerRules) (reached mailEnded) packetDropped).isSome = true)
  have atHead : (reached mailEnded).loop = .reading := by decide +kernel
  have quiet : Quiet mailKey .address (reached mailEnded) := by
    refine ⟨by decide +kernel, ?_, ?_⟩
    · rw [atHead]
      exact fun _ => nofun
    · rw [atHead]
      exact fun _ _ => nofun
  exact ⟨final, ran, blocked_flow_winds_down (reached_reachable (by decide +kernel)) quiet
    (by decide +kernel) ran⟩

/-- The reader of a connection made before goes round again. -/
def readerGoesOn : List Label :=
  [.task 1 .returns, .task 1 (.chunk [0x48]), .task 1 .returns, .task 1 .returns]

theorem blocked_flow_still_served :
    ¬ ∀ (pcpp : PcapPlusPlus) (persisted : Finset String) (key : AddressKey) (block : Block)
        (start final : System) (labels : List Label),
      pcpp.Documented → Transition.Reachable (step pcpp) (created persisted) start →
      Transition.Guarded (step pcpp) (fun system _ => system.InForce key block) start labels →
      Transition.run (step pcpp) start labels = some final →
      Forwarder.OnlyUnderWay (ForwardCall.flows key) start.forwarder
        (final.forwarder.outputs.drop start.forwarder.outputs.length) := by
  intro silent
  have observed : (Transition.run (step .headerRules) (reached (mailConnects ++ [blockServer]))
      readerGoesOn).map (fun final => Forwarder.segments (ForwardCall.flows mailKey) 1
        (final.forwarder.outputs.drop
          (reached (mailConnects ++ [blockServer])).forwarder.outputs.length)) = some 1 := by
    decide +kernel
  obtain ⟨final, ran, segments⟩ := Option.map_eq_some_iff.mp observed
  have onlyUnderWay := silent .headerRules ∅ mailKey .address
    (reached (mailConnects ++ [blockServer])) final readerGoesOn
    PcapPlusPlus.headerRules_documented (reached_reachable (by decide +kernel)) (by decide +kernel) ran
  have bound := onlyUnderWay.iterations 1
  rw [segments] at bound
  exact absurd bound (by decide +kernel)

end System

end FirewallVpn
