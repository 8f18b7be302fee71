import FirewallVpn.Addresses.Tracking
import FirewallVpn.Forwarder.Inversion
import FirewallVpn.Service.Agreement

/-! The running firewall: the service, the address table and the forwarder, with
the loop of `readPackets` between them. The loop is cut where another coroutine
can come in between: at the read, at the query of the table, at the reading of
`blockedAppCache` and at the call of `forwardPacket`. -/

set_option autoImplicit false

namespace FirewallVpn

/-- The place the loop has reached, with the local variables it still needs. -/
inductive LoopStage where
  | reading
  | parsing (length : Nat)
  | lookup (call : ForwardCall) (packageName : String)
  | verdict (call : ForwardCall) (isAddressBlocked : Bool)
  | forward (call : ForwardCall)
  deriving DecidableEq

/-- `forwarded` is the history of the calls of `forwardPacket`, `policyLoaded`
whether `blockedAppCache` has been assigned yet. -/
structure System where
  service : Service
  addresses : Addresses
  loop : LoopStage
  forwarder : Forwarder
  forwarded : List ForwardCall
  policyLoaded : Bool

namespace System

/-- A process in which `onCreate` has just run. -/
def created (persisted : Finset String) : System where
  service := .created persisted
  addresses := .initial
  loop := .reading
  forwarder := .initial
  forwarded := []
  policyLoaded := false

/-- What the system resolves for a packet comes with the label of its parsing. -/
inductive Label where
  | service (label : Service.Label)
  /-- `onDestroy` of an instance made after the first was destroyed. -/
  | laterInstance (label : Service.Label)
  | addresses (label : Addresses.Label)
  | read (packet : List UInt8)
  | parse (timeStamp appName : String) (sourcePackageName : Option String)
  | lookup (thrown : Option String)
  | verdict
  | forward (answer : Answer)
  | task (index : Nat) (answer : Answer)
  | clear
  deriving DecidableEq

/-- Packets of which nothing is known are skipped. -/
def isKnown (traffic : TrafficLogResponse) : Bool :=
  traffic.srcIp ≠ "Unknown" || traffic.srcPort ≠ -1 || traffic.dstIp ≠ "Unknown" ||
    traffic.dstPort ≠ -1

variable (pcpp : PcapPlusPlus) (system : System)

/-- The loop returns to its head when it ends, so that nothing of it is left. -/
def afterService (label : Service.Label) (service : Service) : System :=
  { system with
    service := service
    loop := if label = .readLoopBreaks ∨ label = .readLoopExits then .reading else system.loop
    forwarder := if label.destroys then system.forwarder.closeAll else system.forwarder
    policyLoaded := system.policyLoaded || label = .emission }

def parsed (length : Nat) (timeStamp appName : String) (sourcePackageName : Option String) :
    ForwardCall where
  packet := system.forwarder.byteArray.take length
  traffic := { parseRealPacket pcpp system.forwarder.byteArray length timeStamp with appName }
  sourcePackageName := sourcePackageName

/-- `trackAppAddress` launches its coroutine before the address is looked up. -/
def track (call : ForwardCall) : Option System :=
  match call.sourcePackageName with
  | none => some { system with loop := .verdict call false }
  | some packageName =>
      (system.addresses.step
        (.trackAppAddress packageName call.traffic.appName call.traffic)).map fun addresses =>
          { system with addresses, loop := .lookup call packageName }

def loopStep : LoopStage → Label → Option System
  | .reading, .read packet =>
      if packet = [] then some system
      else (system.forwarder.step pcpp (.overwrite packet)).map fun forwarder =>
        { system with forwarder, loop := .parsing packet.length }
  | .parsing length, .parse timeStamp appName sourcePackageName =>
      let call := system.parsed pcpp length timeStamp appName sourcePackageName
      if isKnown call.traffic then system.track call else some { system with loop := .reading }
  | .lookup call packageName, .lookup thrown =>
      some { system with
        loop := .verdict call (isAddressBlockedForApp
          (queryAddress system.addresses thrown (destinationKey packageName call.traffic))) }
  | .verdict call isAddressBlocked, .verdict =>
      match FirewallVpn.verdict system.service.blockedAppCache call.sourcePackageName
          isAddressBlocked with
      | .drop => some { system with loop := .reading }
      | .forward => some { system with loop := .forward call }
  | .forward call, .forward answer =>
      (system.forwarder.step pcpp (.forwardPacket call answer)).map fun forwarder =>
        { system with forwarder, loop := .reading, forwarded := system.forwarded ++ [call] }
  | _, _ => none

/-- The loop tests `isActive` at its head only. -/
def step : Label → Option System
  | .service label =>
      if label = .readLoopExits ∧ system.loop ≠ .reading then none
      else (system.service.step label).map (system.afterService label)
  | .laterInstance label =>
      if label.destroys ∧ system.service.companion.scopeCancelled then
        (system.service.step label).map fun service => { system with service }
      else none
  | .addresses label =>
      match label with
      | .trackAppAddress _ _ _ => none
      | _ => (system.addresses.step label).map fun addresses => { system with addresses }
  | .task index answer =>
      (system.forwarder.step pcpp (.task index answer)).map fun forwarder =>
        { system with forwarder }
  | .clear => (system.forwarder.step pcpp .clear).map fun forwarder => { system with forwarder }
  | label =>
      if system.service.companion.readLoops = 0 then none
      else system.loopStep pcpp system.loop label

/-- The steps of the firewall. -/
inductive SystemStep (pcpp : PcapPlusPlus) (system : System) : Label → System → Prop where
  | service {label : Service.Label} {service : Service}
      (taken : system.service.step label = some service) :
      SystemStep pcpp system (.service label) (system.afterService label service)
  | laterInstance {label : Service.Label} {service : Service} (destroys : label.destroys)
      (taken : system.service.step label = some service) :
      SystemStep pcpp system (.laterInstance label) { system with service }
  | addresses {label : Addresses.Label} {addresses : Addresses}
      (taken : system.addresses.step label = some addresses) :
      SystemStep pcpp system (.addresses label) { system with addresses }
  | readNothing : SystemStep pcpp system (.read []) system
  | read {packet : List UInt8} {forwarder : Forwarder} (atHead : system.loop = .reading)
      (taken : system.forwarder.step pcpp (.overwrite packet) = some forwarder) :
      SystemStep pcpp system (.read packet)
        { system with forwarder, loop := .parsing packet.length }
  | skipped {length : Nat} {timeStamp appName : String} {sourcePackageName : Option String}
      (stage : system.loop = .parsing length) :
      SystemStep pcpp system (.parse timeStamp appName sourcePackageName)
        { system with loop := .reading }
  | unowned {length : Nat} {timeStamp appName : String} (stage : system.loop = .parsing length) :
      SystemStep pcpp system (.parse timeStamp appName none)
        { system with loop := .verdict (system.parsed pcpp length timeStamp appName none) false }
  | tracked {length : Nat} {timeStamp appName packageName : String} {addresses : Addresses}
      (stage : system.loop = .parsing length) {call : ForwardCall}
      (parses : call = system.parsed pcpp length timeStamp appName (some packageName))
      (taken : system.addresses.step (.trackAppAddress packageName call.traffic.appName call.traffic) =
        some addresses) :
      SystemStep pcpp system (.parse timeStamp appName (some packageName))
        { system with addresses, loop := .lookup call packageName }
  | lookedUp {call : ForwardCall} {packageName : String} {thrown : Option String}
      (stage : system.loop = .lookup call packageName) :
      SystemStep pcpp system (.lookup thrown) { system with
        loop := .verdict call (isAddressBlockedForApp
          (queryAddress system.addresses thrown (destinationKey packageName call.traffic))) }
  | dropped {call : ForwardCall} {isAddressBlocked : Bool}
      (stage : system.loop = .verdict call isAddressBlocked) :
      SystemStep pcpp system .verdict { system with loop := .reading }
  | accepted {call : ForwardCall} {isAddressBlocked : Bool}
      (stage : system.loop = .verdict call isAddressBlocked)
      (allowed : FirewallVpn.verdict system.service.blockedAppCache call.sourcePackageName
        isAddressBlocked = .forward) :
      SystemStep pcpp system .verdict { system with loop := .forward call }
  | forwarded {call : ForwardCall} {answer : Answer} {forwarder : Forwarder}
      (stage : system.loop = .forward call)
      (taken : system.forwarder.step pcpp (.forwardPacket call answer) = some forwarder) :
      SystemStep pcpp system (.forward answer)
        { system with forwarder, loop := .reading, forwarded := system.forwarded ++ [call] }
  | task {index : Nat} {answer : Answer} {forwarder : Forwarder}
      (taken : system.forwarder.step pcpp (.task index answer) = some forwarder) :
      SystemStep pcpp system (.task index answer) { system with forwarder }
  | cleared {forwarder : Forwarder} (taken : system.forwarder.step pcpp .clear = some forwarder) :
      SystemStep pcpp system .clear { system with forwarder }

variable {pcpp system}

private theorem loopStep_step {stage : LoopStage} {label : Label} {next : System}
    (atStage : system.loop = stage) (taken : system.loopStep pcpp stage label = some next) :
    SystemStep pcpp system label next := by
  cases stage with
  | reading =>
      cases label <;> simp only [loopStep, reduceCtorEq] at taken
      split at taken
      · next empty =>
          cases taken
          subst empty
          exact .readNothing
      · obtain ⟨forwarder, overwritten, rfl⟩ := Option.map_eq_some_iff.mp taken
        exact .read atStage overwritten
  | parsing length =>
      cases label <;> simp only [loopStep, reduceCtorEq] at taken
      split at taken
      · simp only [track] at taken
        split at taken
        · next unowned =>
            cases taken
            cases unowned
            exact .unowned atStage
        · next packageName owned =>
            obtain ⟨addresses, tracked, rfl⟩ := Option.map_eq_some_iff.mp taken
            cases owned
            exact .tracked atStage rfl tracked
      · cases taken
        exact .skipped atStage
  | lookup call packageName =>
      cases label <;> simp only [loopStep, reduceCtorEq] at taken
      cases taken
      exact .lookedUp atStage
  | verdict call isAddressBlocked =>
      cases label <;> simp only [loopStep, reduceCtorEq] at taken
      split at taken
      · cases taken
        exact .dropped atStage
      · next allowed =>
          cases taken
          exact .accepted atStage allowed
  | forward call =>
      cases label <;> simp only [loopStep, reduceCtorEq] at taken
      obtain ⟨forwarder, launched, rfl⟩ := Option.map_eq_some_iff.mp taken
      exact .forwarded atStage launched

theorem step_system {label : Label} {next : System} (taken : system.step pcpp label = some next) :
    SystemStep pcpp system label next := by
  have looped : ∀ label, (if system.service.companion.readLoops = 0 then none
      else system.loopStep pcpp system.loop label) = some next → SystemStep pcpp system label next := by
    intro label stepped
    split at stepped
    · cases stepped
    · exact loopStep_step rfl stepped
  cases label with
  | service label =>
      simp only [step] at taken
      split at taken
      · cases taken
      · obtain ⟨service, stepped, rfl⟩ := Option.map_eq_some_iff.mp taken
        exact .service stepped
  | laterInstance label =>
      simp only [step] at taken
      split at taken
      · next destroys =>
          obtain ⟨service, stepped, rfl⟩ := Option.map_eq_some_iff.mp taken
          exact .laterInstance destroys.1 stepped
      · cases taken
  | addresses label =>
      simp only [step] at taken
      split at taken
      · cases taken
      · obtain ⟨addresses, stepped, rfl⟩ := Option.map_eq_some_iff.mp taken
        exact .addresses stepped
  | task index answer =>
      obtain ⟨forwarder, stepped, rfl⟩ := Option.map_eq_some_iff.mp taken
      exact .task stepped
  | clear =>
      obtain ⟨forwarder, stepped, rfl⟩ := Option.map_eq_some_iff.mp taken
      exact .cleared stepped
  | read packet => exact looped _ taken
  | parse timeStamp appName sourcePackageName => exact looped _ taken
  | lookup thrown => exact looped _ taken
  | verdict => exact looped _ taken
  | forward answer => exact looped _ taken

/-! The forwarder's part in a run of the firewall. -/

def forwarderLabel (system : System) : Label → Option Forwarder.Label
  | .service label => if label.destroys then some .cleanup else none
  | .read packet => if packet = [] then none else some (.overwrite packet)
  | .forward answer =>
      match system.loop with
      | .forward call => some (.forwardPacket call answer)
      | _ => none
  | .task index answer => some (.task index answer)
  | .clear => some .clear
  | .laterInstance _ | .addresses _ | .parse _ _ _ | .lookup _ | .verdict => none

theorem SystemStep.forwarder {label : Label} {next : System}
    (stepped : SystemStep pcpp system label next) :
    match system.forwarderLabel label with
    | none => next.forwarder = system.forwarder
    | some moved => system.forwarder.step pcpp moved = some next.forwarder := by
  cases stepped with
  | @service label service taken =>
      by_cases destroys : label.destroys = true <;>
        simp [forwarderLabel, afterService, destroys, Forwarder.step]
  | @read packet forwarder atHead taken =>
      by_cases empty : packet = []
      · subst empty
        have unchanged : system.forwarder.step pcpp (.overwrite []) = some system.forwarder := by
          simp [Forwarder.step]
        rw [unchanged, Option.some.injEq] at taken
        exact taken.symm
      · simpa [forwarderLabel, empty] using taken
  | forwarded stage taken =>
      simp only [forwarderLabel, stage]
      exact taken
  | task taken => exact taken
  | cleared taken => exact taken
  | laterInstance | addresses | readNothing | skipped | unowned | tracked | lookedUp | dropped
  | accepted => rfl

theorem reachable_forwarder {persisted : Finset String}
    (reachable : Transition.Reachable (step pcpp) (created persisted) system) :
    Transition.Reachable (Forwarder.step pcpp) .initial system.forwarder := by
  refine reachable.project System.forwarder fun state label next taken => ?_
  have moved := (step_system taken).forwarder
  split at moved
  · rw [moved]
    exact .refl _
  · next forwarderLabel located => exact ⟨[forwarderLabel], by simp [Transition.run_cons, moved]⟩

/-! The service's part, and with it the one loop of the process. -/

theorem SystemStep.service_step {label : Label} {next : System}
    (stepped : SystemStep pcpp system label next) :
    next.service = system.service ∨
      ∃ serviceLabel, system.service.step serviceLabel = some next.service := by
  cases stepped with
  | service taken => exact .inr ⟨_, taken⟩
  | laterInstance destroys taken => exact .inr ⟨_, taken⟩
  | addresses | readNothing | read | skipped | unowned | tracked | lookedUp | dropped | accepted
  | forwarded | task | cleared => exact .inl rfl

theorem reachable_service {persisted : Finset String}
    (reachable : Transition.Reachable (step pcpp) (created persisted) system) :
    Transition.Reachable Service.step (.created persisted) system.service := by
  refine reachable.project System.service fun state label next taken => ?_
  rcases (step_system taken).service_step with same | ⟨serviceLabel, moved⟩
  · rw [same]
    exact .refl _
  · exact ⟨[serviceLabel], by simp [Transition.run_cons, moved]⟩

theorem reachable_readLoops_le_one {persisted : Finset String}
    (reachable : Transition.Reachable (step pcpp) (created persisted) system) :
    system.service.companion.readLoops ≤ 1 := by
  obtain ⟨labels, ran⟩ := reachable_service reachable
  exact Service.run_readLoops_le_one ran

/-! The buffer is not touched between the parsing of a packet and its forwarding. -/

/-- The call the loop has in hand. -/
def loopCall : LoopStage → Option ForwardCall
  | .reading | .parsing _ => none
  | .lookup call _ | .verdict call _ | .forward call => some call

theorem SystemStep.held {label : Label} {next : System}
    (stepped : SystemStep pcpp system label next)
    (held : ∀ call ∈ loopCall system.loop, call.packet <+: system.forwarder.byteArray) :
    ∀ call ∈ loopCall next.loop, call.packet <+: next.forwarder.byteArray := by
  have buffer : ∀ {moved : Forwarder.Label} {forwarder : Forwarder},
      system.forwarder.step pcpp moved = some forwarder → (∀ packet, moved ≠ .overwrite packet) →
        forwarder.byteArray = system.forwarder.byteArray := by
    intro moved forwarder taken unread
    cases Forwarder.step_forwarder taken with
    | overwritten fits => exact absurd rfl (unread _)
    | @resumed index task answer effect job located stepped => cases effect <;> rfl
    | launched | passedThrough | passThroughFailed | closedAll | cleared => rfl
  cases stepped with
  | @service serviceLabel service taken =>
      have same : (system.afterService serviceLabel service).forwarder.byteArray =
          system.forwarder.byteArray := by
        unfold afterService
        dsimp only
        split <;> rfl
      rw [same]
      intro call inHand
      simp only [afterService] at inHand
      split at inHand
      · cases inHand
      · exact held call inHand
  | unowned stage | tracked stage =>
      intro call inHand
      cases inHand
      subst_vars
      exact List.take_prefix _ _
  | lookedUp stage | accepted stage =>
      rw [stage] at held
      exact held
  | read | skipped | dropped | forwarded => exact fun _ => nofun
  | task taken =>
      rw [buffer taken nofun]
      exact held
  | cleared taken =>
      rw [buffer taken nofun]
      exact held
  | laterInstance | addresses | readNothing => exact held

theorem reachable_held {persisted : Finset String}
    (reachable : Transition.Reachable (step pcpp) (created persisted) system) :
    ∀ call ∈ loopCall system.loop, call.packet <+: system.forwarder.byteArray :=
  reachable.invariant _ (fun _ _ _ held taken => (step_system taken).held held) fun _ => nofun

end System

end FirewallVpn
