import FirewallVpn.Attribution.OldDevices
import FirewallVpn.Log.Trimming

/-! What an exception does to the loop of `readPackets`. The body has one `catch`
for everything it calls, and the `catch` leaves the loop; the inserts of the log
run in coroutines that have no handler. -/

set_option autoImplicit false

namespace FirewallVpn

namespace UidResolver

/-- The labels of the packages of one uid, joined. -/
def getAppNameFromUid (packageLabels : Except String (Option (List (Except String String)))) :
    Option String :=
  match packageLabels with
  | .error _ => none
  | .ok appLabels => appLabels.bind fun appLabels =>
      let appNames := ", ".intercalate (appLabels.filterMap Except.toOption)
      if appNames = "" then none else some appNames

end UidResolver

namespace ReadPackets

/-- What the loop is answered while it works on one packet. -/
structure Answers where
  /-- What `Gson` makes of the text of `parseRealPacket`. -/
  parsed : Except String (Option TrafficLogResponse)
  getSystemService : Except String Unit
  getConnectionOwnerUid : Except String Int
  useLines : String → Except String (List String)
  packageLabels : Int → Except String (Option (List (Except String String)))
  getPackagesForUid : Int → Except String (Option (List String))
  getAddress : AddressKey → Except String (Option AppAddressEntity)
  blockedAppCache : Finset String
  /-- The answer to `vpnOutputStream.write` of a packet that is passed through. -/
  passThrough : Except String Unit
  deleteExtraLogs : Except String Unit

/-- The ports `InetSocketAddress` takes. -/
def ValidPort (port : Int) : Prop := 0 ≤ port ∧ port ≤ 65535

instance (port : Int) : Decidable (ValidPort port) := inferInstanceAs (Decidable (_ ∧ _))

def inetSocketAddress (hostname : String) (port : Int) : Except String (String × Int) :=
  if ValidPort port then .ok (hostname, port) else .error "IllegalArgumentException"

variable (sdkInt : Nat) (answers : Answers)

def getUidFromIpPort (traffic : TrafficLogResponse) : Except String (Option Int) := do
  let protocol := traffic.protocolByte.number
  if protocol ≠ 6 ∧ protocol ≠ 17 then return none
  let source ← inetSocketAddress traffic.srcIp traffic.srcPort
  let destination ← inetSocketAddress traffic.dstIp traffic.dstPort
  let uid ← answers.getConnectionOwnerUid
  return UidResolver.getUidFromIpPort (fun _ _ _ => uid) source.1 source.2 destination.1
    destination.2 protocol

def findUidForConnection (localHex protocol : String) : Except String (Option Int) :=
  match UidResolver.filePath protocol with
  | none => .ok none
  | some file => (answers.useLines file).map fun lines =>
      UidResolver.findUidForConnection (fun _ => lines) localHex protocol

def resolveUid (traffic : TrafficLogResponse) : Except String (Option Int) :=
  if VERSION_CODES_Q ≤ sdkInt then getUidFromIpPort answers traffic
  else
    match UidResolver.ipPortToLocalHex traffic.srcIp traffic.srcPort with
    | none => .error "NumberFormatException"
    | some localHex => findUidForConnection answers localHex traffic.protocol.text

def appName (uid : Option Int) : String :=
  match uid with
  | some 0 => "Root / Kernel"
  | some (-1) => "Unknown UID"
  | uid =>
      (uid.bind fun uid => UidResolver.getAppNameFromUid (answers.packageLabels uid)).getD
        ("Unknown App (UID: " ++ uid.elim "null" toString ++ ")")

/-- Both tests of a packet whose source has this uid. -/
def checks (traffic : TrafficLogResponse) (uid : Option Int) : Verdict :=
  let sourcePackageName := uid.bind fun uid =>
    UidResolver.getPackageNameFromUid (answers.getPackagesForUid uid)
  let isAddressBlocked := (sourcePackageName.map fun packageName =>
    isAddressBlockedForApp (answers.getAddress (destinationKey packageName traffic))).getD false
  verdict answers.blockedAppCache sourcePackageName isAddressBlocked

/-- The body of the loop up to the verdict; nothing for a packet that is skipped.
What `trackAppAddress` launches has a `catch` of its own. Where there is no report the
comparison with null succeeds, and the next access throws. -/
def judge : Except String (Option (TrafficLogResponse × Verdict)) := do
  match ← answers.parsed with
  | none => throw "NullPointerException"
  | some traffic =>
      if System.isKnown traffic then
        answers.getSystemService
        let uid ← resolveUid sdkInt answers traffic
        return some ({ traffic with appName := appName answers uid }, checks answers traffic uid)
      else return none

/-- Only a packet that is passed through is written at once; the exception of the
write is caught here. -/
def forwardPacket (traffic : TrafficLogResponse) : Except String Unit :=
  match traffic.protocolByte with
  | .udp | .tcp => .ok ()
  | .unknown => tryCatch answers.passThrough fun _ => .ok ()

inductive Outcome where
  | skipped
  | judged (verdict : Verdict)
  deriving DecidableEq

/-- `delivered` counts the packets the TUN had for the loop, read or not, and
`pending` are the inserts launched and not yet carried out. -/
structure ReadLoop where
  running : Bool
  delivered : Nat
  outcomes : List Outcome
  pending : List BlockLogEntity

inductive Label where
  | packet (answers : Answers)
  | insert (index : Nat) (thrown : Option String)

/-- The body behind the verdict. -/
def finish (loop : ReadLoop) (traffic : TrafficLogResponse) (verdict : Verdict) : ReadLoop :=
  let judged := { loop with outcomes := loop.outcomes ++ [.judged verdict] }
  let forwarded := if verdict = .forward then forwardPacket answers traffic else .ok ()
  match forwarded with
  | .error _ => { judged with running := false }
  | .ok () =>
      if Log.appUnknown traffic then judged
      else
        let logged := { judged with pending := judged.pending ++ [.ofTraffic traffic] }
        match answers.deleteExtraLogs with
        | .error _ => { logged with running := false }
        | .ok () => logged

def readPacket (loop : ReadLoop) : ReadLoop :=
  match judge sdkInt answers with
  | .error _ => { loop with running := false }
  | .ok none => { loop with outcomes := loop.outcomes ++ [.skipped] }
  | .ok (some (traffic, verdict)) => finish answers loop traffic verdict

/-- The uncaught exception of an insert ends the process. -/
def step (loop : ReadLoop) : Label → Option ReadLoop
  | .packet answers =>
      let delivered := { loop with delivered := loop.delivered + 1 }
      some (if loop.running then readPacket sdkInt answers delivered else delivered)
  | .insert index thrown =>
      (loop.pending[index]?).map fun _ =>
        { loop with
          running := loop.running && thrown.isNone, pending := loop.pending.eraseIdx index }

/-- The loop goes on, and every packet the TUN had for it has been read and has an
outcome. -/
def Isolated (loop : ReadLoop) : Prop :=
  loop.running = true ∧ loop.outcomes.length = loop.delivered

/-- The uid is found, or found to be missing, without an exception. -/
def Attributable (traffic : TrafficLogResponse) : Prop :=
  if VERSION_CODES_Q ≤ sdkInt then
    traffic.protocolByte = .unknown ∨
      ValidPort traffic.srcPort ∧ ValidPort traffic.dstPort ∧
        ∃ uid, answers.getConnectionOwnerUid = .ok uid
  else ∀ octet ∈ traffic.srcIp.toList.splitOn '.', (Text.toIntOrNull octet).isSome

/-- The platform knows the owner of the packet's socket, and a name for it. -/
def OwnerNamed (traffic : TrafficLogResponse) : Prop :=
  VERSION_CODES_Q ≤ sdkInt ∧ traffic.protocolByte ≠ .unknown ∧
    ∃ uid, answers.getConnectionOwnerUid = .ok uid ∧
      ¬ "Unknown".toList <:+: (appName answers (some uid)).toList

/-- Nothing that is called for the packet throws into the loop. -/
def Harmless : Prop :=
  ∃ traffic, answers.parsed = .ok (some traffic) ∧
    (System.isKnown traffic → answers.getSystemService = .ok () ∧
      Attributable sdkInt answers traffic ∧
      (OwnerNamed sdkInt answers traffic → answers.deleteExtraLogs = .ok ()))

def Label.Harmless : Label → Prop
  | .packet answers => ReadPackets.Harmless sdkInt answers
  | .insert _ thrown => thrown = none

private theorem bind_eq_ok {α β : Type} {first : Except String α} {rest : α → Except String β}
    {result : β} :
    (first >>= rest) = .ok result ↔ ∃ value, first = .ok value ∧ rest value = .ok result := by
  cases first <;> simp [bind, Except.bind]

variable {sdkInt answers}

theorem getUidFromIpPort_ok_iff {traffic : TrafficLogResponse} {uid : Option Int} :
    getUidFromIpPort answers traffic = .ok uid ↔
      traffic.protocolByte = .unknown ∧ uid = none ∨
        traffic.protocolByte ≠ .unknown ∧ ValidPort traffic.srcPort ∧ ValidPort traffic.dstPort ∧
          ∃ owner, answers.getConnectionOwnerUid = .ok owner ∧ uid = some owner := by
  by_cases transport : traffic.protocolByte = .unknown
  · rw [getUidFromIpPort, if_pos (ProtocolByte.number_unsupported_iff.mpr transport)]
    simp [transport, pure, Except.pure, eq_comm]
  · have answer (uid : Int) : UidResolver.getUidFromIpPort (fun _ _ _ => uid) traffic.srcIp
        traffic.srcPort traffic.dstIp traffic.dstPort traffic.protocolByte.number = some uid := by
      rw [UidResolver.getUidFromIpPort, if_neg (mt ProtocolByte.number_unsupported_iff.mp transport)]
      dsimp only [UidResolver.INVALID_UID]
      grind
    rw [getUidFromIpPort, if_neg (mt ProtocolByte.number_unsupported_iff.mp transport)]
    simp only [bind_eq_ok, inetSocketAddress]
    by_cases source : ValidPort traffic.srcPort <;>
      by_cases destination : ValidPort traffic.dstPort <;>
      simp [source, destination, transport, answer, pure, Except.pure, @eq_comm _ (some _) uid]

private theorem mapM_isSome_iff {α β : Type} (convert : α → Option β) (values : List α) :
    (values.mapM convert).isSome ↔ ∀ value ∈ values, (convert value).isSome := by
  induction values with
  | nil => simp
  | cons value values ih =>
      rw [List.forall_mem_cons, ← ih, List.mapM_cons]
      cases convert value <;> cases values.mapM convert <;> simp

private theorem ipPortToLocalHex_isSome {traffic : TrafficLogResponse} :
    (UidResolver.ipPortToLocalHex traffic.srcIp traffic.srcPort).isSome ↔
      ∀ octet ∈ traffic.srcIp.toList.splitOn '.', (Text.toIntOrNull octet).isSome := by
  have converted := mapM_isSome_iff (fun octet => (Text.toIntOrNull octet).map fun value =>
    (Text.toHex value).leftpad 2 '0') (traffic.srcIp.toList.splitOn '.')
  simp only [Option.isSome_map] at converted
  rw [← converted, UidResolver.ipPortToLocalHex]
  generalize (List.mapM _ _ : Option (List (List Char))) = octets
  cases octets <;> rfl

theorem resolveUid_ok_iff {traffic : TrafficLogResponse} :
    (∃ uid, resolveUid sdkInt answers traffic = .ok uid) ↔ Attributable sdkInt answers traffic := by
  rw [resolveUid, Attributable]
  split
  · simp only [getUidFromIpPort_ok_iff]
    grind
  · rw [← ipPortToLocalHex_isSome]
    cases UidResolver.ipPortToLocalHex traffic.srcIp traffic.srcPort with
    | none => simp
    | some localHex => simp [findUidForConnection, UidResolver.filePath_protocol]

/-- Without exceptions of the platform the uid is the one `resolveUid` finds. -/
theorem resolveUid_agrees {traffic : TrafficLogResponse} (owner : UidResolver.ConnectionOwner)
    (useLines : String → List String) (source : ValidPort traffic.srcPort)
    (destination : ValidPort traffic.dstPort)
    (asked : answers.getConnectionOwnerUid = .ok (owner traffic.protocolByte.number
      (traffic.srcIp, traffic.srcPort) (traffic.dstIp, traffic.dstPort))) :
    resolveUid sdkInt answers traffic =
      (FirewallVpn.resolveUid sdkInt owner useLines traffic).elim (.error "NumberFormatException")
        .ok := by
  rw [resolveUid, FirewallVpn.resolveUid]
  split
  · by_cases unsupported : traffic.protocolByte.number ≠ 6 ∧ traffic.protocolByte.number ≠ 17
    · rw [getUidFromIpPort, if_pos unsupported, UidResolver.getUidFromIpPort, if_pos unsupported]
      rfl
    · rw [getUidFromIpPort, if_neg unsupported, asked, inetSocketAddress, if_pos source,
        inetSocketAddress, if_pos destination]
      rfl
  · cases UidResolver.ipPortToLocalHex traffic.srcIp traffic.srcPort with
    | none => rfl
    | some localHex =>
        simp [findUidForConnection, UidResolver.filePath_protocol,
          UidResolver.findUidForConnection_protocol]

/-- The verdict is the one on a packet whose uid has these packages. -/
theorem checks_agrees (addresses : Addresses) (thrown : Option String)
    (asked : ∀ key, answers.getAddress key = queryAddress addresses thrown key)
    (traffic : TrafficLogResponse) (uid : Int) :
    checks answers traffic (some uid) = packetVerdict answers.blockedAppCache addresses thrown
      (answers.getPackagesForUid uid) traffic := by
  simp only [checks, packetVerdict, asked, Option.bind_some]

theorem judge_ok_iff {traffic : TrafficLogResponse}
    (parsed : answers.parsed = .ok (some traffic)) (known : System.isKnown traffic)
    {result : Option (TrafficLogResponse × Verdict)} :
    judge sdkInt answers = .ok result ↔
      answers.getSystemService = .ok () ∧ ∃ uid, resolveUid sdkInt answers traffic = .ok uid ∧
        result = some ({ traffic with appName := appName answers uid },
          checks answers traffic uid) := by
  simp only [judge, parsed, bind_eq_ok, known, if_true, Except.ok.injEq, exists_eq_left',
    pure, Except.pure]
  grind

theorem forwardPacket_returns (traffic : TrafficLogResponse) :
    forwardPacket answers traffic = .ok () := by
  cases byte : traffic.protocolByte with
  | udp | tcp => simp [forwardPacket, byte]
  | unknown =>
      simp only [forwardPacket, byte]
      cases answers.passThrough <;> rfl

theorem finish_isolated {loop : ReadLoop} {traffic : TrafficLogResponse} {verdict : Verdict}
    (running : loop.running = true) (next : loop.outcomes.length + 1 = loop.delivered) :
    Isolated (finish answers loop traffic verdict) ↔
      (Log.appUnknown traffic = false → answers.deleteExtraLogs = .ok ()) := by
  simp only [finish, forwardPacket_returns, ite_self]
  cases Log.appUnknown traffic with
  | true => simp [Isolated, running, next]
  | false => cases answers.deleteExtraLogs <;> simp [Isolated, running, next]

/-- A packet without a uid is not logged. -/
theorem appUnknown_none (traffic : TrafficLogResponse) :
    Log.appUnknown { traffic with appName := appName answers none } = true := by
  have starts : "Unknown".toList <+: "Unknown App (UID: ".toList := by decide
  have name : appName answers none = "Unknown App (UID: " ++ "null" ++ ")" := by
    simp only [appName, Option.bind_none, Option.getD_none, Option.elim_none]
  rw [Log.appUnknown_iff, name, String.toList_append, String.toList_append]
  exact ((starts.trans (List.prefix_append ..)).trans (List.prefix_append ..)).isInfix

private theorem getUid_ok {traffic : TrafficLogResponse} {uid : Int}
    (found : resolveUid sdkInt answers traffic = .ok (some uid)) :
    VERSION_CODES_Q ≤ sdkInt ∧ traffic.protocolByte ≠ .unknown ∧
      answers.getConnectionOwnerUid = .ok uid := by
  rw [resolveUid] at found
  split at found
  · next new =>
      rcases getUidFromIpPort_ok_iff.mp found with ⟨-, none⟩ | ⟨transport, -, -, owner, asked, same⟩
      · cases none
      · cases same
        exact ⟨new, transport, asked⟩
  · split at found
    · cases found
    · simp [findUidForConnection, UidResolver.filePath_protocol] at found

/-- Whether the log is trimmed for a packet whose uid has been resolved. -/
theorem trims_iff {traffic : TrafficLogResponse} {uid : Option Int}
    (resolved : resolveUid sdkInt answers traffic = .ok uid) :
    Log.appUnknown { traffic with appName := appName answers uid } = false ↔
      OwnerNamed sdkInt answers traffic := by
  cases uid with
  | none =>
      refine iff_of_false (by rw [appUnknown_none]; exact nofun) ?_
      rintro ⟨new, transport, uid, asked, -⟩
      rw [resolveUid, if_pos new, getUidFromIpPort_ok_iff] at resolved
      simp [transport] at resolved
  | some uid =>
      obtain ⟨new, transport, asked⟩ := getUid_ok resolved
      rw [← Bool.not_eq_true, Log.appUnknown_iff, OwnerNamed, asked]
      exact ⟨fun named => ⟨new, transport, uid, rfl, named⟩,
        fun ⟨_, _, _, same, named⟩ => by cases same; exact named⟩

theorem readPacket_isolated {loop : ReadLoop} (running : loop.running = true)
    (next : loop.outcomes.length + 1 = loop.delivered) :
    Isolated (readPacket sdkInt answers loop) ↔ Harmless sdkInt answers := by
  have stopped : ¬ Isolated { loop with running := false } := fun isolated => nomatch isolated.1
  rw [Harmless, readPacket]
  rcases parsed : answers.parsed with thrown | traffic | traffic
  · rw [judge, parsed]
    exact iff_of_false stopped nofun
  · rw [judge, parsed]
    exact iff_of_false stopped nofun
  · simp only [Except.ok.injEq, Option.some.injEq, exists_eq_left']
    by_cases known : System.isKnown traffic
    · have judged := @judge_ok_iff sdkInt answers traffic parsed known
      cases judgement : judge sdkInt answers with
      | error thrown =>
          refine iff_of_false stopped fun harmless => ?_
          obtain ⟨service, attributable, -⟩ := harmless known
          obtain ⟨uid, resolved⟩ := resolveUid_ok_iff.mpr attributable
          exact nomatch judgement.symm.trans (judged.mpr ⟨service, uid, resolved, rfl⟩)
      | ok result =>
          obtain ⟨service, uid, resolved, rfl⟩ := judged.mp judgement
          have attributable := resolveUid_ok_iff.mp ⟨uid, resolved⟩
          rw [← trims_iff resolved]
          simp only [finish_isolated running next, known, service, attributable, true_and,
            forall_const]
    · have skipped : judge sdkInt answers = .ok none := by
        simp [judge, parsed, known, pure, Except.pure, bind, Except.bind]
      rw [skipped]
      simp [Isolated, known, running, next]

theorem step_isolated {loop next : ReadLoop} {label : Label} (isolated : Isolated loop)
    (taken : step sdkInt loop label = some next) : Isolated next ↔ label.Harmless sdkInt := by
  cases label with
  | packet answers =>
      have reads : next = readPacket sdkInt answers { loop with delivered := loop.delivered + 1 } := by
        simp only [step, if_pos isolated.1] at taken
        exact (Option.some.inj taken).symm
      rw [reads]
      exact readPacket_isolated isolated.1 (congrArg (· + 1) isolated.2)
  | insert index thrown =>
      obtain ⟨blockLog, -, rfl⟩ := Option.map_eq_some_iff.mp taken
      simp only [Isolated, isolated.1, isolated.2, Bool.true_and, and_true, Label.Harmless,
        Option.isNone_iff_eq_none]

/-- The loop reads every packet and goes on exactly if no packet makes anything
throw that the body does not catch itself, and no insert of the log throws. -/
theorem isolated_iff {start final : ReadLoop} {labels : List Label} (isolated : Isolated start)
    (ran : Transition.run (step sdkInt) start labels = some final) :
    Transition.Always (step sdkInt) Isolated start labels ↔
      ∀ label ∈ labels, label.Harmless sdkInt := by
  rw [← Transition.guarded_iff_forall ran]
  exact Transition.always_iff_guarded (fun _ => True) (fun _ _ _ _ _ => True.intro)
    (fun _ _ _ _ isolated taken => step_isolated isolated taken) True.intro isolated ran

/-- Before Q a packet with ports, but without an IPv4 layer, passes the filter and
ends the loop by itself. -/
theorem unparsed_address_throws (old : sdkInt < VERSION_CODES_Q) {traffic : TrafficLogResponse}
    (parsed : answers.parsed = .ok (some traffic)) (unparsed : traffic.srcIp = "Unknown")
    (ports : traffic.srcPort ≠ -1) : ¬ Harmless sdkInt answers := by
  rintro ⟨decoded, same, harmless⟩
  rw [parsed, Except.ok.injEq, Option.some.injEq] at same
  subst same
  have attributable := (harmless (by simp [System.isKnown, ports])).2.1
  rw [Attributable, if_neg (Nat.not_le.mpr old), unparsed] at attributable
  exact absurd attributable (by decide)

/-- A packet of an app with a name, on a device with Android 10. -/
def senderAnswers (deleteExtraLogs : Except String Unit) : Answers where
  parsed := .ok (some senderTraffic)
  getSystemService := .ok ()
  getConnectionOwnerUid := .ok senderRow.uid
  useLines := fun _ => .ok []
  packageLabels := fun _ => .ok (some [.ok "Mail"])
  getPackagesForUid := fun _ => .ok (some ["com.example.mail"])
  getAddress := fun _ => .ok none
  blockedAppCache := ∅
  passThrough := .ok ()
  deleteExtraLogs := deleteExtraLogs

def idle : ReadLoop where
  running := true
  delivered := 0
  outcomes := []
  pending := []

theorem twoPackets_isolated :
    Transition.Always (step 29) Isolated idle
      [.packet (senderAnswers (.ok ())), .insert 0 none, .packet (senderAnswers (.ok ()))] := by
  have ran : (Transition.run (step 29) idle [.packet (senderAnswers (.ok ())), .insert 0 none,
      .packet (senderAnswers (.ok ()))]).isSome := by
    decide +kernel
  obtain ⟨final, ran⟩ := Option.isSome_iff_exists.mp ran
  have harmless : Harmless 29 (senderAnswers (.ok ())) := by
    refine ⟨senderTraffic, rfl, fun _ => ⟨rfl, ?_, fun _ => rfl⟩⟩
    rw [Attributable, if_pos (by decide)]
    exact .inr ⟨by decide +kernel, by decide +kernel, _, rfl⟩
  refine (isolated_iff ⟨rfl, rfl⟩ ran).mpr ?_
  simp only [List.forall_mem_cons, List.not_mem_nil, false_imp_iff, implies_true, and_true]
  exact ⟨harmless, rfl, harmless⟩

/-- The trim finds the disk full. The verdict on this packet stands, and the next
packet is not read. -/
theorem fullDisk_ends_loop :
    ¬ ∀ (sdkInt : Nat) (start final : ReadLoop) (labels : List Label), Isolated start →
      Transition.run (step sdkInt) start labels = some final →
        Transition.Always (step sdkInt) Isolated start labels := by
  intro all
  have ran : (Transition.run (step 29) idle [.packet (senderAnswers (.error "SQLiteFullException")),
      .packet (senderAnswers (.ok ()))]).map (fun final => (final.running, final.outcomes.length)) =
        some (false, 1) := by
    decide +kernel
  obtain ⟨final, ran, ended⟩ := Option.map_eq_some_iff.mp ran
  have isolated := (all 29 idle final _ ⟨rfl, rfl⟩ ran).last ran
  rw [Prod.mk.injEq, isolated.1] at ended
  exact nomatch ended.1

end ReadPackets

end FirewallVpn
