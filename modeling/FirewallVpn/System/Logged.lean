import FirewallVpn.System.FaultIsolation
import Mathlib.Data.List.Perm.Basic

/-! Which packets the log takes. The test is made on the name that is shown, so it goes by
the labels of all packages of the owner; the verdict plays no part in it. -/

set_option autoImplicit false

namespace FirewallVpn

namespace UidResolver

/-- The labels that could be read. -/
def appNames (packageLabels : Except String (Option (List (Except String String)))) : List String :=
  match packageLabels with
  | .ok (some appLabels) => appLabels.filterMap Except.toOption
  | .ok none | .error _ => []

theorem getAppNameFromUid_eq (packageLabels : Except String (Option (List (Except String String)))) :
    getAppNameFromUid packageLabels =
      if ", ".intercalate (appNames packageLabels) = "" then none
      else some (", ".intercalate (appNames packageLabels)) := by
  cases packageLabels with
  | error thrown => simp [getAppNameFromUid, appNames]
  | ok appLabels =>
      cases appLabels with
      | none => simp [getAppNameFromUid, appNames]
      | some appLabels => rfl

end UidResolver

theorem intercalate_eq_empty_iff {names : List String} :
    ", ".intercalate names = "" ↔ names = [] ∨ names = [""] := by
  cases names with
  | nil => simp
  | cons name names =>
      cases names with
      | nil => simp
      | cons other names => simp [String.intercalate_cons_cons]

/-- No label between the separators can make up the word. -/
theorem unknown_intercalate_iff {names : List String} :
    "Unknown".toList <:+: (", ".intercalate names).toList ↔
      ∃ name ∈ names, "Unknown".toList <:+: name.toList := by
  have apart : ("Unknown".toList.all fun char => decide (char ∉ ", ".toList)) = true := by decide
  rw [String.toList_intercalate, Text.infix_intercalate_iff (by decide)
    (fun char member => of_decide_eq_true (List.all_eq_true.mp apart char member)) (by decide)]
  simp only [List.mem_map, exists_exists_and_eq_and]

namespace ReadPackets

/-- An owner that the log names: root, or an app whose labels that were read do not make up
the empty text when they are joined, and none of which has the word in it. Two empty labels
are joined to their separator. -/
def Nameable (answers : Answers) (uid : Int) : Prop :=
  uid = 0 ∨ uid ≠ -1 ∧ UidResolver.appNames (answers.packageLabels uid) ∉ [[], [""]] ∧
    ∀ name ∈ UidResolver.appNames (answers.packageLabels uid), ¬ "Unknown".toList <:+: name.toList

theorem appName_nameable_iff {answers : Answers} {traffic : TrafficLogResponse} {uid : Int} :
    Log.appUnknown { traffic with appName := appName answers (some uid) } = false ↔
      Nameable answers uid := by
  rw [← Bool.not_eq_true, Log.appUnknown_iff]
  change ¬ "Unknown".toList <:+: (appName answers (some uid)).toList ↔ _
  by_cases root : uid = 0
  · subst root
    have known : ¬ "Unknown".toList <:+: "Root / Kernel".toList := by decide
    exact iff_of_true known (.inl rfl)
  by_cases missing : uid = -1
  · subst missing
    have marked : "Unknown".toList <:+: "Unknown UID".toList := by decide
    refine iff_of_false (fun unmarked => unmarked marked) fun nameable => ?_
    rcases nameable with zero | ⟨found, -⟩
    · cases zero
    · exact found rfl
  have other : appName answers (some uid) =
      (UidResolver.getAppNameFromUid (answers.packageLabels uid)).getD
        ("Unknown App (UID: " ++ toString uid ++ ")") := by
    unfold appName
    split <;> simp_all
  rw [Nameable, or_iff_right root, and_iff_right missing, other, UidResolver.getAppNameFromUid_eq]
  by_cases none : ", ".intercalate (UidResolver.appNames (answers.packageLabels uid)) = ""
  · have starts : "Unknown".toList <+: "Unknown App (UID: ".toList := by decide
    rw [if_pos none, Option.getD_none, String.toList_append, String.toList_append]
    refine iff_of_false (fun unmarked => unmarked ?_) fun nameable => ?_
    · exact ((starts.trans (List.prefix_append ..)).trans (List.prefix_append ..)).isInfix
    · exact nameable.1 (by simpa using intercalate_eq_empty_iff.mp none)
  · rw [if_neg none, Option.getD_some, unknown_intercalate_iff]
    have some : UidResolver.appNames (answers.packageLabels uid) ∉ [[], [""]] := by
      simpa using mt intercalate_eq_empty_iff.mpr none
    rw [and_iff_right some]
    simp only [not_exists, not_and]

/-- The entry the log gets for a packet. The policy and the tables are not asked. -/
inductive Logs (sdkInt : Nat) (answers : Answers) : BlockLogEntity → Prop where
  | named {traffic : TrafficLogResponse} {uid : Int} (parsed : answers.parsed = .ok (some traffic))
      (known : System.isKnown traffic) (service : answers.getSystemService = .ok ())
      (new : VERSION_CODES_Q ≤ sdkInt) (transport : traffic.protocolByte ≠ .unknown)
      (source : ValidPort traffic.srcPort) (destination : ValidPort traffic.dstPort)
      (owner : answers.getConnectionOwnerUid = .ok uid) (nameable : Nameable answers uid) :
      Logs sdkInt answers (.ofTraffic { traffic with appName := appName answers (some uid) })

/-- The entries of the packets the loop has worked on, in their order. -/
inductive Launched (sdkInt : Nat) : List Answers → List BlockLogEntity → Prop where
  | nil : Launched sdkInt [] []
  | logged {worked : List Answers} {launched : List BlockLogEntity} {answers : Answers}
      {entry : BlockLogEntity} (before : Launched sdkInt worked launched)
      (logs : Logs sdkInt answers entry) :
      Launched sdkInt (worked ++ [answers]) (launched ++ [entry])
  | silent {worked : List Answers} {launched : List BlockLogEntity} {answers : Answers}
      (before : Launched sdkInt worked launched) (unlogged : ∀ entry, ¬ Logs sdkInt answers entry) :
      Launched sdkInt (worked ++ [answers]) launched

/-- The packets the loop has worked on, and the inserts that are over. -/
structure Record where
  worked : List Answers
  finished : List BlockLogEntity

def noteEntries (loop : ReadLoop) (label : Label) (record : Record) : Record :=
  match label with
  | .packet answers =>
      if loop.running then { record with worked := record.worked ++ [answers] } else record
  | .insert index _ => { record with finished := record.finished ++ (loop.pending[index]?).toList }

variable {sdkInt : Nat} {answers : Answers} {loop : ReadLoop} {record : Record}

/-- A uid is found by the platform of a new device only. -/
theorem resolveUid_some_iff {traffic : TrafficLogResponse} {uid : Int} :
    resolveUid sdkInt answers traffic = .ok (some uid) ↔
      VERSION_CODES_Q ≤ sdkInt ∧ traffic.protocolByte ≠ .unknown ∧ ValidPort traffic.srcPort ∧
        ValidPort traffic.dstPort ∧ answers.getConnectionOwnerUid = .ok uid := by
  unfold resolveUid
  split
  · next new =>
      rw [getUidFromIpPort_ok_iff]
      constructor
      · intro found
        rcases found with ⟨-, none⟩ | ⟨transport, source, destination, owner, asked, same⟩
        · cases none
        · cases same
          exact ⟨new, transport, source, destination, asked⟩
      · intro found
        obtain ⟨-, transport, source, destination, asked⟩ := found
        exact .inr ⟨transport, source, destination, uid, asked, rfl⟩
  · next old =>
      refine iff_of_false ?_ fun found => old found.1
      split
      · exact nofun
      · simp [findUidForConnection, UidResolver.filePath_protocol]

theorem judge_some {traffic : TrafficLogResponse} {verdict : Verdict}
    (judged : judge sdkInt answers = .ok (some (traffic, verdict))) :
    ∃ parsed uid, answers.parsed = .ok (some parsed) ∧ System.isKnown parsed ∧
      answers.getSystemService = .ok () ∧ resolveUid sdkInt answers parsed = .ok uid ∧
        traffic = { parsed with appName := appName answers uid } := by
  cases read : answers.parsed with
  | error thrown =>
      rw [judge, read] at judged
      cases judged
  | ok result =>
      cases result with
      | none =>
          rw [judge, read] at judged
          cases judged
      | some parsed =>
          by_cases known : System.isKnown parsed
          · obtain ⟨service, uid, resolved, same⟩ := (judge_ok_iff read known).mp judged
            cases same
            exact ⟨parsed, uid, rfl, known, service, resolved, rfl⟩
          · simp [judge, read, known, pure, Except.pure, bind, Except.bind] at judged

/-- The packets logged are those judged under a name without the word. -/
theorem logs_iff {entry : BlockLogEntity} :
    Logs sdkInt answers entry ↔ ∃ traffic verdict,
      judge sdkInt answers = .ok (some (traffic, verdict)) ∧ Log.appUnknown traffic = false ∧
        entry = .ofTraffic traffic := by
  constructor
  · intro logged
    obtain ⟨parsed, known, service, new, transport, source, destination, owner, nameable⟩ := logged
    have resolved := resolveUid_some_iff.mpr ⟨new, transport, source, destination, owner⟩
    exact ⟨_, _, (judge_ok_iff parsed known).mpr ⟨service, _, resolved, rfl⟩,
      appName_nameable_iff.mpr nameable, rfl⟩
  · intro named
    obtain ⟨traffic, verdict, judged, named, rfl⟩ := named
    obtain ⟨parsed, uid, read, known, service, resolved, rfl⟩ := judge_some judged
    cases uid with
    | none =>
        rw [appUnknown_none] at named
        cases named
    | some uid =>
        obtain ⟨new, transport, source, destination, owner⟩ := resolveUid_some_iff.mp resolved
        exact .named read known service new transport source destination owner
          (appName_nameable_iff.mp named)

theorem finish_pending (traffic : TrafficLogResponse) (verdict : Verdict) :
    (finish answers loop traffic verdict).pending =
      if Log.appUnknown traffic then loop.pending else loop.pending ++ [.ofTraffic traffic] := by
  simp only [finish, forwardPacket_returns, ite_self]
  cases Log.appUnknown traffic with
  | true => rfl
  | false => cases answers.deleteExtraLogs <;> rfl

/-- One iteration launches at most one insert, the one of its packet. -/
theorem readPacket_pending :
    (∃ entry, Logs sdkInt answers entry ∧
      (readPacket sdkInt answers loop).pending = loop.pending ++ [entry]) ∨
    (∀ entry, ¬ Logs sdkInt answers entry) ∧
      (readPacket sdkInt answers loop).pending = loop.pending := by
  unfold readPacket
  cases judged : judge sdkInt answers with
  | error thrown =>
      refine .inr ⟨fun entry logs => ?_, rfl⟩
      obtain ⟨traffic, verdict, other, -⟩ := logs_iff.mp logs
      rw [judged] at other
      cases other
  | ok result =>
      cases result with
      | none =>
          refine .inr ⟨fun entry logs => ?_, rfl⟩
          obtain ⟨traffic, verdict, other, -⟩ := logs_iff.mp logs
          rw [judged] at other
          cases other
      | some result =>
          obtain ⟨traffic, verdict⟩ := result
          simp only [finish_pending]
          cases named : Log.appUnknown traffic with
          | false => exact .inl ⟨_, logs_iff.mpr ⟨traffic, verdict, judged, named, rfl⟩, rfl⟩
          | true =>
              refine .inr ⟨fun entry logs => ?_, rfl⟩
              obtain ⟨other, verdict', same, unmarked, -⟩ := logs_iff.mp logs
              rw [judged] at same
              cases same
              rw [named] at unmarked
              cases unmarked

theorem Launched.none_of_old {worked : List Answers} {launched : List BlockLogEntity}
    (before : Launched sdkInt worked launched) (old : sdkInt < VERSION_CODES_Q) : launched = [] := by
  induction before with
  | nil => rfl
  | logged before logs ih =>
      obtain ⟨-, -, -, new⟩ := logs
      omega
  | silent before unlogged ih => exact ih

/-- Each insert launched is over or pending. -/
def Accounted (sdkInt : Nat) (record : Record) (loop : ReadLoop) : Prop :=
  ∃ launched, Launched sdkInt record.worked launched ∧ (record.finished ++ loop.pending).Perm launched

theorem Accounted.step {label : Label} {next : ReadLoop} (accounted : Accounted sdkInt record loop)
    (taken : step sdkInt loop label = some next) :
    Accounted sdkInt (noteEntries loop label record) next := by
  obtain ⟨launched, known, same⟩ := accounted
  cases label with
  | packet answers =>
      simp only [ReadPackets.step, Option.some.injEq] at taken
      subst taken
      simp only [noteEntries]
      by_cases running : loop.running = true
      · rw [if_pos running, if_pos running]
        rcases @readPacket_pending sdkInt answers { loop with delivered := loop.delivered + 1 } with
          ⟨entry, logs, pending⟩ | ⟨unlogged, pending⟩
        · refine ⟨launched ++ [entry], known.logged logs, ?_⟩
          rw [pending, ← List.append_assoc]
          exact same.append_right _
        · refine ⟨launched, known.silent unlogged, ?_⟩
          rw [pending]
          exact same
      · rw [if_neg running, if_neg running]
        exact ⟨launched, known, same⟩
  | insert index thrown =>
      obtain ⟨entry, located, rfl⟩ := Option.map_eq_some_iff.mp taken
      refine ⟨launched, known, ?_⟩
      simp only [noteEntries, located, Option.toList_some, List.append_assoc]
      refine (List.Perm.append_left _ ?_).trans same
      obtain ⟨within, rfl⟩ := List.getElem?_eq_some_iff.mp located
      exact List.getElem_cons_eraseIdx_perm within

/-- In every run, with every exception there can be, the inserts launched are those of the
packets worked on whose owner has a name, one for each and in their order, and each of them
is over or pending. On a device before Android 10 there are none. -/
theorem logged_of_run {labels : List Label}
    (ran : Transition.run (Transition.observed (step sdkInt) noteEntries) (idle, ⟨[], []⟩) labels =
      some (loop, record)) :
    ∃ launched, Launched sdkInt record.worked launched ∧
      (record.finished ++ loop.pending).Perm launched ∧
        (sdkInt < VERSION_CODES_Q → record.finished ++ loop.pending = []) := by
  have accounted : Accounted sdkInt record loop := by
    refine Transition.run_preserves (fun state : ReadLoop × Record =>
      Accounted sdkInt state.2 state.1) ?_ ?_ ran
    · intro state label next accounted taken
      obtain ⟨before, noted⟩ := state
      obtain ⟨after, notedAfter⟩ := next
      obtain ⟨stepped, rfl⟩ := Transition.observed_iff.mp taken
      exact accounted.step stepped
    · exact ⟨[], .nil, .nil⟩
  obtain ⟨launched, known, same⟩ := accounted
  refine ⟨launched, known, same, fun old => ?_⟩
  rw [known.none_of_old old] at same
  exact same.eq_nil

/-- Two packets of the mail app; the second insert throws. -/
theorem twoPackets_logged :
    ∃ loop record launched, Transition.run (Transition.observed (step 29) noteEntries) (idle, ⟨[], []⟩)
        [.packet (senderAnswers (.ok ())), .packet (senderAnswers (.ok ())), .insert 1 (some "")] =
          some (loop, record) ∧
      Launched 29 record.worked launched ∧ (record.finished ++ loop.pending).Perm launched := by
  have ran : (Transition.run (Transition.observed (step 29) noteEntries) (idle, ⟨[], []⟩)
      [.packet (senderAnswers (.ok ())), .packet (senderAnswers (.ok ())),
        .insert 1 (some "")]).isSome := by
    decide +kernel
  obtain ⟨⟨loop, record⟩, ran⟩ := Option.isSome_iff_exists.mp ran
  obtain ⟨launched, known, same, -⟩ := logged_of_run ran
  exact ⟨loop, record, launched, ran, known, same⟩

end ReadPackets

end FirewallVpn
