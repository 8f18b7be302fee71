import FirewallVpn.Addresses.LiveAddresses

/-! A tap on a row of the address screen, from the value that is shown to the value that
is shown again. The tap asks for the opposite of what its row shows, which may have been
overtaken. -/

set_option autoImplicit false

namespace FirewallVpn

namespace Addresses

theorem lastRequest_cons (row : AppAddressEntity) (label : Label) (labels : List Label) :
    lastRequest row (label :: labels) = (lastRequest row labels).or (label.request row) := by
  unfold lastRequest
  cases requested : label.request row with
  | none => simp [requested]
  | some isBlocked => simp [requested, List.getLast?_cons]

end Addresses

namespace AddressScreen

open Addresses

/-- `AddressItem.onToggle`, with the UPDATE it launches. -/
def onToggle (address : AppAddressEntity) : Label :=
  .change (.toggleAddressBlock address.id (!address.isBlocked))

def tableLabels (labels : List Label) : List Addresses.Label :=
  labels.filterMap fun
    | .change label => some label
    | .loadAddressesForApp _ | .query _ | .queryThrows _ | .collect _ => none

variable {screen final : AddressScreen} {noted : Option Nat} {labels : List Label}

/-- Without the collectors, a run of the screen is one of the table and its trackers. -/
theorem run_tableLabels (ran : Transition.run step screen labels = some final) :
    Transition.run Addresses.step screen.addresses (tableLabels labels) = some final.addresses := by
  refine Transition.run_history (fun labels (now : AddressScreen) =>
    Transition.run Addresses.step screen.addresses (tableLabels labels) = some now.addresses) ?_ rfl ran
  intro labels now label next before taken
  have more : tableLabels (labels ++ [label]) = tableLabels labels ++ tableLabels [label] :=
    List.filterMap_append
  rw [more, Transition.run_append_iff]
  refine ⟨now.addresses, before, ?_⟩
  cases step_screen taken with
  | changed mark updated => exact Transition.run_cons_iff.mpr ⟨_, updated, rfl⟩
  | loaded | queried | queryThrew | collected => rfl

/-- A row in the table when the labels begin is listed at rest, with the value that was
asked for last. -/
theorem listed_at_rest {row : AppAddressEntity} (member : row ∈ screen.addresses.table.rows)
    (ran : Transition.run step screen labels = some final) {packageName : String}
    (shown : final.currentAppAddresses = final.addresses.table.getAddressesForApp packageName)
    (named : row.packageName = packageName) :
    ∃ lastSeen, { row with
      isBlocked := (lastRequest row (tableLabels labels)).getD row.isBlocked
      lastSeen } ∈ final.currentAppAddresses := by
  obtain ⟨lastSeen, kept⟩ := keeps_run member (run_tableLabels ran)
  refine ⟨lastSeen, ?_⟩
  rw [shown]
  exact AddressTable.mem_getAddressesForApp.mpr ⟨kept, named⟩

/-- A tap on any row whose UPDATE is carried out, however old the list, and in between
whatever there may be: when the screen is at rest again, the row shows the opposite of what
it showed when it was tapped, or what was asked for it later, and every other row of the app
what it held or what was asked for it. -/
theorem tap_shown_at_rest {before later : List Label} {row : AppAddressEntity}
    (reached : Transition.run (Transition.observed step noteCollect) (initial, none) before =
      some (screen, noted))
    (visible : row ∈ screen.currentAppAddresses) {index : Nat} {collector : AddressCollector}
    (tapped : Transition.run (Transition.observed step noteCollect) (screen, noted)
      (onToggle row :: later) = some (final, some index))
    (rest : final.AtRest) (located : final.collectors[index]? = some collector)
    (running : collector.running) (samePackage : collector.packageName = row.packageName) :
    ∃ stored ∈ screen.addresses.table.rows, stored.id = row.id ∧
      (∃ lastSeen, { stored with
        isBlocked := (lastRequest stored (tableLabels later)).getD (!row.isBlocked)
        lastSeen } ∈ final.currentAppAddresses) ∧
      ∀ other ∈ screen.addresses.table.rows, other.packageName = row.packageName → other.id ≠ row.id →
        ∃ lastSeen, { other with
          isBlocked := (lastRequest other (tableLabels later)).getD other.isBlocked
          lastSeen } ∈ final.currentAppAddresses := by
  have start : Transition.run step initial before = some screen :=
    (Transition.run_observed initial none before).symm.trans (congrArg (Option.map Prod.fst) reached)
  have ran : Transition.run step screen (onToggle row :: later) = some final :=
    (Transition.run_observed screen noted _).symm.trans (congrArg (Option.map Prod.fst) tapped)
  have shown := shown_eq (Transition.run_append_iff.mpr ⟨_, reached, tapped⟩) rest rfl located running
  rw [samePackage] at shown
  have requests : ∀ stored : AppAddressEntity,
      lastRequest stored (tableLabels (onToggle row :: later)) =
        (lastRequest stored (tableLabels later)).or
          (if stored.id = row.id then some (!row.isBlocked) else none) :=
    fun stored => lastRequest_cons stored _ _
  obtain ⟨stored, member, sameId, sameName⟩ := (sound_of_run start).shown row visible
  refine ⟨stored, member, sameId, ?_, fun other inTable named distinct => ?_⟩
  · have listed := listed_at_rest member ran shown sameName
    rw [requests, if_pos sameId] at listed
    cases later : lastRequest stored (tableLabels later) <;> rw [later] at listed <;> exact listed
  · have listed := listed_at_rest inTable ran shown named
    rw [requests, if_neg distinct, Option.or_none] at listed
    exact listed

def mailOpened : List Label :=
  mailPacket ++ [.loadAddressesForApp "com.example.mail", .query 0, .collect 0]

theorem mailTapped_blocked :
    ∃ screen noted final, Transition.run (Transition.observed step noteCollect) (initial, none)
        mailOpened = some (screen, noted) ∧
      Transition.run (Transition.observed step noteCollect) (screen, noted)
        (onToggle { mailServer with id := 1 } :: (mailPacket ++ [.query 0, .collect 0])) =
          some (final, some 0) ∧
      ∃ shown ∈ final.currentAppAddresses, shown.isBlocked = true := by
  have seen : (Transition.run (Transition.observed step noteCollect) (initial, none) mailOpened).any
      (fun state => decide ({ mailServer with id := 1 } ∈ state.1.currentAppAddresses) &&
        (Transition.run (Transition.observed step noteCollect) state
          (onToggle { mailServer with id := 1 } :: (mailPacket ++ [.query 0, .collect 0]))).any
            fun last => decide last.1.AtRest && decide (last.2 = some 0) &&
              last.1.collectors[0]?.any fun collector =>
                collector.running && decide (collector.packageName = "com.example.mail")) = true := by
    decide +kernel
  obtain ⟨⟨screen, noted⟩, reached, holds⟩ := (Option.any_eq_true _ _).mp seen
  simp only [Bool.and_eq_true, decide_eq_true_eq] at holds
  obtain ⟨visible, tapped⟩ := holds
  obtain ⟨⟨final, last⟩, tapped, ends⟩ := (Option.any_eq_true _ _).mp tapped
  simp only [Bool.and_eq_true, decide_eq_true_eq] at ends
  obtain ⟨⟨rest, rfl⟩, first⟩ := ends
  obtain ⟨collector, located, running⟩ := (Option.any_eq_true _ _).mp first
  simp only [Bool.and_eq_true, decide_eq_true_eq] at running
  obtain ⟨runs, named⟩ := running
  obtain ⟨stored, -, -, ⟨lastSeen, listed⟩, -⟩ :=
    tap_shown_at_rest reached visible tapped rest located runs named
  exact ⟨screen, noted, final, reached, tapped, _, listed, rfl⟩

end AddressScreen

end FirewallVpn
