import SeedMg24.Analysis.ExclusiveInterfaces

/-!
# The configuration of an active installation

An installation becomes active when it is verified, when a failed or uncertain replacement hands its
previous configuration back, and when its node is registered again.  The row shows what the device
acknowledged last exactly when each of these puts just that configuration in force.
-/

set_option autoImplicit false

namespace SeedMg24.Analysis

open Foundation Foundation.Runs Model Model.ProvisioningService

variable {κ : Type}

/-! ## What the device acknowledged -/

/-- What the configurator's `apply` returned last for an installation. -/
def acknowledged (i : ℕ) (calls : List (ConfiguratorCall κ)) : Option κ :=
  calls.foldl (fun last call => match call with
    | .applied id applied => if id = i then some applied else last
    | _ => last) none

theorem acknowledged_snoc_applied (i id : ℕ) (calls : List (ConfiguratorCall κ)) (applied : κ) :
    acknowledged i (calls ++ [.applied id applied]) =
      if id = i then some applied else acknowledged i calls := by
  simp [acknowledged]

/-- Other calls acknowledge nothing. -/
theorem acknowledged_append {i : ℕ} {calls more : List (ConfiguratorCall κ)}
    (h : ∀ call ∈ more, ∀ applied, call ≠ .applied i applied) :
    acknowledged i (calls ++ more) = acknowledged i calls := by
  induction more generalizing calls with
  | nil => rw [List.append_nil]
  | cons call more ih =>
    have hcall : acknowledged i (calls ++ [call]) = acknowledged i calls := by
      cases call with
      | applied id applied =>
        rw [acknowledged_snoc_applied, if_neg]
        intro heq
        exact h (.applied id applied) (by simp) applied (by rw [heq])
      | applies | lost | readBack => simp [acknowledged]
    rw [List.append_cons, ih fun c hc => h c (List.mem_cons_of_mem _ hc), hcall]

namespace RowChange

/-- The configuration a change puts in force. -/
def inForce (row : Installation κ) : RowChange κ → Option κ
  | restores => some row.configuration
  | activates => some row.configuration
  | fails _ => row.previousConfiguration
  | isUncertain _ _ => row.previousConfiguration
  | _ => none

/-- A row is active after a change that put its configuration in force, or that kept it. -/
theorem active_on {c : RowChange κ} {row : Installation κ}
    (hactive : (c.on row).provisioningState = .active) :
    c = keeps ∨ c.inForce row = some (c.on row).configuration := by
  cases c with
  | keeps => exact .inl rfl
  | restores => exact .inr rfl
  | activates => exact .inr rfl
  | updates configuration =>
    dsimp only [on] at hactive
    unfold Installation.updated at hactive
    split at hactive
    · cases hactive
    · rename_i hinactive
      exact absurd hactive hinactive
  | validates failure => cases failure <;> cases hactive
  | fails error =>
    cases hprevious : row.previousConfiguration with
    | some previous =>
      right
      simp [inForce, hprevious, on, Installation.fail, Installation.handedBack]
    | none => simp [on, Installation.fail, hprevious] at hactive
  | isUncertain transactionId error =>
    cases hprevious : row.previousConfiguration with
    | some previous =>
      right
      simp [inForce, hprevious, on, Installation.uncertain, Installation.handedBack]
    | none => simp [on, Installation.uncertain, hprevious] at hactive
  | disables | archives | upgrades | removes | applies | verifies => cases hactive

/-- A row whose configuration is put in force is enabled and active with it. -/
theorem on_of_inForce {c : RowChange κ} {row : Installation κ} {configuration : κ}
    (h : c.inForce row = some configuration) :
    (c.on row).enabled = true ∧ (c.on row).provisioningState = .active ∧
      (c.on row).configuration = configuration := by
  cases c with
  | restores | activates =>
    cases h
    exact ⟨rfl, rfl, rfl⟩
  | fails error =>
    have hprevious : row.previousConfiguration = some configuration := h
    simp [on, Installation.fail, hprevious, Installation.handedBack]
  | isUncertain transactionId error =>
    have hprevious : row.previousConfiguration = some configuration := h
    simp [on, Installation.uncertain, hprevious, Installation.handedBack]
  | keeps | updates | validates | disables | archives | upgrades | removes | applies | verifies =>
    cases h

end RowChange

section

variable [DecidableEq κ]

/-- An event acknowledges nothing for an installation, unless its row goes on to be verified. -/
theorem acknowledged_next (s : ProvisioningService κ) (e : ProvisioningEvent κ) {i : ℕ}
    {row : Installation κ} (hrow : s.get i = some row) :
    acknowledged i (s.next e).calls = acknowledged i s.calls ∨ change s e i = .verifies := by
  rw [calls_next]
  cases e with
  | applyReturns task applied =>
    rw [change_of_some hrow]
    dsimp only [emitted, changeOf]
    split
    · rename_i id nodeId interfaceId transactionId requested htask
      by_cases hid : id = i
      · right
        rw [hid, RowChange.onlyAt_self]
      · left
        rw [acknowledged_snoc_applied, if_neg hid]
    · left
      rw [List.append_nil]
  | acquireInterface task =>
    left
    apply acknowledged_append
    intro call hcall applied
    dsimp only [emitted] at hcall
    split at hcall
    · split at hcall
      · cases hcall
      · obtain ⟨requested, -, rfl⟩ := List.mem_map.mp hcall
        simp
    · cases hcall
  | applyIsLost task timedOut =>
    left
    apply acknowledged_append
    intro call hcall applied
    dsimp only [emitted] at hcall
    split at hcall
    · rw [List.mem_singleton.mp hcall]
      simp
    · cases hcall
  | readBackReturns task value recentReading =>
    left
    apply acknowledged_append
    intro call hcall applied
    dsimp only [emitted] at hcall
    split at hcall
    · rw [List.mem_singleton.mp hcall]
      simp
    · cases hcall
  | _ =>
    left
    dsimp only [emitted]
    rw [List.append_nil]

/-! ## The truth of the rows -/

/-- An installation that is enabled and active has the configuration the device acknowledged
last. -/
def TellsTruth (s : ProvisioningService κ) : Prop :=
  ∀ i row, s.get i = some row → row.enabled = true → row.provisioningState = .active →
    acknowledged i s.calls = some row.configuration

/-- What an event puts in force was acknowledged last: the configuration of an installation that is
verified or restored, and the previous one of an installation whose replacement fails or becomes
uncertain. -/
def PutsAcknowledged (s : ProvisioningService κ) (e : ProvisioningEvent κ) : Prop :=
  ∀ i row, s.get i = some row → match change s e i with
    | .activates | .restores => acknowledged i s.calls = some row.configuration
    | .fails _ | .isUncertain _ _ => ∀ previous, row.previousConfiguration = some previous →
      acknowledged i s.calls = some previous
    | _ => True

theorem putsAcknowledged_iff (s : ProvisioningService κ) (e : ProvisioningEvent κ) :
    PutsAcknowledged s e ↔ ∀ i row configuration, s.get i = some row →
      (change s e i).inForce row = some configuration →
        acknowledged i s.calls = some configuration := by
  unfold PutsAcknowledged
  constructor
  · intro h i row configuration hrow hforce
    have hi := h i row hrow
    cases hchange : change s e i with
    | activates | restores =>
      rw [hchange] at hi hforce
      cases hforce
      exact hi
    | fails | isUncertain =>
      rw [hchange] at hi hforce
      exact hi configuration hforce
    | keeps | updates | validates | disables | archives | upgrades | removes | applies
    | verifies =>
      rw [hchange] at hforce
      cases hforce
  · intro h i row hrow
    have hi := fun configuration => h i row configuration hrow
    cases hchange : change s e i with
    | activates | restores =>
      rw [hchange] at hi
      exact hi _ rfl
    | fails | isUncertain =>
      rw [hchange] at hi
      exact hi
    | keeps | updates | validates | disables | archives | upgrades | removes | applies
    | verifies => trivial

/-- **One event keeps the rows true exactly when it puts acknowledged configurations in force.** -/
theorem tellsTruth_next {s : ProvisioningService κ} (h : TellsTruth s)
    (e : ProvisioningEvent κ) : TellsTruth (s.next e) ↔ PutsAcknowledged s e := by
  rw [putsAcknowledged_iff]
  constructor
  · intro hafter i row configuration hrow hforce
    obtain ⟨henabled, hactive, hconfiguration⟩ := RowChange.on_of_inForce hforce
    have htruth := hafter i _ (get_next hrow e) henabled hactive
    rw [hconfiguration] at htruth
    rcases acknowledged_next s e hrow with hsame | hverifies
    · rw [← hsame]
      exact htruth
    · rw [hverifies] at hforce
      cases hforce
  · intro hforce i row' hrow' henabled hactive
    cases hrow : s.get i with
    | none =>
      rw [get_next_new hrow] at hrow'
      rw [(created_draft hrow').1] at henabled
      cases henabled
    | some row =>
      rw [get_next hrow, Option.some.injEq] at hrow'
      subst hrow'
      rcases RowChange.active_on hactive with hkeeps | hputs
      · rcases acknowledged_next s e hrow with hsame | hverifies
        · rw [hkeeps] at henabled hactive ⊢
          rw [hsame]
          exact h i row hrow henabled hactive
        · rw [hkeeps] at hverifies
          cases hverifies
      · rcases acknowledged_next s e hrow with hsame | hverifies
        · rw [hsame]
          exact hforce i row _ hrow hputs
        · rw [hverifies] at hputs
          cases hputs

end

/-! ## A replacement the device took -/

/-- The default configuration with a slower report. -/
def slowerConfiguration : DeviceConfiguration :=
  { defaultConfiguration with reportIntervalMs := 200 }

end SeedMg24.Analysis
