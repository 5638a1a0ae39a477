import SeedMg24.Analysis.AcknowledgedConfiguration

/-!
# Failed replacements

An update of an active installation puts its configuration aside as the previous one.  A replacement
that fails brings it back when the failure is one that `_fail` or `_uncertain` handles and the row
still carries it: not when the validation fails, when a check under the locks does, or when the
apply or its verification is broken off, and not when a verification fails after an uncertain apply.
-/

set_option autoImplicit false

namespace SeedMg24.Analysis

open Foundation Foundation.Runs Model Model.ProvisioningService

variable {κ : Type}

/-! ## Replacements -/

/-- Whether the checks under the locks raise an error.
SOURCE: provisioning_service.py:140-162 -/
def refusesApply (s : ProvisioningService κ) (id : ℕ) (nodeId interfaceId : Text) : Bool :=
  match s.get id with
  | none => true
  | some row =>
    if row.archived then true
    else if row.provisioningState = .active then false
    else if (s.getDevice nodeId).all (·.compatibilityStatus ≠ "compatible".toList) then true
    else if !s.hasCapabilities nodeId then true
    else if isExclusive interfaceId && (s.occupiedInterface nodeId interfaceId (some id)).isSome
    then true
    else if s.underWay row.activeTransactionId then false
    else decide (row.provisioningState ≠ .readyToApply)

section

variable [DecidableEq κ]

/-- An apply of the installation is refused by the checks under the locks, or its apply or
verification ends with an exception that is not handled. -/
def breaksOff (s : ProvisioningService κ) (e : ProvisioningEvent κ) (i : ℕ) : Bool :=
  match e with
  | .acquireInterface task =>
    match s.tasks[task]? with
    | some (.waitingForInterface id nodeId interfaceId) =>
      decide (id = i ∧ (nodeId, interfaceId) ∉ s.interfaceLocks) &&
        refusesApply s id nodeId interfaceId
    | _ => false
  | .interrupt task =>
    match s.tasks[task]? with
    | some (.applying id _ _ _ _) => decide (id = i)
    | some (.readingBack id _ _ _) => decide (id = i)
    | _ => false
  | .readBackReturns task value recentReading =>
    match s.tasks[task]? with
    | some (.readingBack id _ requested _) =>
      decide (id = i ∧ s.judge id requested value recentReading = .raises)
    | _ => false
  | _ => false

/-- A validation, an apply or a verification of the installation ends without success. -/
def EndsWithoutSuccess (s : ProvisioningService κ) (e : ProvisioningEvent κ) (i : ℕ) : Prop :=
  match change s e i with
  | .validates failure => failure.isSome = true
  | .fails _ | .isUncertain _ _ => True
  | .keeps => breaksOff s e i = true
  | _ => False

/-- The service, and for each installation with a replacement under way the configuration that is
replaced. -/
structure ReplacementRun (κ : Type) where
  service : ProvisioningService κ
  replaced : ℕ → Option κ

namespace ReplacementRun

/-- A service without installations. -/
def start (devices : List RegisteredDevice) : ReplacementRun κ where
  service := { devices := devices }
  replaced := fun _ => none

/-- One event: a replacement is submitted by an update of an installation that is enabled and
active, and is under way until it succeeds, or ends without success other than by an uncertain
apply, or the installation is disabled, archived, removed or restored. -/
def next (r : ReplacementRun κ) (e : ProvisioningEvent κ) : ReplacementRun κ where
  service := r.service.next e
  replaced := fun i =>
    match r.service.get i with
    | none => none
    | some row =>
      match change r.service e i with
      | .updates _ =>
        if row.enabled && decide (row.provisioningState = .active) then some row.configuration
        else r.replaced i
      | .activates | .disables | .archives | .removes | .restores | .fails _ => none
      | .validates failure => if failure.isSome then none else r.replaced i
      | .keeps => if breaksOff r.service e i then none else r.replaced i
      | _ => r.replaced i

end ReplacementRun

/-- An installation is enabled and active with a configuration. -/
def InForce (s : ProvisioningService κ) (i : ℕ) (configuration : κ) : Prop :=
  ∃ row, s.get i = some row ∧ row.enabled = true ∧ row.provisioningState = .active ∧
    row.configuration = configuration

/-- A replacement that ends without success leaves the replaced configuration in force. -/
def Restores (r : ReplacementRun κ) (e : ProvisioningEvent κ) : Prop :=
  ∀ i configuration, r.replaced i = some configuration → EndsWithoutSuccess r.service e i →
    InForce (r.service.next e) i configuration

/-- A replacement that ends without success ends in `_fail` or `_uncertain` while the row carries
the replaced configuration as its previous one, or is broken off after the replaced configuration
came into force again. -/
def HandsBack (r : ReplacementRun κ) (e : ProvisioningEvent κ) : Prop :=
  ∀ i configuration, r.replaced i = some configuration → EndsWithoutSuccess r.service e i →
    ∃ row, r.service.get i = some row ∧ match change r.service e i with
      | .fails _ | .isUncertain _ _ => row.previousConfiguration = some configuration
      | .keeps => row.enabled = true ∧ row.provisioningState = .active ∧
          row.configuration = configuration
      | _ => False

/-- A failure puts the previous configuration in force, and no other one. -/
theorem inForce_failure {s : ProvisioningService κ} {e : ProvisioningEvent κ} {i : ℕ}
    {row : Installation κ} (hrow : s.get i = some row) (configuration : κ)
    (h : ∀ previous, (change s e i).inForce row = some previous ↔
      row.previousConfiguration = some previous)
    (hkeeps : change s e i ≠ .keeps) :
    InForce (s.next e) i configuration ↔ row.previousConfiguration = some configuration := by
  unfold InForce
  rw [get_next hrow]
  constructor
  · rintro ⟨row', hrow', -, hactive, rfl⟩
    rw [Option.some.injEq] at hrow'
    subst hrow'
    rcases RowChange.active_on hactive with hkept | hforce
    · exact absurd hkept hkeeps
    · exact (h _).mp hforce
  · intro hprevious
    obtain ⟨henabled, hactive, hconfiguration⟩ :=
      RowChange.on_of_inForce ((h configuration).mpr hprevious)
    exact ⟨_, rfl, henabled, hactive, hconfiguration⟩

/-- **One end of a replacement restores exactly when it hands back.** -/
theorem restores_iff (r : ReplacementRun κ) (e : ProvisioningEvent κ) :
    Restores r e ↔ HandsBack r e := by
  unfold Restores HandsBack
  apply forall_congr'
  intro i
  apply forall_congr'
  intro configuration
  apply imp_congr_right
  intro _
  apply imp_congr_right
  intro hends
  cases hrow : r.service.get i with
  | none =>
    constructor
    · rintro ⟨row, hrow', henabled, -⟩
      rw [get_next_new hrow] at hrow'
      rw [(created_draft hrow').1] at henabled
      cases henabled
    · rintro ⟨row, hrow', -⟩
      cases hrow'
  | some row =>
    simp only [Option.some.injEq, exists_eq_left']
    cases hchange : change r.service e i with
    | fails error =>
      exact inForce_failure hrow configuration (by simp [hchange, RowChange.inForce])
        (by simp [hchange])
    | isUncertain transactionId error =>
      exact inForce_failure hrow configuration (by simp [hchange, RowChange.inForce])
        (by simp [hchange])
    | keeps =>
      unfold InForce
      rw [get_next hrow, hchange]
      simp [RowChange.on]
    | validates failure =>
      unfold EndsWithoutSuccess at hends
      rw [hchange] at hends
      obtain ⟨error, rfl⟩ := Option.isSome_iff_exists.mp hends
      unfold InForce
      rw [get_next hrow, hchange]
      simp [RowChange.on, Installation.validated]
    | updates | disables | archives | upgrades | removes | restores | applies | verifies
    | activates =>
      unfold EndsWithoutSuccess at hends
      rw [hchange] at hends
      exact hends.elim

/-- **Every replacement that ends without success leaves the replaced configuration in force exactly
when every such end hands it back.**  For every set of nodes and every run from an empty table of
installations.
SOURCE: provisioning_service.py:96-128, 183-319; installation_service.py:65-79 -/
theorem throughout_restores_iff (devices : List RegisteredDevice)
    (events : List (ProvisioningEvent κ)) :
    Throughout ReplacementRun.next Restores (.start devices) events ↔
      Throughout ReplacementRun.next HandsBack (.start devices) events := by
  unfold Throughout
  simp only [restores_iff]

end

/-! ## An uncertain replacement that is verified -/

/-- A replacement whose acknowledgement is lost, and a verification. -/
def uncertainReplacement : List (ProvisioningEvent DeviceConfiguration) :=
  installs 0 0 ++ [.update 0 slowerConfiguration true, .validate 0 none, .apply 0, .acquireNode 1,
    .acquireInterface 1, .applyIsLost 1 true, .verify 0]

/-- The previous configuration is handed back when the acknowledgement of a replacement is lost; the
verification that is to reconcile the two fails, and the row has nothing left to go back to.
SOURCE: provisioning_service.py:282-290, 301-309 -/
theorem not_restores_uncertain :
    ¬ Throughout ReplacementRun.next Restores (.start [knownNode])
      (uncertainReplacement ++ [.readBackFails 2 "ValueError".toList]) := by
  intro h
  have hlast := h uncertainReplacement (.readBackFails 2 "ValueError".toList) (List.prefix_refl _)
  have hreplaced : (after ReplacementRun.next (.start [knownNode]) uncertainReplacement).replaced 0 =
      some defaultConfiguration := by decide +kernel
  have hchange : change (after ReplacementRun.next (.start [knownNode]) uncertainReplacement).service
      (.readBackFails 2 "ValueError".toList) 0 = .fails "ValueError".toList := by decide +kernel
  have hends : EndsWithoutSuccess
      (after ReplacementRun.next (.start [knownNode]) uncertainReplacement).service
      (.readBackFails 2 "ValueError".toList) 0 := by
    unfold EndsWithoutSuccess
    rw [hchange]
    trivial
  have hdisabled : (((after ReplacementRun.next (.start [knownNode]) uncertainReplacement).service.next
      (.readBackFails 2 "ValueError".toList)).get 0).map (·.enabled) = some false := by
    decide +kernel
  obtain ⟨row, hrow, henabled, -⟩ := hlast 0 defaultConfiguration hreplaced hends
  rw [hrow, Option.map_some, henabled] at hdisabled
  cases hdisabled

end SeedMg24.Analysis
