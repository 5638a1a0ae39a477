import SeedMg24.Analysis.ExclusiveInterfaces

/-!
# Reconciling before a retry

After an apply was lost the device may have either configuration.  The row waits in `reconciling`,
or active with its previous configuration, and cannot be applied from there; but a validation, an
update or a profile upgrade makes it ready again without a look at the device.
-/

set_option autoImplicit false

namespace SeedMg24.Analysis

open Foundation Foundation.Runs Model Model.ProvisioningService

variable {κ : Type}

/-- Whether the last apply of an installation was lost, with no read-back since. -/
def unresolved (i : ℕ) (calls : List (ConfiguratorCall κ)) : Bool :=
  calls.foldl (fun isOpen call => match call with
    | .lost id => if id = i then true else isOpen
    | .readBack id _ => if id = i then false else isOpen
    | _ => isOpen) false

/-- Nothing is applied to an installation while an apply of it is unresolved. -/
def RetriesReconciled (calls : List (ConfiguratorCall κ)) : Prop :=
  ∀ before id requested, before ++ [.applies id requested] <+: calls → unresolved id before = false

theorem unresolved_snoc (i : ℕ) (calls : List (ConfiguratorCall κ)) (call : ConfiguratorCall κ) :
    unresolved i (calls ++ [call]) = match call with
      | .lost id => if id = i then true else unresolved i calls
      | .readBack id _ => if id = i then false else unresolved i calls
      | _ => unresolved i calls := by
  simp [unresolved]

/-- One more call. -/
theorem retriesReconciled_snoc {calls : List (ConfiguratorCall κ)} {call : ConfiguratorCall κ}
    (h : RetriesReconciled calls)
    (hcall : ∀ id requested, call = .applies id requested → unresolved id calls = false) :
    RetriesReconciled (calls ++ [call]) := by
  intro before id requested hbefore
  rcases List.prefix_concat_iff.mp hbefore with heq | hbefore
  · obtain ⟨rfl, hlast⟩ := List.append_inj' heq rfl
    rw [List.cons.injEq] at hlast
    exact hcall id requested hlast.1.symm
  · exact h before id requested hbefore

section

variable [DecidableEq κ]

/-- No installation is made ready to be applied while an apply of it is unresolved: there is no
passing validation, no update of it if it is active, and no profile upgrade. -/
def AwaitsReadBack (s : ProvisioningService κ) (e : ProvisioningEvent κ) : Prop :=
  ∀ i row, s.get i = some row → unresolved i s.calls = true →
    (change s e i).makesReady row = false

instance (s : ProvisioningService κ) (e : ProvisioningEvent κ) : Decidable (AwaitsReadBack s e) :=
  decidable_of_iff (∀ i ∈ List.range s.installations.length, (s.get i).all (fun row =>
      !(unresolved i s.calls && (change s e i).makesReady row)) = true) <| by
    constructor
    · intro h i row hrow hopen
      have hi := h i (List.mem_range.mpr (List.getElem?_eq_some_iff.mp hrow).1)
      rw [hrow] at hi
      simpa [hopen] using hi
    · intro h i _
      cases hrow : s.get i with
      | none => rfl
      | some row =>
        have hi := h i row hrow
        cases hopen : unresolved i s.calls with
        | false => rfl
        | true => simpa [hopen] using hi hopen

/-- No call was a retry too early, and no unresolved installation is ready. -/
structure ReconcileInvariant (s : ProvisioningService κ) : Prop where
  calls : RetriesReconciled s.calls
  waits : ∀ i row, s.get i = some row → unresolved i s.calls = true →
    row.provisioningState ≠ .readyToApply

/-- An installation becomes unresolved when its row becomes uncertain. -/
theorem unresolved_next {s : ProvisioningService κ} {e : ProvisioningEvent κ} {i : ℕ}
    {row : Installation κ} (hrow : s.get i = some row)
    (h : unresolved i (s.next e).calls = true) :
    unresolved i s.calls = true ∨
      ∃ transactionId error, change s e i = .isUncertain transactionId error := by
  rw [calls_next] at h
  cases e with
  | applyIsLost task timedOut =>
    rw [change_of_some hrow]
    dsimp only [emitted, changeOf] at h ⊢
    split at h
    · rename_i id nodeId interfaceId transactionId requested htask
      rw [unresolved_snoc] at h
      dsimp only at h
      by_cases hid : id = i
      · right
        rw [hid, RowChange.onlyAt_self]
        exact ⟨_, _, rfl⟩
      · left
        rwa [if_neg hid] at h
    · left
      rwa [List.append_nil] at h
  | readBackReturns task value recentReading =>
    left
    dsimp only [emitted] at h
    split at h
    · rw [unresolved_snoc] at h
      dsimp only at h
      split at h
      · cases h
      · exact h
    · rwa [List.append_nil] at h
  | acquireInterface task =>
    left
    rcases emitted_cases s (.acquireInterface task) with hnil | ⟨call, hcall⟩
    · rwa [hnil, List.append_nil] at h
    · rw [hcall, unresolved_snoc] at h
      have hmem : call ∈ emitted s (.acquireInterface task) := by simp [hcall]
      dsimp only [emitted] at hmem
      split at hmem
      · split at hmem
        · cases hmem
        · obtain ⟨requested, -, rfl⟩ := List.mem_map.mp hmem
          exact h
      · cases hmem
  | applyReturns task applied =>
    left
    dsimp only [emitted] at h
    split at h
    · rwa [unresolved_snoc] at h
    · rwa [List.append_nil] at h
  | _ =>
    left
    dsimp only [emitted] at h
    rwa [List.append_nil] at h

/-- One event keeps the invariant, if it makes no unresolved installation ready. -/
theorem reconcileInvariant_next {s : ProvisioningService κ} {e : ProvisioningEvent κ}
    (h : ReconcileInvariant s) (he : AwaitsReadBack s e) : ReconcileInvariant (s.next e) := by
  constructor
  · rw [calls_next]
    rcases emitted_cases s e with hnil | ⟨call, hcall⟩
    · rw [hnil, List.append_nil]
      exact h.calls
    · rw [hcall]
      apply retriesReconciled_snoc h.calls
      intro id requested heq
      obtain ⟨-, row, hrow, hready, -⟩ := change_of_applies
        (show .applies id requested ∈ emitted s e by rw [hcall, heq]; simp)
      by_contra hopen
      exact h.waits id row hrow (by simpa using hopen) hready
  · intro i row' hrow' hopen hready
    cases hrow : s.get i with
    | none =>
      rw [get_next_new hrow] at hrow'
      rw [(created_draft hrow').2] at hready
      cases hready
    | some row =>
      rw [get_next hrow, Option.some.injEq] at hrow'
      subst hrow'
      rcases unresolved_next hrow hopen with hbefore | ⟨transactionId, error, hchange⟩
      · rcases RowChange.ready_on hready with ⟨-, hwas⟩ | hmade
        · exact h.waits i row hrow hbefore hwas
        · rw [he i row hrow hbefore] at hmade
          cases hmade
      · rw [hchange] at hready
        rcases RowChange.ready_on hready with ⟨-, hwas⟩ | hmade
        · dsimp only [RowChange.on] at hready
          unfold Installation.uncertain at hready
          split at hready <;> cases hready
        · cases hmade

/-- **Nothing is applied to an installation between an apply that was lost and a read-back, along
every run that makes no installation ready in between.**
SOURCE: provisioning_service.py:96-208, 292-319 -/
theorem retriesReconciled_of_awaitsReadBack (devices : List RegisteredDevice)
    (events : List (ProvisioningEvent κ))
    (h : Throughout next AwaitsReadBack { devices := devices } events) :
    Always next (fun s => RetriesReconciled s.calls) { devices := devices } events := by
  have hstart : ReconcileInvariant ({ devices := devices } : ProvisioningService κ) := by
    constructor
    · intro before id requested hbefore
      have := hbefore.length_le
      simp at this
    · intro i row hrow
      cases hrow
  intro before hbefore
  exact (h.always next hstart (fun s e hs he => reconcileInvariant_next hs he) before hbefore).calls

end

/-- A first apply that is lost. -/
def lostApply : List (ProvisioningEvent DeviceConfiguration) :=
  [.create "MG24-0001".toList "MIC".toList "1.0.0".toList defaultConfiguration true,
    .validate 0 none, .apply 0, .acquireNode 0, .acquireInterface 0, .applyIsLost 0 true]

/-- The device is read back after the lost apply, and then the installation is updated and applied
again. -/
theorem retriesReconciled_lostApply :
    Always next (fun s => RetriesReconciled s.calls) { devices := [knownNode] }
      (lostApply ++ [.verify 0, .readBackReturns 1 defaultConfiguration true,
        .update 0 { defaultConfiguration with reportIntervalMs := 200 } true, .validate 0 none,
        .apply 0, .acquireNode 2, .acquireInterface 2]) := by
  apply retriesReconciled_of_awaitsReadBack
  decide +kernel

/-- A validation after the lost apply makes the installation ready, and it is applied again without
a look at the device.
SOURCE: provisioning_service.py:98-102, 128, 161-182 -/
theorem not_retriesReconciled_validate :
    ¬ RetriesReconciled (after next { devices := [knownNode] }
      (lostApply ++ [.validate 0 none, .apply 0, .acquireNode 1, .acquireInterface 1])).calls := by
  have hcalls : (after next { devices := [knownNode] }
      (lostApply ++ [.validate 0 none, .apply 0, .acquireNode 1, .acquireInterface 1])).calls =
      [.applies 0 defaultConfiguration, .lost 0, .applies 0 defaultConfiguration] := by
    decide +kernel
  rw [hcalls]
  intro h
  exact absurd (h [.applies 0 defaultConfiguration, .lost 0] 0 defaultConfiguration (by simp))
    (by decide)

end SeedMg24.Analysis
