import SeedMg24.Analysis.InstallationSteps
import SeedMg24.Model.BleProvisioning

/-!
# Exclusive interfaces

An installation takes up its interface while it is enabled and not archived.  The occupation of an
exclusive interface is looked up when an installation is created and before it is applied, but not
when one is enabled: by a verification, by a configuration handed back, or by a restoration.
-/

set_option autoImplicit false

namespace SeedMg24.Analysis

open Foundation Foundation.Runs Model Model.ProvisioningService

variable {κ : Type}

/-! ## Occupation -/

/-- The lookup finds nothing exactly when nothing takes up the interface.
SOURCE: installation_repository.py:28-37 -/
theorem occupiedInterface_eq_none {s : ProvisioningService κ} {nodeId interfaceId : Text}
    {excluded : Option ℕ} :
    s.occupiedInterface nodeId interfaceId excluded = none ↔
      ∀ j row, s.get j = some row → some j ≠ excluded → row.nodeId = nodeId →
        row.interfaceId = interfaceId → row.occupies = false := by
  unfold occupiedInterface
  rw [List.find?_eq_none]
  constructor
  · intro h j row hrow hexcluded hnode hinterface
    have hlt : j < s.installations.length := (List.getElem?_eq_some_iff.mp hrow).1
    have hj := h j (List.mem_range.mpr hlt)
    rw [hrow] at hj
    simpa [hexcluded, hnode, hinterface] using hj
  · intro h j _ hfound
    cases hrow : s.get j with
    | none => simp [hrow] at hfound
    | some row =>
      rw [hrow] at hfound
      simp only [Option.any_some, Bool.and_eq_true, decide_eq_true_eq] at hfound
      obtain ⟨hexcluded, ⟨hnode, hinterface⟩, hoccupies⟩ := hfound
      rw [h j row hrow hexcluded hnode hinterface] at hoccupies
      cases hoccupies

namespace RowChange

/-- Whether a change enables a row. -/
def enables (row : Installation κ) : RowChange κ → Bool
  | restores => true
  | activates => true
  | fails _ => row.previousConfiguration.isSome
  | isUncertain _ _ => row.previousConfiguration.isSome
  | _ => false

/-- A row takes up its interface because it did before, or because it is enabled. -/
theorem occupies_on {c : RowChange κ} {row : Installation κ} (h : (c.on row).occupies = true) :
    row.occupies = true ∨ c.enables row = true := by
  cases c with
  | keeps => exact .inl h
  | updates configuration =>
    dsimp only [on] at h
    unfold Installation.updated at h
    split at h
    · simp [Installation.occupies] at h
    · exact .inl h
  | validates failure =>
    cases failure with
    | some error => simp [on, Installation.validated, Installation.occupies] at h
    | none => exact .inl h
  | verifies => exact .inl h
  | restores => exact .inr rfl
  | activates => exact .inr rfl
  | fails error =>
    cases hprevious : row.previousConfiguration with
    | some previous => exact .inr (by simp [enables, hprevious])
    | none => simp [on, Installation.fail, hprevious, Installation.occupies] at h
  | isUncertain transactionId error =>
    cases hprevious : row.previousConfiguration with
    | some previous => exact .inr (by simp [enables, hprevious])
    | none => simp [on, Installation.uncertain, hprevious, Installation.occupies] at h
  | disables | archives | upgrades | removes | applies =>
    simp [on, Installation.disabled, Installation.archive, Installation.upgraded,
      Installation.removed, Installation.applying, Installation.occupies] at h

/-- A row that is enabled takes up its interface, unless it stays archived. -/
theorem occupies_of_enables {c : RowChange κ} {row : Installation κ} (h : c.enables row = true)
    (hc : c ≠ restores) : (c.on row).occupies = !row.archived := by
  cases c with
  | restores => exact absurd rfl hc
  | activates => simp [on, Installation.activated, Installation.occupies]
  | fails error =>
    obtain ⟨previous, hprevious⟩ := Option.isSome_iff_exists.mp h
    simp [on, Installation.fail, hprevious, Installation.handedBack, Installation.occupies]
  | isUncertain transactionId error =>
    obtain ⟨previous, hprevious⟩ := Option.isSome_iff_exists.mp h
    simp [on, Installation.uncertain, hprevious, Installation.handedBack, Installation.occupies]
  | keeps | updates | validates | disables | archives | upgrades | removes | applies | verifies =>
    cases h

@[simp] theorem enables_keeps (row : Installation κ) : keeps.enables row = false := rfl

/-- A change of one row enables no other one. -/
theorem onlyAt_of_enables {id i : ℕ} {c : RowChange κ} {row : Installation κ}
    (h : (onlyAt id i c).enables row = true) : id = i ∧ c.enables row = true := by
  by_cases hi : id = i
  · subst hi
    rw [onlyAt_self] at h
    exact ⟨rfl, h⟩
  · rw [onlyAt_of_ne hi] at h
    cases h

end RowChange

/-! ## One event -/

section

variable [DecidableEq κ]

/-- An event other than a registration that enables a row is about one row. -/
theorem changeOf_of_enables {s : ProvisioningService κ} {e : ProvisioningEvent κ} {i : ℕ}
    {row : Installation κ} (henables : (changeOf s e i row).enables row = true)
    (he : ∀ nodeId identified, e ≠ .reregister nodeId identified) :
    ∃ id c, c ≠ RowChange.restores ∧ ∀ j other, changeOf s e j other = .onlyAt id j c := by
  unfold changeOf at henables ⊢
  cases e with
  | reregister nodeId identified => exact absurd rfl (he nodeId identified)
  | applyIsLost task timedOut =>
    dsimp only at henables ⊢
    generalize s.tasks[task]? = found at henables ⊢
    cases found with
    | none => cases henables
    | some t =>
      cases t with
      | applying id nodeId interfaceId transactionId requested =>
        exact ⟨id, .isUncertain transactionId _, by simp, fun _ _ => rfl⟩
      | _ => cases henables
  | applyRejects task error =>
    dsimp only at henables ⊢
    generalize s.tasks[task]? = found at henables ⊢
    cases found with
    | none => cases henables
    | some t =>
      cases t with
      | applying id nodeId interfaceId transactionId requested =>
        exact ⟨id, .fails error, by simp, fun _ _ => rfl⟩
      | _ => cases henables
  | readBackFails task error =>
    dsimp only at henables ⊢
    generalize s.tasks[task]? = found at henables ⊢
    cases found with
    | none => cases henables
    | some t =>
      cases t with
      | readingBack id transactionId requested locks =>
        exact ⟨id, .fails error, by simp, fun _ _ => rfl⟩
      | _ => cases henables
  | readBackReturns task value recentReading =>
    dsimp only at henables ⊢
    generalize s.tasks[task]? = found at henables ⊢
    cases found with
    | none => cases henables
    | some t =>
      cases t with
      | readingBack id transactionId requested locks =>
        dsimp only at henables ⊢
        generalize s.judge id requested value recentReading = judgement at henables ⊢
        cases judgement with
        | mismatch => exact ⟨id, .fails _, by simp, fun _ _ => rfl⟩
        | raises => cases henables
        | noTelemetry => exact ⟨id, .fails _, by simp, fun _ _ => rfl⟩
        | succeeds => exact ⟨id, .activates, by simp, fun _ _ => rfl⟩
      | _ => cases henables
  | update id configuration accepted =>
    dsimp only at henables
    split at henables
    · cases henables
    · cases (RowChange.onlyAt_of_enables henables).2
  | validate id failure =>
    dsimp only at henables
    split at henables
    · cases henables
    · cases (RowChange.onlyAt_of_enables henables).2
  | upgradeProfile id version accepted =>
    dsimp only at henables
    split at henables
    · cases henables
    split at henables
    · cases henables
    · cases (RowChange.onlyAt_of_enables henables).2
  | disable id | archive id => cases (RowChange.onlyAt_of_enables henables).2
  | removeDevice nodeId =>
    dsimp only at henables
    split at henables <;> cases henables
  | acquireInterface task =>
    dsimp only at henables
    split at henables
    · split at henables
      · cases henables
      · cases (RowChange.onlyAt_of_enables henables).2
    · cases henables
  | applyReturns task applied =>
    dsimp only at henables
    split at henables
    · cases (RowChange.onlyAt_of_enables henables).2
    · cases henables
  | create | restoreDevice | reportCompatibility | apply | verify | acquireNode | interrupt =>
    cases henables

/-- An event other than a registration enables one row at most, and changes no other one then. -/
theorem change_of_enables {s : ProvisioningService κ} {e : ProvisioningEvent κ} {i : ℕ}
    {row : Installation κ} (hrow : s.get i = some row)
    (henables : (change s e i).enables row = true)
    (he : ∀ nodeId identified, e ≠ .reregister nodeId identified) :
    change s e i ≠ .restores ∧ ∀ j, i ≠ j → change s e j = .keeps := by
  rw [change_of_some hrow] at henables ⊢
  obtain ⟨id, c, hc, hchange⟩ := changeOf_of_enables henables he
  rw [hchange] at henables ⊢
  obtain ⟨rfl, -⟩ := RowChange.onlyAt_of_enables henables
  rw [RowChange.onlyAt_self]
  refine ⟨hc, fun j hne => ?_⟩
  cases hother : s.get j with
  | none =>
    unfold change
    rw [hother]
  | some other => rw [change_of_some hother, hchange, RowChange.onlyAt_of_ne hne]

/-- What a registration does to a row.
SOURCE: reset_reregister.py:593-597 -/
theorem change_reregister {s : ProvisioningService κ} {i : ℕ} {row : Installation κ}
    (hrow : s.get i = some row) (nodeId : Text) (identified : Bool) :
    change s (.reregister nodeId identified) i =
      if row.nodeId = nodeId ∧ s.canRestore nodeId identified then .restores else .keeps := by
  rw [change_of_some hrow]
  rfl

end

/-- No two installations take up the same exclusive interface of a node. -/
def ExclusiveOnce (s : ProvisioningService κ) : Prop :=
  ∀ i j a b, s.get i = some a → s.get j = some b → i ≠ j → a.occupies = true →
    b.occupies = true → a.nodeId = b.nodeId → a.interfaceId = b.interfaceId →
      isExclusive a.interfaceId = false

section

variable [DecidableEq κ]

/-- An event that enables installations leaves the interfaces apart: a registration that restores
finds no two installations of the node on one exclusive interface, and any other event finds the
interface of the installation it enables free, if that is exclusive and the installation is not
archived. -/
def LeavesApart (s : ProvisioningService κ) : ProvisioningEvent κ → Prop
  | .reregister nodeId identified => s.canRestore nodeId identified = true →
    ∀ i j a b, s.get i = some a → s.get j = some b → i ≠ j → a.nodeId = nodeId →
      b.nodeId = nodeId → a.interfaceId = b.interfaceId → isExclusive a.interfaceId = false
  | e => ∀ i row, s.get i = some row → (change s e i).enables row = true → row.archived = false →
    isExclusive row.interfaceId = true →
      s.occupiedInterface row.nodeId row.interfaceId (some i) = none

/-- A row after an event that takes up its interface: it did before, or the event enabled it. -/
theorem occupies_next {s : ProvisioningService κ} {e : ProvisioningEvent κ} {i : ℕ}
    {row' : Installation κ} (hrow' : (s.next e).get i = some row')
    (hoccupies : row'.occupies = true) :
    ∃ row, s.get i = some row ∧ row' = (change s e i).on row ∧
      (row.occupies = true ∨ (change s e i).enables row = true) := by
  cases hrow : s.get i with
  | none =>
    rw [get_next_new hrow] at hrow'
    simp [Installation.occupies, (created_draft hrow').1] at hoccupies
  | some row =>
    rw [get_next hrow, Option.some.injEq] at hrow'
    subst hrow'
    exact ⟨row, rfl, rfl, RowChange.occupies_on hoccupies⟩

/-- A registration that restores, on the rows of its node and on the others. -/
theorem exclusiveOnce_reregister {s : ProvisioningService κ} (h : ExclusiveOnce s)
    (nodeId : Text) (identified : Bool) :
    ExclusiveOnce (s.next (.reregister nodeId identified)) ↔
      LeavesApart s (.reregister nodeId identified) := by
  constructor
  · intro hafter hcan i j a b ha hb hne hanode hbnode hinterface
    have hrestored {k : ℕ} {row : Installation κ} (hrow : s.get k = some row)
        (hnode : row.nodeId = nodeId) :
        (s.next (.reregister nodeId identified)).get k = some row.restored := by
      rw [get_next hrow, change_reregister hrow, if_pos ⟨hnode, hcan⟩]
      rfl
    exact hafter i j a.restored b.restored (hrestored ha hanode) (hrestored hb hbnode) hne rfl rfl
      (hanode.trans hbnode.symm) hinterface
  · intro hapart i j a' b' ha' hb' hne haoccupies hboccupies hnode hinterface
    obtain ⟨a, ha, rfl, haon⟩ := occupies_next ha' haoccupies
    obtain ⟨b, hb, rfl, hbon⟩ := occupies_next hb' hboccupies
    rw [(RowChange.on_place _ a).1, (RowChange.on_place _ b).1] at hnode
    rw [(RowChange.on_place _ a).2, (RowChange.on_place _ b).2] at hinterface
    rw [(RowChange.on_place _ a).2]
    rw [change_reregister ha] at haon
    rw [change_reregister hb] at hbon
    by_cases hrestores : a.nodeId = nodeId ∧ s.canRestore nodeId identified = true
    · exact hapart hrestores.2 i j a b ha hb hne hrestores.1 (hnode ▸ hrestores.1) hinterface
    · rw [if_neg hrestores, RowChange.enables_keeps] at haon
      rw [if_neg (hnode ▸ hrestores), RowChange.enables_keeps] at hbon
      simp only [Bool.false_eq_true, or_false] at haon hbon
      exact h i j a b ha hb hne haon hbon hnode hinterface

/-- **One event keeps the interfaces apart exactly when it finds them free.** -/
theorem exclusiveOnce_next {s : ProvisioningService κ} (h : ExclusiveOnce s)
    (e : ProvisioningEvent κ) : ExclusiveOnce (s.next e) ↔ LeavesApart s e := by
  by_cases he : ∃ nodeId identified, e = .reregister nodeId identified
  · obtain ⟨nodeId, identified, rfl⟩ := he
    exact exclusiveOnce_reregister h nodeId identified
  have he' : ∀ nodeId identified, e ≠ .reregister nodeId identified :=
    fun nodeId identified heq => he ⟨nodeId, identified, heq⟩
  have hapart : LeavesApart s e ↔ ∀ i row, s.get i = some row →
      (change s e i).enables row = true → row.archived = false →
        isExclusive row.interfaceId = true →
          s.occupiedInterface row.nodeId row.interfaceId (some i) = none := by
    cases e with
    | reregister nodeId identified => exact absurd rfl (he' nodeId identified)
    | _ => exact Iff.rfl
  rw [hapart]
  constructor
  · intro hafter i row hrow henables harchived hexclusive
    obtain ⟨hrestores, hothers⟩ := change_of_enables hrow henables he'
    rw [occupiedInterface_eq_none]
    intro j other hother hexcluded hnode hinterface
    have hne : i ≠ j := fun heq => hexcluded (by rw [heq])
    have hother' := get_next hother e
    rw [hothers j hne] at hother'
    by_contra hoccupied
    have hfree := hafter i j _ _ (get_next hrow e) hother' hne
      (by rw [RowChange.occupies_of_enables henables hrestores, harchived]; rfl)
      (by simpa [RowChange.on] using hoccupied) (by rw [(RowChange.on_place _ row).1]; exact hnode.symm)
      (by rw [(RowChange.on_place _ row).2]; exact hinterface.symm)
    rw [(RowChange.on_place _ row).2, hexclusive] at hfree
    cases hfree
  · intro hfree
    -- the case of an enabled row and another one that takes up the same interface
    have hboth : ∀ i j a b, s.get i = some a → s.get j = some b → i ≠ j →
        (change s e i).enables a = true → ((change s e i).on a).occupies = true →
          ((change s e j).on b).occupies = true → a.nodeId = b.nodeId →
            a.interfaceId = b.interfaceId → isExclusive a.interfaceId = false := by
      intro i j a b ha hb hne henables haoccupies hboccupies hnode hinterface
      obtain ⟨hrestores, hothers⟩ := change_of_enables ha henables he'
      rw [RowChange.occupies_of_enables henables hrestores] at haoccupies
      rw [hothers j hne] at hboccupies
      by_contra hexclusive
      have hnone := hfree i a ha henables (by simpa using haoccupies) (by simpa using hexclusive)
      have hfalse := occupiedInterface_eq_none.mp hnone j b hb (by simpa using hne.symm)
        hnode.symm hinterface.symm
      rw [show (RowChange.keeps.on b) = b from rfl, hfalse] at hboccupies
      cases hboccupies
    intro i j a' b' ha' hb' hne haoccupies hboccupies hnode hinterface
    obtain ⟨a, ha, rfl, haon⟩ := occupies_next ha' haoccupies
    obtain ⟨b, hb, rfl, hbon⟩ := occupies_next hb' hboccupies
    rw [(RowChange.on_place _ a).1, (RowChange.on_place _ b).1] at hnode
    rw [(RowChange.on_place _ a).2, (RowChange.on_place _ b).2] at hinterface
    rw [(RowChange.on_place _ a).2]
    rcases haon with haon | haon
    · rcases hbon with hbon | hbon
      · exact h i j a b ha hb hne haon hbon hnode hinterface
      · rw [hinterface]
        exact hboth j i b a hb ha hne.symm hbon hboccupies haoccupies hnode.symm hinterface.symm
    · exact hboth i j a b ha hb hne haon haoccupies hboccupies hnode hinterface

/-- **Exclusive interfaces stay exclusive exactly as long as every event that enables installations
finds their interfaces free.**  For every set of nodes and every run from an empty table of
installations, all along the run.
SOURCE: provisioning_service.py:130-319; reset_reregister.py:589-598 -/
theorem exclusiveOnce_iff (devices : List RegisteredDevice) (events : List (ProvisioningEvent κ)) :
    Always next ExclusiveOnce { devices := devices } events ↔
      Throughout next LeavesApart { devices := devices } events := by
  apply always_iff_throughout next (I := fun _ => True) trivial
  · intro i j a b ha
    cases ha
  · intro s e _
    trivial
  · intro s e _ h
    exact exclusiveOnce_next h e

end

/-! ## Two installations on the microphone -/

/-- A node with compatible firmware. -/
def knownNode : RegisteredDevice where
  deviceId := "MG24-0001".toList
  bleAddress := some "AA".toList
  compatibilityStatus := "compatible".toList

/-- The default configuration. -/
def defaultConfiguration : DeviceConfiguration where
  sampleIntervalMs := 100
  processingIntervalMs := 100
  reportIntervalMs := 100
  heartbeatIntervalMs := 30000
  filterType := .none
  filterWindow := 1

/-- An installation is created on the microphone and applied by the task with the given number, and
the device takes it and shows it. -/
def installs (installationId task : ℕ) : List (ProvisioningEvent DeviceConfiguration) :=
  [.create "MG24-0001".toList "MIC".toList "1.0.0".toList defaultConfiguration true,
    .validate installationId none, .apply installationId, .acquireNode task, .acquireInterface task,
    .applyReturns task defaultConfiguration, .readBackReturns task defaultConfiguration true]

/-- An installation on the microphone that is enabled. -/
def enabledInstallation : Installation DeviceConfiguration where
  nodeId := "MG24-0001".toList
  interfaceId := "MIC".toList
  sensorProfileVersion := "1.0.0".toList
  configuration := defaultConfiguration
  previousConfiguration := some defaultConfiguration
  enabled := true
  verificationStatus := .verified
  provisioningState := .active

/-- A disabled installation, a second one in its place, and a factory reset of the node: the
registration that restores the node enables both.
SOURCE: reset_reregister.py:593-597 -/
theorem not_exclusiveOnce_reregister :
    ¬ ExclusiveOnce (after next { devices := [knownNode] }
      (installs 0 0 ++ [.disable 0] ++ installs 1 1 ++
        [.removeDevice "MG24-0001".toList, .reregister "MG24-0001".toList true])) := by
  intro h
  have hfirst : (after next { devices := [knownNode] }
      (installs 0 0 ++ [.disable 0] ++ installs 1 1 ++
        [.removeDevice "MG24-0001".toList, .reregister "MG24-0001".toList true])).get 0 =
      some enabledInstallation := by decide +kernel
  have hsecond : (after next { devices := [knownNode] }
      (installs 0 0 ++ [.disable 0] ++ installs 1 1 ++
        [.removeDevice "MG24-0001".toList, .reregister "MG24-0001".toList true])).get 1 =
      some enabledInstallation := by decide +kernel
  have hfree := h 0 1 _ _ hfirst hsecond (by decide) rfl rfl rfl rfl
  exact absurd hfree (by decide +kernel)

end SeedMg24.Analysis
