import SeedMg24.Analysis.InstallationSteps
import SeedMg24.Foundation.FirstOccurrences
import SeedMg24.Foundation.Runs

/-!
# Nodes that are removed

An installation that is not archived is one of a node that can be used, so a node that is removed
takes up no interface, and nothing is applied to it.
-/

set_option autoImplicit false

namespace SeedMg24.Analysis

open Foundation Model Model.ProvisioningService

namespace RemovedNodes

variable {κ : Type}

/-! ## Nodes that can be used -/

theorem hasCapabilities_congr {s after : ProvisioningService κ} (h : after.devices = s.devices)
    (nodeId : Text) : after.hasCapabilities nodeId = s.hasCapabilities nodeId := by
  unfold hasCapabilities getDevice
  rw [h]

/-- What becomes of a device that is looked up, when one of them changes. -/
theorem getDevice_update (s : ProvisioningService κ) (nodeId : Text)
    {f : RegisteredDevice → RegisteredDevice} (hf : ∀ device, (f device).deviceId = device.deviceId)
    (other : Text) : (s.updateDevice nodeId f).getDevice other =
      if other = nodeId then (s.getDevice other).map f else s.getDevice other := by
  unfold updateDevice getDevice
  exact find?_update RegisteredDevice.deviceId hf nodeId other s.devices

/-- A change that archives no device leaves the nodes that can be used. -/
theorem hasCapabilities_updateDevice {s : ProvisioningService κ} {nodeId : Text}
    {f : RegisteredDevice → RegisteredDevice} (hf : ∀ device, (f device).deviceId = device.deviceId)
    (harchived : ∀ device, device.archived = false → (f device).archived = false) {other : Text}
    (h : s.hasCapabilities other = true) :
    (s.updateDevice nodeId f).hasCapabilities other = true := by
  unfold hasCapabilities at h ⊢
  rw [getDevice_update s nodeId hf]
  split
  · rw [Option.any_eq_true] at h
    obtain ⟨device, hdevice, hlive⟩ := h
    rw [Bool.not_eq_true'] at hlive
    rw [hdevice, Option.map_some, Option.any_some, harchived device hlive]
    rfl
  · exact h

theorem hasCapabilities_restoreDevice {s : ProvisioningService κ} (nodeId : Text)
    (identified : Bool) {other : Text} (h : s.hasCapabilities other = true) :
    (s.restoreDevice nodeId identified).hasCapabilities other = true := by
  unfold restoreDevice
  split
  · exact h
  split_ifs
  · exact h
  · exact hasCapabilities_updateDevice (f := (·.restored)) (fun _ => rfl) (fun _ _ => rfl) h
  · exact h

/-- A restoration that goes through makes the node one that can be used. -/
theorem hasCapabilities_of_canRestore {s : ProvisioningService κ} {nodeId : Text}
    {identified : Bool} (h : s.canRestore nodeId identified = true) :
    (s.restoreDevice nodeId identified).hasCapabilities nodeId = true := by
  unfold canRestore at h
  rw [Option.any_eq_true] at h
  obtain ⟨device, hdevice, hcan⟩ := h
  unfold restoreDevice
  rw [hdevice]
  dsimp only
  cases harchived : device.archived with
  | false =>
    rw [if_pos (by rfl)]
    unfold hasCapabilities
    rw [hdevice, Option.any_some, harchived]
    rfl
  | true =>
    rw [harchived, Bool.not_true, Bool.false_or] at hcan
    rw [if_neg (by decide), if_pos hcan]
    unfold hasCapabilities
    rw [getDevice_update s nodeId (f := (·.restored)) fun _ => rfl, if_pos rfl, hdevice]
    rfl

/-- The removal of a node leaves the others. -/
theorem hasCapabilities_removeDevice {s : ProvisioningService κ} {nodeId other : Text}
    (hne : other ≠ nodeId) (h : s.hasCapabilities other = true) :
    (s.removeDevice nodeId).hasCapabilities other = true := by
  unfold removeDevice
  split
  · exact h
  split_ifs
  · exact h
  · refine (hasCapabilities_congr (s := s.updateDevice nodeId (·.removed)) rfl other).trans ?_
    unfold hasCapabilities at h ⊢
    rw [getDevice_update s nodeId (f := (·.removed)) fun _ => rfl, if_neg hne]
    exact h

/-! ## One event -/

@[simp] theorem devices_finish (s : ProvisioningService κ) (task : ℕ) :
    (s.finish task).devices = s.devices := by
  unfold finish
  split <;> rfl

section

variable [DecidableEq κ]

/-- What a task does leaves the devices. -/
theorem devices_of_task (s : ProvisioningService κ) (task : ℕ) :
    (s.acquireNode task).devices = s.devices ∧ (s.acquireInterface task).devices = s.devices ∧
      (∀ applied, (s.applyReturns task applied).devices = s.devices) ∧
      (∀ timedOut, (s.applyIsLost task timedOut).devices = s.devices) ∧
      (∀ error, (s.applyRejects task error).devices = s.devices) ∧
      (∀ error, (s.readBackFails task error).devices = s.devices) ∧
      ∀ value recentReading, (s.readBackReturns task value recentReading).devices = s.devices := by
  unfold acquireNode acquireInterface applyReturns applyIsLost applyRejects readBackFails
    readBackReturns
  cases s.tasks[task]? with
  | none => exact ⟨rfl, rfl, fun _ => rfl, fun _ => rfl, fun _ => rfl, fun _ => rfl, fun _ _ => rfl⟩
  | some t =>
    cases t with
    | waitingForNode id nodeId interfaceId =>
      refine ⟨?_, rfl, fun _ => rfl, fun _ => rfl, fun _ => rfl, fun _ => rfl, fun _ _ => rfl⟩
      dsimp only
      split_ifs <;> rfl
    | waitingForInterface id nodeId interfaceId =>
      refine ⟨rfl, ?_, fun _ => rfl, fun _ => rfl, fun _ => rfl, fun _ => rfl, fun _ _ => rfl⟩
      dsimp only
      split_ifs
      · rfl
      · split
        · exact devices_finish s task
        · rfl
    | applying id nodeId interfaceId transactionId requested =>
      refine ⟨rfl, rfl, fun applied => ?_, fun timedOut => devices_finish _ task,
        fun error => devices_finish _ task, fun _ => rfl, fun _ _ => rfl⟩
      dsimp only
      split
      · exact devices_finish _ task
      · rfl
    | readingBack id transactionId requested locks =>
      refine ⟨rfl, rfl, fun _ => rfl, fun _ => rfl, fun _ => rfl,
        fun error => devices_finish _ task, fun value recentReading => ?_⟩
      dsimp only
      split <;> exact devices_finish _ task
    | done =>
      exact ⟨rfl, rfl, fun _ => rfl, fun _ => rfl, fun _ => rfl, fun _ => rfl, fun _ _ => rfl⟩

/-- **A node stays one that can be used, unless it is removed.** -/
theorem hasCapabilities_next {s : ProvisioningService κ} {e : ProvisioningEvent κ} {nodeId : Text}
    (he : e ≠ .removeDevice nodeId) (h : s.hasCapabilities nodeId = true) :
    (s.next e).hasCapabilities nodeId = true := by
  have hkeeps {after : ProvisioningService κ} (hdevices : after.devices = s.devices) :
      after.hasCapabilities nodeId = true := (hasCapabilities_congr hdevices nodeId).trans h
  have htask := devices_of_task s
  cases e with
  | removeDevice other =>
    exact hasCapabilities_removeDevice (fun hsame => he (by rw [hsame])) h
  | restoreDevice other identified => exact hasCapabilities_restoreDevice other identified h
  | reregister other identified =>
    dsimp only [next]
    unfold reregister
    split_ifs
    · exact hasCapabilities_restoreDevice other identified h
    · exact h
  | reportCompatibility other status =>
    refine hasCapabilities_updateDevice (fun device => ?_) (fun device hlive => ?_) h
    · split <;> rfl
    · split <;> exact hlive
  | create nodeId interfaceId version configuration accepted =>
    refine hkeeps ?_
    dsimp only [next]
    unfold create
    split_ifs <;> rfl
  | update id configuration accepted =>
    refine hkeeps ?_
    dsimp only [next]
    unfold update
    split
    · rfl
    · split_ifs <;> rfl
  | validate id failure =>
    refine hkeeps ?_
    dsimp only [next]
    unfold validate
    split
    · rfl
    · split_ifs <;> rfl
  | upgradeProfile id version accepted =>
    refine hkeeps ?_
    dsimp only [next]
    unfold upgradeProfile
    split
    · rfl
    · split_ifs <;> rfl
  | disable id => exact hkeeps rfl
  | archive id => exact hkeeps rfl
  | apply id =>
    refine hkeeps ?_
    dsimp only [next]
    unfold ProvisioningService.apply
    split
    · rfl
    · split_ifs <;> rfl
  | verify id =>
    refine hkeeps ?_
    dsimp only [next]
    unfold ProvisioningService.verify
    split <;> rfl
  | acquireNode task => exact hkeeps (htask task).1
  | acquireInterface task => exact hkeeps (htask task).2.1
  | applyReturns task applied => exact hkeeps ((htask task).2.2.1 applied)
  | applyIsLost task timedOut => exact hkeeps ((htask task).2.2.2.1 timedOut)
  | applyRejects task error => exact hkeeps ((htask task).2.2.2.2.1 error)
  | readBackFails task error => exact hkeeps ((htask task).2.2.2.2.2.1 error)
  | readBackReturns task value recentReading =>
    exact hkeeps ((htask task).2.2.2.2.2.2 value recentReading)
  | interrupt task => exact hkeeps (devices_finish s task)

omit [DecidableEq κ] in
/-- A row that is not archived was not before, or it is brought back. -/
theorem of_not_archived {c : RowChange κ} {row : Installation κ}
    (h : (c.on row).archived = false) :
    c = .restores ∨ row.archived = false ∧ c ≠ .removes := by
  cases c with
  | restores => exact .inl rfl
  | archives => cases h
  | removes => cases h
  | updates configuration =>
    refine .inr ⟨?_, nofun⟩
    dsimp only [RowChange.on] at h
    unfold Installation.updated at h
    split at h <;> exact h
  | validates failure =>
    refine .inr ⟨?_, nofun⟩
    cases failure <;> exact h
  | fails error =>
    refine .inr ⟨?_, nofun⟩
    dsimp only [RowChange.on] at h
    unfold Installation.fail at h
    split at h <;> exact h
  | isUncertain transactionId error =>
    refine .inr ⟨?_, nofun⟩
    dsimp only [RowChange.on] at h
    unfold Installation.uncertain at h
    split at h <;> exact h
  | keeps | disables | upgrades | applies | verifies | activates => exact .inr ⟨h, nofun⟩

omit [DecidableEq κ] in
theorem eq_restores_of_onlyAt {i j : ℕ} {c : RowChange κ} (h : RowChange.onlyAt i j c = .restores) :
    c = .restores := by
  unfold RowChange.onlyAt at h
  split_ifs at h
  exact h

/-- Only a registration of the node brings a row back. -/
theorem reregistered_of_restores {s : ProvisioningService κ} {e : ProvisioningEvent κ} {i : ℕ}
    {row : Installation κ} (h : changeOf s e i row = .restores) :
    ∃ identified, e = .reregister row.nodeId identified ∧
      s.canRestore row.nodeId identified = true := by
  cases e with
  | reregister nodeId identified =>
    dsimp only [changeOf] at h
    split_ifs at h with hcan
    obtain ⟨rfl, hcan⟩ := hcan
    exact ⟨identified, rfl, hcan⟩
  | update id configuration accepted =>
    dsimp only [changeOf] at h
    split_ifs at h
    cases eq_restores_of_onlyAt h
  | validate id failure =>
    dsimp only [changeOf] at h
    split at h
    · cases h
    · cases eq_restores_of_onlyAt h
  | disable | archive => cases eq_restores_of_onlyAt h
  | upgradeProfile id version accepted =>
    dsimp only [changeOf] at h
    split_ifs at h
    cases eq_restores_of_onlyAt h
  | removeDevice nodeId =>
    dsimp only [changeOf] at h
    split_ifs at h
  | acquireInterface task =>
    dsimp only [changeOf] at h
    split at h
    · split_ifs at h
      cases eq_restores_of_onlyAt h
    · cases h
  | applyReturns | applyIsLost | applyRejects | readBackFails =>
    dsimp only [changeOf] at h
    split at h
    · cases eq_restores_of_onlyAt h
    · cases h
  | readBackReturns task value recentReading =>
    dsimp only [changeOf] at h
    split at h
    · split at h
      · cases eq_restores_of_onlyAt h
      · cases h
      · cases eq_restores_of_onlyAt h
      · cases eq_restores_of_onlyAt h
    · cases h
  | create | restoreDevice | reportCompatibility | apply | verify | acquireNode | interrupt => cases h

omit [DecidableEq κ] in
/-- A row is added only for a node that can be used. -/
theorem created_capabilities {s : ProvisioningService κ} {e : ProvisioningEvent κ} {i : ℕ}
    {row : Installation κ} (h : created s e i = some row) :
    (∀ nodeId, e ≠ .removeDevice nodeId) ∧ s.hasCapabilities row.nodeId = true := by
  unfold created at h
  split at h
  · split_ifs at h with hrefused hi
    cases h
    simp only [Bool.or_eq_true, not_or, Bool.not_eq_true', Bool.not_eq_false] at hrefused
    exact ⟨nofun, hrefused.1.1.2⟩
  · cases h

omit [DecidableEq κ] in
/-- The configurator's `apply` is called only for a row that is not archived.
SOURCE: provisioning_service.py:140-181 -/
theorem not_archived_of_applies {s : ProvisioningService κ} {e : ProvisioningEvent κ} {id : ℕ}
    {requested : κ} (h : .applies id requested ∈ emitted s e) :
    ∃ row, s.get id = some row ∧ row.archived = false := by
  cases e with
  | acquireInterface task =>
    dsimp only [emitted] at h
    split at h
    · split at h
      · cases h
      · obtain ⟨applied, hcheck, heq⟩ := List.mem_map.mp h
        cases heq
        obtain ⟨row, hrow, hlive, -⟩ := checkApply_eq_some (Option.mem_toList.mp hcheck)
        exact ⟨row, hrow, hlive⟩
    · cases h
  | applyReturns | applyIsLost | readBackReturns =>
    dsimp only [emitted] at h
    split at h
    · cases List.mem_singleton.mp h
    · cases h
  | _ => cases h

omit [DecidableEq κ] in
/-- A row that takes up an interface is not archived.
SOURCE: installation_repository.py:28-37 -/
theorem not_archived_of_occupied {s : ProvisioningService κ} {nodeId interfaceId : Text}
    {excluded : Option ℕ} {id : ℕ} (h : s.occupiedInterface nodeId interfaceId excluded = some id) :
    ∃ row, s.get id = some row ∧ row.nodeId = nodeId ∧ row.archived = false := by
  have hoccupies := List.find?_some h
  rw [Bool.and_eq_true, Option.any_eq_true] at hoccupies
  obtain ⟨row, hrow, hmatches⟩ := hoccupies.2
  rw [Bool.and_eq_true, Bool.and_eq_true, decide_eq_true_eq] at hmatches
  obtain ⟨⟨hnode, -⟩, hoccupying⟩ := hmatches
  unfold Installation.occupies at hoccupying
  rw [Bool.and_eq_true, Bool.not_eq_true'] at hoccupying
  exact ⟨row, hrow, hnode, hoccupying.2⟩

/-! ## Runs -/

/-- Every installation that is not archived is one of a node that can be used. -/
def OnlyUsable (s : ProvisioningService κ) : Prop :=
  ∀ i row, s.get i = some row → row.archived = false → s.hasCapabilities row.nodeId = true

/-- **One event.** -/
theorem onlyUsable_next {s : ProvisioningService κ} (h : OnlyUsable s) (e : ProvisioningEvent κ) :
    OnlyUsable (s.next e) := by
  intro i after hafter hlive
  cases hrow : s.get i with
  | none =>
    rw [get_next_new hrow] at hafter
    obtain ⟨hremoves, hcapabilities⟩ := created_capabilities hafter
    exact hasCapabilities_next (hremoves after.nodeId) hcapabilities
  | some row =>
    rw [get_next hrow, change_of_some hrow] at hafter
    cases hafter
    rw [(RowChange.on_place _ row).1]
    rcases of_not_archived hlive with hrestores | ⟨hbefore, hremoves⟩
    · obtain ⟨identified, rfl, hcan⟩ := reregistered_of_restores hrestores
      dsimp only [next]
      unfold reregister
      rw [if_pos hcan]
      exact hasCapabilities_of_canRestore hcan
    · have hcapabilities := h i row hrow hbefore
      refine hasCapabilities_next ?_ hcapabilities
      rintro rfl
      exact hremoves (if_pos ⟨rfl, hcapabilities⟩)

end

end RemovedNodes

open RemovedNodes

end SeedMg24.Analysis
