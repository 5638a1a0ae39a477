import SeedMg24.Foundation.Runs
import SeedMg24.Model.ResetReregister

/-!
# Honest completion of the reset-and-re-register workflow

An operation is complete only after its reset was verified and its sensor provisioned, in this
order, as long as two calls keep to it: a registration from the error state waits for the recorded
read-back of the reset, and a network verification that would complete waits for the recorded
read-back of the provisioning.  Neither call looks.
-/

set_option autoImplicit false

namespace SeedMg24.Analysis

open Foundation Foundation.Runs Model Model.ResetReregister

variable {κ : Type}

/-! ## What a row says about its operation -/

/-- The reset was verified, and the sensor provisioned after it. -/
def ResetThenProvisioned (milestones : List Milestone) : Prop :=
  [.resetVerified, .provisioned].Sublist milestones

/-- Every column of a row is true to what its operation has reached. -/
structure HonestRow (milestones : List Milestone) (item : Workflow κ) : Prop where
  ready : item.state = .unprovisionedReadyForRegistration → .resetVerified ∈ milestones
  registered : item.configuration.isSome → .resetVerified ∈ milestones
  postReset : item.result.postReset.isSome → .resetVerified ∈ milestones
  provisioned : item.result.sensorProvisioned → ResetThenProvisioned milestones
  complete : item.state = .complete → ResetThenProvisioned milestones

variable {milestones reached : List Milestone} {item row item' : Workflow κ}

/-- Reaching more keeps a row honest. -/
theorem HonestRow.append (h : HonestRow milestones item) (reached : List Milestone) :
    HonestRow (milestones ++ reached) item := by
  have hsublist : milestones.Sublist (milestones ++ reached) := List.sublist_append_left _ _
  exact {
    ready := fun hstate => List.mem_append_left _ (h.ready hstate)
    registered := fun hconfiguration => List.mem_append_left _ (h.registered hconfiguration)
    postReset := fun hresult => List.mem_append_left _ (h.postReset hresult)
    provisioned := fun hresult => (h.provisioned hresult).trans hsublist
    complete := fun hstate => (h.complete hstate).trans hsublist }

/-- A call that moves a row to a state which promises nothing, and records nothing. -/
structure Moves (item item' : Workflow κ) : Prop where
  state : item'.state ≠ .unprovisionedReadyForRegistration ∧ item'.state ≠ .complete
  configuration : item'.configuration.isSome → item.configuration.isSome
  postReset : item'.result.postReset = item.result.postReset
  sensorProvisioned : item'.result.sensorProvisioned = item.result.sensorProvisioned

/-- Such a call keeps a row honest. -/
theorem HonestRow.moves (h : HonestRow milestones item) (hmoves : Moves item item') :
    HonestRow milestones item' where
  ready hstate := absurd hstate hmoves.state.1
  registered hconfiguration := h.registered (hmoves.configuration hconfiguration)
  postReset hresult := h.postReset (hmoves.postReset ▸ hresult)
  provisioned hresult := h.provisioned (hmoves.sensorProvisioned ▸ hresult)
  complete hstate := absurd hstate hmoves.state.2

/-- The columns of a copy written into a row: each comes from the one or the other. -/
theorem HonestRow.flush (loaded : Workflow κ) (hitem : HonestRow milestones item)
    (hrow : HonestRow milestones row) : HonestRow milestones (Workflow.flush loaded item row) where
  ready hstate := by
    unfold Workflow.flush at hstate
    dsimp only at hstate
    split at hstate
    · exact hrow.ready hstate
    · exact hitem.ready hstate
  registered hconfiguration := hrow.registered hconfiguration
  postReset hresult := by
    unfold Workflow.flush at hresult
    dsimp only at hresult
    split at hresult
    · exact hrow.postReset hresult
    · exact hitem.postReset hresult
  provisioned hresult := by
    unfold Workflow.flush at hresult
    dsimp only at hresult
    split at hresult
    · exact hrow.provisioned hresult
    · exact hitem.provisioned hresult
  complete hstate := by
    unfold Workflow.flush at hstate
    dsimp only at hstate
    split at hstate
    · exact hrow.complete hstate
    · exact hitem.complete hstate

/-! ## What the calls do to a row -/

theorem moves_selectUsb {body : UsbSelection} {inspection : Except Text SensorState}
    (h : item.selectUsb body inspection = .ok item') : Moves item item' := by
  unfold Workflow.selectUsb at h
  split at h
  · cases h
  split at h
  · cases h
  split at h
  · cases h
  · cases h
    exact ⟨⟨nofun, nofun⟩, id, rfl, rfl⟩

theorem moves_backup {inspection : Except Text SensorState}
    (h : item.backup inspection = .ok item') : Moves item item' := by
  unfold Workflow.backup at h
  split at h
  · cases h
  split at h
  · cases h
  split at h
  · cases h
  · cases h
    exact ⟨⟨nofun, nofun⟩, id, rfl, rfl⟩

theorem moves_prepareReset {usb usb' : UsbFactoryReset} {body : ConfirmReset}
    {inspection : Except Text SensorState} {now token : ℕ}
    (h : item.prepareReset usb body inspection now = .ok (item', usb', token)) :
    Moves item item' := by
  unfold Workflow.prepareReset at h
  split at h
  · cases h
  split at h
  · cases h
  split at h
  · cases h
  split at h
  · cases h
  · cases h
    exact ⟨⟨nofun, nofun⟩, id, rfl, rfl⟩

theorem moves_executeReset {usb usb' : UsbFactoryReset} {token : Option ℕ} {body : ConfirmReset}
    {now reset : ℕ} (h : item.executeReset usb token body now = (usb', .ok (item', reset))) :
    Moves item item' := by
  unfold Workflow.executeReset at h
  cases token with
  | none => cases h
  | some token =>
    dsimp only at h
    split at h
    · cases h
    split at h
    · cases h
    split at h
    · cases h
    · cases h
      exact ⟨⟨nofun, nofun⟩, id, rfl, rfl⟩

theorem moves_cancelReset {usb usb' : UsbFactoryReset} {token : Option ℕ} {body : ConfirmReset}
    (h : item.cancelReset usb token body = (usb', .ok item')) : Moves item item' := by
  unfold Workflow.cancelReset at h
  cases token with
  | none => cases h
  | some token =>
    dsimp only at h
    split at h
    · cases h
    split at h
    · cases h
    · cases h
      exact ⟨⟨nofun, nofun⟩, id, rfl, rfl⟩

theorem moves_editRegistration (h : item.editRegistration = .ok item') : Moves item item' := by
  unfold Workflow.editRegistration at h
  split at h
  · cases h
  · cases h
    exact ⟨⟨nofun, nofun⟩, nofun, rfl, rfl⟩

theorem moves_monitored (reset : UsbResetOperation) : Moves item (item.monitored reset) := by
  refine ⟨?_, id, rfl, rfl⟩
  show Workflow.monitoredState reset ≠ _ ∧ Workflow.monitoredState reset ≠ _
  unfold Workflow.monitoredState
  split
  · exact ⟨nofun, nofun⟩
  · exact ⟨nofun, nofun⟩

theorem moves_resetFailed (reset : UsbResetOperation) : Moves item (item.resetFailed reset) := by
  unfold Workflow.resetFailed
  dsimp only
  split
  · exact ⟨⟨nofun, nofun⟩, id, rfl, rfl⟩
  · exact ⟨⟨nofun, nofun⟩, id, rfl, rfl⟩

theorem moves_verifying : Moves item item.verifying := ⟨⟨nofun, nofun⟩, id, rfl, rfl⟩

theorem moves_cleanupFailed (message : Text) : Moves item (item.cleanupFailed message) :=
  ⟨⟨nofun, nofun⟩, id, rfl, rfl⟩

theorem moves_provisioning : Moves item item.provisioning := ⟨⟨nofun, nofun⟩, id, rfl, rfl⟩

theorem moves_provisionFailed (message : Text) : Moves item (item.provisionFailed message) := by
  unfold Workflow.provisionFailed
  split
  · exact ⟨⟨nofun, nofun⟩, id, rfl, rfl⟩
  · exact ⟨⟨nofun, nofun⟩, id, rfl, rfl⟩

theorem moves_selected {expected address : Text} {reading : OnboardingReading}
    (h : item.selected expected address reading = .ok item') : Moves item item' := by
  unfold Workflow.selected at h
  split at h
  · cases h
  split at h
  · cases h
  · cases h
    exact ⟨⟨nofun, nofun⟩, id, rfl, rfl⟩

/-- A scan that finds nothing leaves the row as it is. -/
theorem HonestRow.scanned (h : HonestRow milestones item) (expected : Text)
    (candidates : List BleCandidate) : HonestRow milestones (item.scanned expected candidates) := by
  unfold Workflow.scanned
  split
  · exact h
  · exact h.moves ⟨⟨nofun, nofun⟩, id, rfl, rfl⟩
  · exact h.moves ⟨⟨nofun, nofun⟩, id, rfl, rfl⟩

/-- The recorded read-back of a reset. -/
theorem HonestRow.resetVerified (h : HonestRow milestones item) (reset : UsbResetOperation)
    (hreached : .resetVerified ∈ milestones) : HonestRow milestones (item.resetVerified reset) where
  ready _ := hreached
  registered _ := hreached
  postReset _ := hreached
  provisioned hresult := h.provisioned hresult
  complete hstate := nomatch hstate

/-- A reconciliation: it has reached a verified reset, or only moves the row. -/
theorem HonestRow.reconcileReset (h : HonestRow milestones item) {expectedHardwareId : Text}
    {states : List SensorState} {device : Option DeviceRecord} {verified : Bool}
    (hcall : item.reconcileReset expectedHardwareId states device = .ok (item', verified)) :
    HonestRow (milestones ++ if verified then [.resetVerified] else []) item' := by
  unfold Workflow.reconcileReset at hcall
  split at hcall
  · cases hcall
  split at hcall
  · split at hcall
    · split at hcall
      · cases hcall
        apply HonestRow.append
        exact h.moves ⟨⟨nofun, nofun⟩, id, rfl, rfl⟩
      · cases hcall
    · split at hcall
      · cases hcall
      · cases hcall
        have hreached : Milestone.resetVerified ∈ milestones ++ [.resetVerified] := by simp
        exact {
          ready := fun _ => hreached
          registered := fun _ => hreached
          postReset := fun _ => hreached
          provisioned := fun hresult => (h.append _).provisioned hresult
          complete := fun hstate => nomatch hstate }
  · cases hcall

/-- A registration that is in order: its row has a verified reset. -/
theorem HonestRow.registration (h : HonestRow milestones item) {body : RegistrationRequest κ}
    {existing : Option ℕ} {activeHardware : Bool}
    (horder : item.state = .registrationDetailsRequired ∨ item.state = .recoverableError →
      item.result.postReset.isSome)
    (hcall : item.registration body existing activeHardware = .ok item') :
    HonestRow milestones item' := by
  unfold Workflow.registration at hcall
  split at hcall
  · cases hcall
  rename_i hstate
  have hreached : .resetVerified ∈ milestones := by
    simp only [List.mem_cons, List.not_mem_nil, or_false, not_not] at hstate
    cases hstate with
    | inl hready => exact h.ready hready
    | inr hother => exact h.postReset (horder hother)
  split at hcall
  · cases hcall
  cases hcall
  exact {
    ready := fun hstate => nomatch hstate
    registered := fun _ => hreached
    postReset := fun hresult => h.postReset hresult
    provisioned := fun hresult => h.provisioned hresult
    complete := fun hstate => nomatch hstate }

/-- A network verification that is in order: where it would complete, the sensor is provisioned. -/
theorem HonestRow.verifyNetwork (h : HonestRow milestones item) {device : Option DeviceRecord}
    {reading : Bool}
    (horder : (device.any fun device => item.isTarget device && device.connected) && reading →
      item.result.sensorProvisioned)
    (hcall : item.verifyNetwork device reading = .ok item') : HonestRow milestones item' := by
  unfold Workflow.verifyNetwork at hcall
  cases hdevice : device.filter item.isTarget with
  | none => rw [hdevice] at hcall; cases hcall
  | some target =>
    rw [hdevice] at hcall
    obtain ⟨hdevice, htarget⟩ := Option.filter_eq_some_iff.mp hdevice
    cases hcall
    split
    · rename_i hverified
      rw [Bool.and_eq_true] at hverified
      have hprovisioned := horder (by simp [hdevice, htarget, hverified.1, hverified.2])
      exact {
        ready := fun hstate => nomatch hstate
        registered := fun hconfiguration => h.registered hconfiguration
        postReset := fun hresult => h.postReset hresult
        provisioned := fun hresult => h.provisioned hresult
        complete := fun _ => h.provisioned hprovisioned }
    · exact h.moves ⟨⟨nofun, nofun⟩, id, rfl, rfl⟩

/-- What comes after the `await` of a provisioning whose reset was verified. -/
theorem HonestRow.provisionRest (hitem : HonestRow milestones item)
    (hrow : HonestRow milestones row) (hverified : .resetVerified ∈ milestones)
    (outcome : ProvisionerOutcome) (registration : RegistrationOutcome) :
    HonestRow (milestones ++ if item.readsBack outcome then [.provisioned] else [])
      (item.provisionRest row outcome registration) := by
  have hfailed (reached : List Milestone) (message : Text) :
      HonestRow (milestones ++ reached) (row.provisionFailed message) :=
    (hrow.append reached).moves (moves_provisionFailed message)
  cases outcome with
  | raises => exact hrow.append _
  | refused message => exact hfailed _ message
  | readback nodeId duplicate =>
    unfold Workflow.provisionRest
    dsimp only
    by_cases hid : nodeId ≠ item.targetDeviceId
    · rw [if_pos hid]
      exact hfailed _ _
    by_cases hduplicate : (!item.result.sensorProvisioned && duplicate.isSome) = true
    · rw [if_neg hid, if_pos hduplicate]
      exact hfailed _ _
    rw [if_neg hid, if_neg hduplicate]
    have hreads : item.readsBack (.readback nodeId duplicate) = true := by
      rw [not_not] at hid
      simp only [Workflow.readsBack, hid, decide_true, Bool.true_and]
      cases hprovisioned : item.result.sensorProvisioned with
      | true => rfl
      | false =>
        rw [hprovisioned] at hduplicate
        simpa using hduplicate
    rw [if_pos hreads]
    have hreached : ResetThenProvisioned (milestones ++ [.provisioned]) :=
      (List.singleton_sublist.mpr hverified).append (List.Sublist.refl [Milestone.provisioned])
    have hprovisioned : HonestRow (milestones ++ [.provisioned]) item.provisioned := {
      ready := fun hstate => nomatch hstate
      registered := fun hconfiguration => (hitem.append _).registered hconfiguration
      postReset := fun hresult => (hitem.append _).postReset hresult
      provisioned := fun _ => hreached
      complete := fun hstate => nomatch hstate }
    have hflushed := hprovisioned.flush item (hrow.append [.provisioned])
    cases registration with
    | raises => exact hflushed
    | refused message => exact hflushed.moves (moves_provisionFailed message)
    | registered recordId =>
      refine HonestRow.flush _ ?_ hflushed
      exact hprovisioned.moves ⟨⟨nofun, nofun⟩, id, rfl, rfl⟩

/-! ## What holds of all rows and copies -/

/-- The copy a call goes on with is true to its operation, and a provisioning has begun after a
verified reset. -/
def HonestTask (operations : List (WorkflowOperation κ)) : WorkflowTask κ → Prop
  | .monitoring .. => True
  | .cleaning id _ item => ∃ o, operations[id]? = some o ∧ HonestRow o.milestones item
  | .scanning id item => ∃ o, operations[id]? = some o ∧ HonestRow o.milestones item
  | .selecting id _ item => ∃ o, operations[id]? = some o ∧ HonestRow o.milestones item
  | .provisioning id item => ∃ o, operations[id]? = some o ∧ HonestRow o.milestones item ∧
      .resetVerified ∈ o.milestones
  | .done => True

/-- Operations are not lost, and what they have reached stays. -/
def Grows (operations operations' : List (WorkflowOperation κ)) : Prop :=
  ∀ (id : ℕ) (o : WorkflowOperation κ), operations[id]? = some o →
    ∃ o' : WorkflowOperation κ, operations'[id]? = some o' ∧
      ∃ reached, o'.milestones = o.milestones ++ reached

/-- Copies stay honest as operations go on. -/
theorem HonestTask.grows {operations operations' : List (WorkflowOperation κ)}
    (hgrows : Grows operations operations') {t : WorkflowTask κ} (h : HonestTask operations t) :
    HonestTask operations' t := by
  have hcopy {id : ℕ} {item : Workflow κ}
      (h : ∃ o, operations[id]? = some o ∧ HonestRow o.milestones item) :
      ∃ o, operations'[id]? = some o ∧ HonestRow o.milestones item := by
    obtain ⟨o, ho, hitem⟩ := h
    obtain ⟨o', ho', reached, hmilestones⟩ := hgrows id o ho
    exact ⟨o', ho', hmilestones ▸ hitem.append reached⟩
  cases t with
  | monitoring => trivial
  | cleaning => exact hcopy h
  | scanning => exact hcopy h
  | selecting => exact hcopy h
  | provisioning id item =>
    obtain ⟨o, ho, hitem, hverified⟩ := h
    obtain ⟨o', ho', reached, hmilestones⟩ := hgrows id o ho
    exact ⟨o', ho', hmilestones ▸ hitem.append reached,
      hmilestones ▸ List.mem_append_left _ hverified⟩
  | done => trivial

/-- Every row and every copy is true to its operation. -/
structure HonestState (s : ResetReregister κ) : Prop where
  row : ∀ (id : ℕ) (o : WorkflowOperation κ), s.operations[id]? = some o → HonestRow o.milestones o.item
  task : ∀ t ∈ s.tasks, HonestTask s.operations t

variable {s : ResetReregister κ} {id : ℕ} {o : WorkflowOperation κ}

/-- The row of an operation after a commit. -/
theorem getElem?_commit (ho : s.operations[id]? = some o) (item : Workflow κ)
    (reached : List Milestone) (i : ℕ) : (s.commit id item reached).operations[i]? =
      if id = i then some ⟨item, o.milestones ++ reached⟩ else s.operations[i]? := by
  unfold ResetReregister.commit
  rw [List.getElem?_modify]
  split
  · subst i
    rw [ho]
    rfl
  · cases s.operations[i]? with
    | none => rfl
    | some => rfl

/-- A commit of a row that is honest about what its operation has reached by then. -/
theorem HonestState.commit (h : HonestState s) (ho : s.operations[id]? = some o)
    (hitem : HonestRow (o.milestones ++ reached) item) : HonestState (s.commit id item reached) := by
  have hgrows : Grows s.operations (s.commit id item reached).operations := by
    intro i o' ho'
    rw [getElem?_commit ho]
    by_cases hi : id = i
    · subst i
      rw [ho] at ho'
      cases ho'
      exact ⟨_, if_pos rfl, reached, rfl⟩
    · exact ⟨o', by rw [if_neg hi, ho'], [], (List.append_nil _).symm⟩
  refine ⟨fun i o' ho' => ?_, fun t ht => (h.task t ht).grows hgrows⟩
  rw [getElem?_commit ho] at ho'
  split at ho'
  · cases ho'
    exact hitem
  · exact h.row i o' ho'

/-- A commit of a row with which nothing more is reached. -/
theorem HonestState.commitSame (h : HonestState s) (ho : s.operations[id]? = some o)
    (hitem : HonestRow o.milestones item) : HonestState (s.commit id item []) := by
  refine h.commit ho ?_
  rw [List.append_nil]
  exact hitem

theorem HonestState.startTask (h : HonestState s) {t : WorkflowTask κ}
    (ht : HonestTask s.operations t) : HonestState (s.startTask t) := by
  refine ⟨h.row, fun t' ht' => ?_⟩
  cases List.mem_append.mp ht' with
  | inl hold => exact h.task t' hold
  | inr hnew =>
    rw [List.mem_singleton.mp hnew]
    exact ht

theorem HonestState.setTask (h : HonestState s) (task : ℕ) {t : WorkflowTask κ}
    (ht : HonestTask s.operations t) : HonestState (s.setTask task t) := by
  refine ⟨h.row, fun t' ht' => ?_⟩
  cases List.mem_or_eq_of_mem_set ht' with
  | inl hold => exact h.task t' hold
  | inr hnew =>
    rw [hnew]
    exact ht

/-- What has nothing to do with rows and copies. -/
theorem HonestState.congr {s' : ResetReregister κ} (h : HonestState s)
    (hoperations : s'.operations = s.operations) (htasks : s'.tasks = s.tasks) : HonestState s' :=
  ⟨hoperations ▸ h.row, htasks ▸ hoperations ▸ h.task⟩

/-- A call that keeps its row honest. -/
theorem HonestState.update (h : HonestState s)
    {call : Workflow κ → Except WorkflowError (Workflow κ)}
    (hcall : ∀ o item, s.operations[id]? = some o → call o.item = .ok item →
      HonestRow o.milestones o.item → HonestRow o.milestones item) :
    HonestState (s.update id call) := by
  unfold ResetReregister.update
  cases ho : s.operations[id]? with
  | none => exact h
  | some o =>
    dsimp only
    cases hitem : call o.item with
    | error => exact h
    | ok item =>
      exact h.commitSame ho (hcall o item ho hitem (h.row id o ho))

/-! ## One event -/

/-- The two calls that have to keep to the order: a registration from the error state or from
reopened details finds the read-back of the reset recorded, and a network verification that finds
its target active, connected and reporting finds the read-back of the provisioning recorded. -/
def InOrder (s : ResetReregister κ) : ReregisterEvent κ → Prop
  | .registration id _ _ _ => ∀ o ∈ s.operations[id]?,
      o.item.state = .registrationDetailsRequired ∨ o.item.state = .recoverableError →
        o.item.result.postReset.isSome
  | .verifyNetwork id device reading => ∀ o ∈ s.operations[id]?,
      (device.any fun device => o.item.isTarget device && device.connected) && reading →
        o.item.result.sensorProvisioned
  | _ => True

theorem HonestState.start (h : HonestState s) (device : Option DeviceRecord) :
    HonestState (s.start device) := by
  unfold ResetReregister.start
  cases device with
  | none => exact h
  | some device =>
    dsimp only
    split
    · exact h
    refine ⟨fun id o ho => ?_, fun t ht => (h.task t ht).grows fun id o ho => ?_⟩
    · rcases lt_or_ge id s.operations.length with hid | hid
      · rw [List.getElem?_append_left hid] at ho
        exact h.row id o ho
      · rw [List.getElem?_append_right hid] at ho
        rw [List.getElem?_singleton] at ho
        split at ho
        · cases ho
          exact ⟨nofun, nofun, nofun, nofun, nofun⟩
        · cases ho
    · obtain ⟨hid, -⟩ := List.getElem?_eq_some_iff.mp ho
      exact ⟨o, by rw [List.getElem?_append_left hid, ho], [], (List.append_nil _).symm⟩

theorem HonestState.prepareReset (h : HonestState s) (id : ℕ) (body : ConfirmReset)
    (reading : Except Text SensorState) (now : ℕ) :
    HonestState (s.prepareReset id body reading now) := by
  unfold ResetReregister.prepareReset
  cases ho : s.operations[id]? with
  | none => exact h.congr rfl rfl
  | some o =>
    dsimp only
    split
    · exact h.congr rfl rfl
    · rename_i hcall
      exact HonestState.commitSame (h.congr rfl rfl) ho
        ((h.row id o ho).moves (moves_prepareReset hcall))

theorem HonestState.executeReset (h : HonestState s) (id : ℕ) (body : ConfirmReset) (now : ℕ) :
    HonestState (s.executeReset id body now) := by
  unfold ResetReregister.executeReset ResetReregister.popToken
  dsimp only
  cases ho : s.operations[id]? with
  | none => exact h.congr rfl rfl
  | some o =>
    dsimp only
    split
    · exact h.congr rfl rfl
    · rename_i hcall
      refine HonestState.startTask ?_ (by trivial)
      exact HonestState.commitSame (h.congr rfl rfl) ho
        ((h.row id o ho).moves (moves_executeReset hcall))

theorem HonestState.cancelReset (h : HonestState s) (id : ℕ) (body : ConfirmReset) :
    HonestState (s.cancelReset id body) := by
  unfold ResetReregister.cancelReset ResetReregister.popToken
  dsimp only
  cases ho : s.operations[id]? with
  | none => exact h.congr rfl rfl
  | some o =>
    dsimp only
    split
    · exact h.congr rfl rfl
    · rename_i hcall
      exact HonestState.commitSame (h.congr rfl rfl) ho
        ((h.row id o ho).moves (moves_cancelReset hcall))

theorem HonestState.reconcileReset (h : HonestState s) (id : ℕ) (expectedHardwareId : Text)
    (readings : List (Except Text SensorState)) (device : Option DeviceRecord) :
    HonestState (s.reconcileReset id expectedHardwareId readings device) := by
  unfold ResetReregister.reconcileReset
  cases ho : s.operations[id]? with
  | none => exact h
  | some o =>
    dsimp only
    split
    · exact h
    · rename_i hcall
      exact h.commit ho ((h.row id o ho).reconcileReset hcall)

theorem HonestState.scanBle (h : HonestState s) (id : ℕ) : HonestState (s.scanBle id) := by
  unfold ResetReregister.scanBle
  cases ho : s.operations[id]? with
  | none => exact h
  | some o => exact h.startTask ⟨o, ho, h.row id o ho⟩

variable (derive : Text → Except Onboarding.OnboardingIdentityError Text)

theorem HonestState.selectBle (h : HonestState s) (id : ℕ) (address : Text) (compatible : Bool) :
    HonestState (s.selectBle derive id address compatible) := by
  unfold ResetReregister.selectBle
  cases ho : s.operations[id]? with
  | none => exact h
  | some o =>
    dsimp only
    split
    · exact h
    split
    · exact h.startTask ⟨o, ho, h.row id o ho⟩
    · exact h

/-- A provisioning begins with a configuration, and so after a verified reset. -/
theorem HonestState.provision (h : HonestState s) (id : ℕ) :
    HonestState (s.provision derive id) := by
  unfold ResetReregister.provision
  cases ho : s.operations[id]? with
  | none => exact h
  | some o =>
    have hrow := h.row id o ho
    dsimp only
    split
    · exact h.commitSame ho (hrow.moves (moves_provisionFailed _))
    rename_i hprovisionable
    have hverified : .resetVerified ∈ o.milestones := by
      apply hrow.registered
      simp only [Workflow.provisionable, Bool.not_eq_true', Bool.not_eq_false,
        Bool.and_eq_true] at hprovisionable
      exact hprovisionable.2
    have hprovisioning : HonestRow o.milestones o.item.provisioning :=
      hrow.moves moves_provisioning
    have hcommitted : HonestState (s.commit id o.item.provisioning []) := by
      exact h.commitSame ho hprovisioning
    have hbegun : HonestState ((s.commit id o.item.provisioning []).startTask
        (.provisioning id o.item.provisioning)) := by
      refine hcommitted.startTask ⟨⟨o.item.provisioning, o.milestones ++ []⟩, ?_, ?_⟩
      · rw [getElem?_commit ho, if_pos rfl]
      · rw [List.append_nil]
        exact ⟨hprovisioning, hverified⟩
    split
    · exact hbegun
    split
    · exact hbegun
    · exact hcommitted

theorem HonestState.monitorLooks (h : HonestState s) (task : ℕ) (removal : Option Text) :
    HonestState (s.monitorLooks task removal) := by
  unfold ResetReregister.monitorLooks
  split
  case h_2 => exact h
  split
  case h_2 => exact h
  rename_i id reset reported _ _ _ o usbReset ho _
  have hcommit {item : Workflow κ} (hmoves : Moves o.item item) :
      HonestState (s.commit id item []) := by
    exact h.commitSame ho ((h.row id o ho).moves hmoves)
  split
  · split
    · exact h
    · exact (hcommit (moves_monitored usbReset)).setTask task trivial
  split
  · exact (hcommit (moves_resetFailed usbReset)).setTask task trivial
  split
  · refine HonestState.setTask ?_ task trivial
    exact h.commitSame ho (((h.row id o ho).moves moves_verifying).moves (moves_cleanupFailed _))
  · refine (hcommit moves_verifying).setTask task ⟨⟨o.item.verifying, o.milestones ++ []⟩, ?_, ?_⟩
    · rw [getElem?_commit ho, if_pos rfl]
    · rw [List.append_nil]
      exact (h.row id o ho).moves moves_verifying

theorem HonestState.connectionRemoved (h : HonestState s) (task : ℕ) (raised : Option Text) :
    HonestState (s.connectionRemoved task raised) := by
  unfold ResetReregister.connectionRemoved
  split
  case h_2 => exact h
  rename_i id reset item htask
  split
  case h_2 => exact h
  rename_i o usbReset ho _
  obtain ⟨o', ho', hitem⟩ := h.task _ (List.mem_of_getElem? htask)
  rw [ho] at ho'
  cases ho'
  split
  · refine HonestState.setTask (h.commitSame ho ?_) task trivial
    exact (hitem.moves (moves_cleanupFailed _)).flush item (h.row id o ho)
  · refine HonestState.setTask (h.commit ho ?_) task trivial
    exact ((hitem.append _).resetVerified usbReset (by simp)).flush item ((h.row id o ho).append _)

theorem HonestState.scanEnds (h : HonestState s) (task : ℕ) (candidates : List BleCandidate) :
    HonestState (s.scanEnds derive task candidates) := by
  unfold ResetReregister.scanEnds
  split
  case h_2 => exact h
  rename_i id item htask
  split
  case h_2 => exact h.setTask task trivial
  rename_i o expected ho _
  obtain ⟨o', ho', hitem⟩ := h.task _ (List.mem_of_getElem? htask)
  rw [ho] at ho'
  cases ho'
  refine HonestState.setTask (h.commitSame ho ?_) task trivial
  exact (hitem.scanned expected candidates).flush item (h.row id o ho)

theorem HonestState.identityRead (h : HonestState s) (task : ℕ)
    (reading : Option OnboardingReading) : HonestState (s.identityRead derive task reading) := by
  unfold ResetReregister.identityRead
  split
  case h_2 => exact h
  rename_i id address item htask
  split
  case h_2 => exact h.setTask task trivial
  rename_i _ _ o expected reading ho _
  obtain ⟨o', ho', hitem⟩ := h.task _ (List.mem_of_getElem? htask)
  rw [ho] at ho'
  cases ho'
  split
  · exact h.setTask task trivial
  · rename_i hcall
    refine HonestState.setTask (h.commitSame ho ?_) task trivial
    exact (hitem.moves (moves_selected hcall)).flush item (h.row id o ho)

theorem HonestState.provisionerEnds (h : HonestState s) (task : ℕ) (outcome : ProvisionerOutcome)
    (registration : RegistrationOutcome) :
    HonestState (s.provisionerEnds task outcome registration) := by
  unfold ResetReregister.provisionerEnds
  split
  case h_2 => exact h
  rename_i id item htask
  split
  · exact h
  rename_i o ho
  obtain ⟨o', ho', hitem, hverified⟩ := h.task _ (List.mem_of_getElem? htask)
  rw [ho] at ho'
  cases ho'
  refine HonestState.setTask (h.commit ho ?_) task trivial
  exact hitem.provisionRest (h.row id o ho) hverified outcome registration

/-- **Every event that keeps to the order keeps every row and every copy honest.** -/
theorem HonestState.next (h : HonestState s) (e : ReregisterEvent κ) (horder : InOrder s e) :
    HonestState (s.next derive e) := by
  cases e with
  | start device => exact h.start device
  | selectUsb id body reading =>
    unfold ResetReregister.next
    apply h.update
    intro o item _ hcall hrow
    exact hrow.moves (moves_selectUsb hcall)
  | backup id reading =>
    unfold ResetReregister.next
    apply h.update
    intro o item _ hcall hrow
    exact hrow.moves (moves_backup hcall)
  | prepareReset id body reading now => exact h.prepareReset id body reading now
  | executeReset id body now => exact h.executeReset id body now
  | cancelReset id body => exact h.cancelReset id body
  | reconcileReset id expectedHardwareId readings device =>
    exact h.reconcileReset id expectedHardwareId readings device
  | registration id body existing activeHardware =>
    unfold ResetReregister.next
    apply h.update
    intro o item ho hcall hrow
    exact hrow.registration (horder o ho) hcall
  | editRegistration id =>
    unfold ResetReregister.next
    apply h.update
    intro o item _ hcall hrow
    exact hrow.moves (moves_editRegistration hcall)
  | scanBle id => exact h.scanBle id
  | selectBle id address compatible => exact h.selectBle derive id address compatible
  | provision id => exact h.provision derive id
  | verifyNetwork id device reading =>
    unfold ResetReregister.next
    apply h.update
    intro o item ho hcall hrow
    exact hrow.verifyNetwork (horder o ho) hcall
  | resetRuns reset exchange => exact h.congr rfl rfl
  | resetReadsBack reset reading => exact h.congr rfl rfl
  | monitorLooks task removal => exact h.monitorLooks task removal
  | connectionRemoved task raised => exact h.connectionRemoved task raised
  | scanEnds task candidates => exact h.scanEnds derive task candidates
  | identityRead task reading => exact h.identityRead derive task reading
  | provisionerEnds task outcome registration =>
    exact h.provisionerEnds task outcome registration

/-! ## Runs -/

/-- Every operation that is complete had its reset verified and its sensor provisioned after it. -/
def CompletesHonestly (s : ResetReregister κ) : Prop :=
  ∀ o ∈ s.operations, o.item.state = .complete → ResetThenProvisioned o.milestones

instance decidableCompletesHonestly (s : ResetReregister κ) : Decidable (CompletesHonestly s) :=
  inferInstanceAs (Decidable (∀ o ∈ s.operations, o.item.state = .complete →
    [Milestone.resetVerified, Milestone.provisioned].Sublist o.milestones))

instance decidableInOrder (s : ResetReregister κ) (e : ReregisterEvent κ) :
    Decidable (InOrder s e) := by
  cases e
  case registration id _ _ _ =>
    exact inferInstanceAs (Decidable (∀ o ∈ s.operations[id]?,
      o.item.state = .registrationDetailsRequired ∨ o.item.state = .recoverableError →
        o.item.result.postReset.isSome))
  case verifyNetwork id device reading =>
    exact inferInstanceAs (Decidable (∀ o ∈ s.operations[id]?,
      (device.any fun device => o.item.isTarget device && device.connected) && reading →
        o.item.result.sensorProvisioned))
  all_goals exact isTrue trivial

/-! ## Two runs -/

/-- A sensor of the gateway, and what it shows before it is provisioned. -/
def exampleRecord : DeviceRecord :=
  { recordId := 1, deviceId := "NODE-1".toList, displayName := "Pump".toList
    hardwareId := some "0x0123456789ABCDEF".toList, connected := true }

def exampleIdentity : Text → Except Onboarding.OnboardingIdentityError Text :=
  fun _ => .ok "7e6d1066299f5557d6bfee9bf6e454a8".toList

/-- The details of a registration that restores the sensor. -/
def exampleRegistration : RegistrationRequest Unit :=
  { choice := .restore, deviceId := "NODE-1".toList, displayName := "Pump".toList
    location := none, configuration := () }

/-- What the sensor tells over USB before and after its reset. -/
def exampleSensor (nodeId : Option Text) (identityStatus : Text) : SensorState :=
  { hardwareId := some "0x0123456789ABCDEF".toList, nodeId := nodeId
    identityStatus := some identityStatus, firmwareVersion := some "0.1.0-dev".toList }

def exampleConfirmation : ConfirmReset :=
  { port := "COM3".toList, expectedHardwareId := "0x0123456789ABCDEF".toList
    typedHardwareId := "0x0123456789ABCDEF".toList }

/-- A reset, a registration and a provisioning, up to the first telemetry. -/
def honestRun : List (ReregisterEvent Unit) :=
  let before := exampleSensor (some "NODE-1".toList) "ok".toList
  let after := exampleSensor none "unprovisioned".toList
  let challenge : PreparedReset :=
    ⟨some "0x0123456789ABCDEF".toList, some "op".toList, some "c".toList⟩
  let reading : OnboardingReading := ⟨true, some "7e6d1066299f5557d6bfee9bf6e454a8".toList⟩
  [.start (some exampleRecord),
    .selectUsb 0 exampleConfirmation.toUsbSelection (.ok before),
    .backup 0 (.ok before),
    .prepareReset 0 exampleConfirmation (.ok before) 0,
    .executeReset 0 exampleConfirmation 60,
    .resetRuns 0 ⟨true, .ok (some before), .ok (some challenge), .ok (some "op".toList)⟩,
    .monitorLooks 0 none,
    .resetReadsBack 0 (some after),
    .monitorLooks 0 none,
    .connectionRemoved 0 none,
    .registration 0 exampleRegistration (some 1) false,
    .scanBle 0,
    .scanEnds 1 [⟨"AA:BB".toList, true, some reading⟩],
    .provision 0,
    .provisionerEnds 2 (.readback (some "NODE-1".toList) none) (.registered 1),
    .verifyNetwork 0 (some exampleRecord) true]

end SeedMg24.Analysis
