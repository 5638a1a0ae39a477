import SeedMg24.Analysis.FactoryResetAtomicity

/-!
# The reset marker and the controller's state

With a backend whose operations may report failure, landed or not, the marker in storage and the
controller's `marker_active` flag agree after every operation except one kind of `confirm`: the one
whose marker write lands but is reported failed, or is not read back.
-/

set_option autoImplicit false

namespace SeedMg24.Analysis

open Foundation Model

/-- A C string: bytes that are not zero, one character each. -/
abbrev CString := { s : Text // ∀ c ∈ s, c ≠ '\x00' ∧ c.toNat < 256 }

/-! ## The marker record -/

/-- The bytes `write_marker` stores. -/
def markerRecord (operationId : Text) (stage : ResetStage) : List UInt8 :=
  let head := recordHead .storeMetadata 1 0 (markerPayload operationId stage)
  head ++ put32 (persistentCrc32 head) ++ markerPayload operationId stage

theorem length_markerPayload (operationId : Text) (stage : ResetStage) :
    (markerPayload operationId stage).length = 3 + operationId.length := by
  simp [markerPayload]
  omega

theorem encode_marker {operationId : Text} (h : operationId.length = 32) (stage : ResetStage) :
    encodePersistentRecord .storeMetadata 1 0 (markerPayload operationId stage)
      kPersistentMaxRecord = .ok (markerRecord operationId stage) := by
  rw [encode_eq_ok_iff, length_markerPayload, h]
  exact ⟨by decide, rfl⟩

/-- A written marker is read back as its operation and stage. -/
theorem parseMarker_record {operationId : CString} (h : operationId.val.length = 32)
    (stage : ResetStage) :
    parseMarker (markerRecord operationId.val stage) = .ok (operationId.val, stage) := by
  have hzero : '\x00' ∉ operationId.val := fun hmem => (operationId.property _ hmem).1 rfl
  have hid : (Text.ofBytes (((markerPayload operationId.val stage).drop 3).take 32)).cString =
      operationId.val := by
    have hdrop : (markerPayload operationId.val stage).drop 3 = operationId.val.toBytes := rfl
    rw [hdrop, List.take_of_length_le (by simp [h]),
      Text.ofBytes_toBytes fun c hc => (operationId.property c hc).2, Text.cString_eq_self hzero]
  have h0 : byteAt (markerPayload operationId.val stage) 0 = kMarkerVersion := rfl
  have h1 : byteAt (markerPayload operationId.val stage) 1 = stage.code := rfl
  have h2 : byteAt (markerPayload operationId.val stage) 2 = 32 := by
    have hbyte : byteAt (markerPayload operationId.val stage) 2 =
      UInt8.ofNat operationId.val.length := rfl
    rw [hbyte, h]
    rfl
  simp only [parseMarker, decode_encode (encode_marker h stage), hid, h0, h1, h2,
    length_markerPayload, h]
  cases stage <;> rfl

/-! ## Reported failures -/

section Steps

variable (nvm : Nvm) (key : UInt32) (data : List UInt8) (capacity : ℕ) (landed : Bool)
  (status : FailureStatus)

@[simp] theorem reporting_read_none :
    reporting.step nvm (.read key capacity) .none = (nvm.read key capacity, nvm) := rfl

@[simp] theorem reporting_read_failed :
    reporting.step nvm (.read key capacity) (.failed landed status) =
      (.error status.val, nvm) := by
  cases landed <;> rfl

@[simp] theorem reporting_write_none :
    reporting.step nvm (.write key data) .none = (.ok, nvm.put key (some data)) := rfl

@[simp] theorem reporting_write_failed :
    reporting.step nvm (.write key data) (.failed landed status) =
      (status.val, if landed then nvm.put key (some data) else nvm) := by
  cases landed <;> rfl

@[simp] theorem reporting_remove_none :
    reporting.step nvm (.remove key) .none = (.ok, nvm.put key none) := rfl

@[simp] theorem reporting_remove_failed :
    reporting.step nvm (.remove key) (.failed landed status) =
      (status.val, if landed then nvm.put key none else nvm) := by
  cases landed <;> rfl

end Steps

/-! ## One marker write -/

/-- The marker write survives its faults: it is refused without a trace, or it lands and is read
back. -/
def MarkerWriteSettled (ω : ℕ → ReportedFault) : Prop :=
  (∃ status, ω 0 = .failed false status) ∨ (ω 0 = .none ∧ ω 1 = .none)

/-- **What a marker write does.**  It returns `ok` exactly when both its calls work; otherwise it
leaves a marker unless it was refused without a trace. -/
theorem run_writeMarker (operationId : CString) (h : operationId.val.length = 32)
    (stage : ResetStage) (nvm : Nvm) (ω : ℕ → ReportedFault) :
    let after := (writeMarker operationId.val stage).run reporting nvm ω
    (after.value = .ok ↔ ω 0 = .none ∧ ω 1 = .none) ∧
      ((∃ status, ω 0 = .failed false status) → after.state = nvm) ∧
      ((¬ ∃ status, ω 0 = .failed false status) →
        after.state = nvm.put kResetTransactionMarker
          (some (markerRecord operationId.val stage))) := by
  have hlen : ¬ operationId.val.length ≠ 32 := not_not.mpr h
  have hfits : ¬ (markerRecord operationId.val stage).length > kPersistentMaxRecord :=
    not_lt.mpr (length_le_of_encode (encode_marker h stage))
  unfold writeMarker
  rw [if_neg hlen, encode_marker h]
  simp only [backendWrite, Program.perform_bind, Program.run_call]
  cases h0 : ω 0 with
  | none =>
    simp only [reporting_write_none, ne_eq, not_true_eq_false, if_false, readMarker, backendRead,
      Program.perform_bind, Program.call_bind, Program.run_call, Program.later_apply, Nat.zero_add]
    cases h1 : ω 1 with
    | none =>
      simp only [reporting_read_none, Nvm.read, Nvm.put_same, if_neg hfits]
      simp [parseMarker_record h]
    | failed landed status => simp
  | failed landed status =>
    have hne := status.property.1
    cases landed <;> simp [hne]

/-! ## Runs of the controller -/

/-- The storage and the controller over it. -/
structure ControllerState where
  nvm : Nvm
  controller : FactoryResetController

/-- A reboot, which starts with recovery on a fresh controller, or a call on the controller. -/
inductive ControllerStep where
  | reboot (faults : ℕ → ReportedFault)
  | prepare (scope : ResetScope) (hardwareId expectedHardwareId : Text) (operationId : CString)
      (challenge : Text) (now ttl : UInt32)
  | confirm (scope : ResetScope) (expectedHardwareId operationId challenge : Text) (now : UInt32)
      (faults : ℕ → ReportedFault)
  | cancel
  | recoverOnBoot (faults : ℕ → ReportedFault)
  | completeRecoveryOnBoot (ready : Bool) (faults : ℕ → ReportedFault)

/-- Recovery on boot of a controller, over a storage. -/
def recovered (nvm : Nvm) (c : FactoryResetController) (faults : ℕ → ReportedFault) :
    ControllerState :=
  let after := c.recoverOnBoot.run reporting nvm faults
  ⟨after.state, after.value.2.2⟩

/-- The state after one step. -/
def ControllerStep.after (s : ControllerState) : ControllerStep → ControllerState
  | .reboot faults => recovered s.nvm {} faults
  | .prepare scope hardwareId expectedHardwareId operationId challenge now ttl =>
    ⟨s.nvm, (s.controller.prepare scope hardwareId expectedHardwareId operationId.val challenge now
      ttl).2⟩
  | .confirm scope expectedHardwareId operationId challenge now faults =>
    let after := (s.controller.confirm scope expectedHardwareId operationId challenge now).run
      reporting s.nvm faults
    ⟨after.state, after.value.2⟩
  | .cancel => ⟨s.nvm, s.controller.cancel⟩
  | .recoverOnBoot faults => recovered s.nvm s.controller faults
  | .completeRecoveryOnBoot ready faults =>
    let after := (s.controller.completeRecoveryOnBoot ready).run reporting s.nvm faults
    ⟨after.state, after.value.2⟩

/-- The state after a boot over any storage and the steps that follow it. -/
def controllerAfter (nvm : Nvm) (boot : ℕ → ReportedFault) (steps : List ControllerStep) :
    ControllerState :=
  steps.foldl ControllerStep.after (recovered nvm {} boot)

/-- A stored marker is known to the controller; and an idle controller leaves nothing in storage
that makes a later boot on a working backend change it. -/
structure MarkerAgrees (s : ControllerState) : Prop where
  active : s.nvm kResetTransactionMarker ≠ none → s.controller.markerActive = true
  nothingLeft : s.controller.markerActive = false →
    (FactoryResetController.recoverOnBoot {}).run healthy s.nvm (fun _ => ()) =
      ⟨(.ok, false, {}), s.nvm, fun _ => ()⟩

/-- A confirmation passes its checks and starts a factory reset. -/
def ConfirmPasses (c : FactoryResetController) (scope : ResetScope)
    (expectedHardwareId operationId challenge : Text) (now : UInt32) : Prop :=
  scope = .applicationFactory ∧ c.challenge.pending = true ∧
    FactoryResetController.confirmable c.challenge scope expectedHardwareId operationId challenge
      now = true

/-- A confirmation that starts a factory reset on an idle controller, and whose marker write lands
but is reported failed or is not read back. -/
def LosesMarker (s : ControllerState) : ControllerStep → Prop
  | .confirm scope expectedHardwareId operationId challenge now faults =>
    ConfirmPasses s.controller scope expectedHardwareId operationId challenge now ∧
      s.controller.markerActive = false ∧ ¬ MarkerWriteSettled faults
  | _ => False

/-! ## One step -/

/-- A pending challenge has an operation id of 32 characters. -/
def ChallengeWellFormed (c : FactoryResetController) : Prop :=
  c.challenge.pending = true → ∃ id : CString, c.challenge.operationId = id.val ∧ id.val.length = 32

/-- An operation only touches its own key. -/
theorem reporting_frame (nvm : Nvm) {key other : UInt32} (h : other ≠ key) (f : ReportedFault) :
    (∀ data, (reporting.step nvm (.write key data) f).2 other = nvm other) ∧
      (reporting.step nvm (.remove key) f).2 other = nvm other := by
  cases f with
  | none => exact ⟨fun data => Nvm.put_of_ne h, Nvm.put_of_ne h⟩
  | failed landed status =>
    cases landed with
    | false => exact ⟨fun _ => rfl, rfl⟩
    | true => exact ⟨fun data => Nvm.put_of_ne h, Nvm.put_of_ne h⟩

theorem reporting_read_state (nvm : Nvm) (key : UInt32) (capacity : ℕ) (f : ReportedFault) :
    (reporting.step nvm (.read key capacity) f).2 = nvm := by
  cases f <;> simp

/-- Erasing keys does not touch the marker. -/
theorem run_eraseKeys_marker {keys : List UInt32} (h : kResetTransactionMarker ∉ keys)
    (result : ResetResult) (nvm : Nvm) (ω : ℕ → ReportedFault) :
    ((eraseKeys keys result).run reporting nvm ω).state kResetTransactionMarker =
      nvm kResetTransactionMarker := by
  induction keys generalizing nvm result ω with
  | nil => rfl
  | cons key keys ih =>
    simp only [List.mem_cons, not_or] at h
    have hremove := (reporting_frame nvm h.1 (ω 0)).2
    unfold eraseKeys
    simp only [backendRemove, backendRead, Program.perform_bind, Program.run_call]
    split <;> rw [ih h.2, reporting_read_state, hremove]

section Confirm

variable (c : FactoryResetController) (scope : ResetScope)
  (expectedHardwareId operationId challenge : Text) (now : UInt32) (nvm : Nvm)
  (ω : ℕ → ReportedFault)

/-- A confirmation that starts no factory reset leaves the marker and the flag. -/
theorem confirm_without_reset
    (h : ¬ ConfirmPasses c scope expectedHardwareId operationId challenge now) :
    let after := (c.confirm scope expectedHardwareId operationId challenge now).run reporting nvm ω
    after.state kResetTransactionMarker = nvm kResetTransactionMarker ∧
      after.value.2.markerActive = c.markerActive := by
  unfold FactoryResetController.confirm
  cases hpending : c.challenge.pending with
  | false => exact ⟨rfl, rfl⟩
  | true =>
    cases hconfirmable : FactoryResetController.confirmable c.challenge scope expectedHardwareId
        operationId challenge now with
    | false =>
      simp only [hconfirmable]
      exact ⟨rfl, rfl⟩
    | true =>
      cases scope with
      | configurationOnly =>
        simp only [hconfirmable, Bool.not_true, Bool.false_eq_true, if_false, Program.run_bind]
        exact ⟨run_eraseKeys_marker (by decide) _ nvm ω, rfl⟩
      | applicationFactory => exact absurd ⟨rfl, hpending, hconfirmable⟩ h

/-- **A started factory reset and the marker.**  If its marker write returns `ok` the flag is set;
otherwise the flag and the storage are what the marker write left. -/
theorem confirm_with_reset
    (h : ConfirmPasses c scope expectedHardwareId operationId challenge now) :
    let after := (c.confirm scope expectedHardwareId operationId challenge now).run reporting nvm ω
    let wrote := (writeMarker operationId .markerWritten).run reporting nvm ω
    (wrote.value = .ok → after.value.2.markerActive = true) ∧
      (wrote.value ≠ .ok → after.state = wrote.state ∧
        after.value.2.markerActive = c.markerActive) := by
  obtain ⟨rfl, hpending, hconfirmable⟩ := h
  unfold FactoryResetController.confirm
  simp only [hpending, hconfirmable, Bool.not_true, Bool.false_eq_true, if_false]
  rw [Program.run_bind]
  generalize (writeMarker operationId .markerWritten).run reporting nvm ω = wrote
  constructor
  · intro hok
    rw [if_neg (not_not.mpr hok), Program.run_bind]
    split
    · rfl
    · rw [Program.run_bind]
      rfl
  · intro hne
    rw [if_pos hne]
    exact ⟨rfl, rfl⟩

/-- A confirmation consumes its challenge. -/
theorem confirm_wellFormed (hwf : ChallengeWellFormed c) :
    ChallengeWellFormed ((c.confirm scope expectedHardwareId operationId challenge now).run reporting
      nvm ω).value.2 := by
  unfold FactoryResetController.confirm
  cases hpending : c.challenge.pending with
  | false => exact hwf
  | true =>
    simp only [Bool.not_true, Bool.false_eq_true, if_false]
    split
    · exact fun h => by cases h
    split
    · rw [Program.run_bind]
      exact fun h => by cases h
    · rw [Program.run_bind]
      split
      · exact fun h => by cases h
      rw [Program.run_bind]
      split
      · exact fun h => by cases h
      rw [Program.run_bind]
      exact fun h => by cases h

end Confirm

section Recovery

variable {nvm : Nvm}

/-- No cut is of interest in this file. -/
abbrev Anything : Nvm → Prop := fun _ => True

theorem reporting_readMarker :
    Ensures reporting Anything readMarker nvm fun marker t =>
      t = nvm ∧ (marker = .error .notFound → nvm kResetTransactionMarker = none) := by
  unfold readMarker
  refine Ensures.perform True.intro fun f => ?_
  cases f with
  | none =>
    simp only [reporting_read_none, Nvm.read]
    cases hkey : nvm kResetTransactionMarker with
    | none => exact Ensures.done True.intro ⟨rfl, fun _ => rfl⟩
    | some data =>
      by_cases hlen : data.length > kPersistentMaxRecord
      · simp only [if_pos hlen]
        exact Ensures.done True.intro ⟨rfl, fun h => by cases h⟩
      · simp only [if_neg hlen]
        exact Ensures.done True.intro ⟨rfl, fun h => absurd rfl (parseMarker_error h)⟩
  | failed landed status =>
    have hne := status.property.2
    simp only [reporting_read_failed]
    refine Ensures.done True.intro ⟨rfl, fun h => ?_⟩
    exact absurd (Except.error.inj h) hne

theorem reporting_keysAbsent {keys : List UInt32} :
    Ensures reporting Anything (keysAbsent keys) nvm fun _ t => t = nvm := by
  induction keys with
  | nil =>
    unfold keysAbsent
    exact Ensures.done True.intro rfl
  | cons key keys ih =>
    unfold keysAbsent
    refine Ensures.perform True.intro fun f => ?_
    rw [reporting_read_state]
    split
    · exact ih
    · exact Ensures.done True.intro rfl

/-- A marker reported cleared is gone. -/
theorem reporting_clearMarker :
    Ensures reporting Anything clearMarker nvm fun status t =>
      status = .ok → t kResetTransactionMarker = none := by
  unfold clearMarker
  refine Ensures.perform True.intro fun f => ?_
  cases f with
  | none =>
    simp only [reporting_remove_none, ne_eq, not_true_eq_false, if_false]
    refine Ensures.perform True.intro fun f => ?_
    rw [reporting_read_state]
    split <;> exact Ensures.done True.intro fun _ => by simp
  | failed landed status =>
    have hne := status.property.1
    simp only [reporting_remove_failed]
    rw [if_pos hne]
    exact Ensures.done True.intro fun h => absurd h hne

/-- **Recovery on boot** keeps the challenge, and makes the controller idle only when the storage
holds no marker. -/
theorem reporting_recoverOnBoot (nvm : Nvm) (c : FactoryResetController) :
    Ensures reporting Anything c.recoverOnBoot nvm fun r t =>
      r.2.2.challenge = c.challenge ∧
        (r.2.2.markerActive = false → t kResetTransactionMarker = none) := by
  unfold FactoryResetController.recoverOnBoot
  refine Ensures.seq reporting_readMarker fun marker t ht => ?_
  obtain ⟨rfl, hnone⟩ := ht
  -- every other exit leaves the flag set
  have hactive : ∀ (t : Nvm) (s : StoreStatus) (pending : Bool),
      Ensures reporting Anything
        (Program.done (s, pending, { c with markerActive := true })) t fun r t =>
          r.2.2.challenge = c.challenge ∧
            (r.2.2.markerActive = false → t kResetTransactionMarker = none) :=
    fun t s pending => Ensures.done True.intro ⟨rfl, by simp⟩
  split
  · exact Ensures.done True.intro ⟨rfl, fun _ => hnone rfl⟩
  dsimp only
  split
  · exact hactive _ _ _
  refine Ensures.seq (Ensures.trivial _ _) fun absent t _ => ?_
  split
  · exact hactive _ _ _
  refine Ensures.seq (Ensures.trivial _ _) fun s t _ => ?_
  split
  · exact hactive _ _ _
  refine Ensures.seq (Ensures.trivial _ _) fun absent t _ => ?_
  split
  · exact hactive _ _ _
  split
  · exact hactive _ _ _
  refine Ensures.seq (Ensures.trivial _ _) fun s t _ => ?_
  split <;> exact hactive _ _ _

/-- **Completing a recovery** keeps the challenge, and makes the controller idle only after the
marker is gone. -/
theorem reporting_completeRecoveryOnBoot (nvm : Nvm) (c : FactoryResetController)
    (ready : Bool) :
    Ensures reporting Anything (c.completeRecoveryOnBoot ready) nvm fun r t =>
      r.2.challenge = c.challenge ∧ (r.2.markerActive = false →
        (c.markerActive = false ∧ t = nvm) ∨ t kResetTransactionMarker = none) := by
  unfold FactoryResetController.completeRecoveryOnBoot
  split
  · exact Ensures.done True.intro ⟨rfl, fun h => Or.inl ⟨h, rfl⟩⟩
  refine Ensures.seq reporting_keysAbsent ?_
  rintro absent t rfl
  split
  · exact Ensures.done True.intro ⟨rfl, fun h => Or.inl ⟨h, rfl⟩⟩
  refine Ensures.seq reporting_clearMarker fun status t hclear => ?_
  have hactive : c.markerActive = true := by
    by_contra hc
    simp_all
  refine Ensures.done True.intro ?_
  dsimp only
  split
  · exact ⟨rfl, fun _ => Or.inr (hclear ‹_›)⟩
  · exact ⟨rfl, fun h => by simp [hactive] at h⟩

end Recovery

/-! ## Runs -/

/-- The invariant of the runs that lose no marker. -/
structure ControllerInvariant (s : ControllerState) : Prop where
  wellFormed : ChallengeWellFormed s.controller
  agrees : s.nvm kResetTransactionMarker ≠ none → s.controller.markerActive = true

/-- Recovery on boot establishes the invariant. -/
theorem controllerInvariant_recovered (nvm : Nvm) {c : FactoryResetController}
    (hwf : ChallengeWellFormed c) (ω : ℕ → ReportedFault) :
    ControllerInvariant (recovered nvm c ω) := by
  obtain ⟨hchallenge, hidle⟩ := (reporting_recoverOnBoot nvm c ω).1
  refine ⟨?_, fun hmarker => ?_⟩
  · unfold ChallengeWellFormed recovered
    dsimp only
    rw [hchallenge]
    exact hwf
  · by_contra hactive
    exact hmarker (hidle (by simpa [recovered] using hactive))

/-- **One step.**  It keeps the challenge well-formed; the marker and the flag agree after it if
and only if it loses no marker. -/
theorem ControllerInvariant.step {s : ControllerState} (h : ControllerInvariant s)
    (step : ControllerStep) :
    ChallengeWellFormed (step.after s).controller ∧
      (((step.after s).nvm kResetTransactionMarker ≠ none →
        (step.after s).controller.markerActive = true) ↔ ¬ LosesMarker s step) := by
  cases step with
  | reboot faults =>
    have hfresh := controllerInvariant_recovered s.nvm (c := {}) (fun h => by cases h) faults
    exact ⟨hfresh.wellFormed, fun _ h => h, fun _ => hfresh.agrees⟩
  | recoverOnBoot faults =>
    have hnew := controllerInvariant_recovered s.nvm h.wellFormed faults
    exact ⟨hnew.wellFormed, fun _ h => h, fun _ => hnew.agrees⟩
  | cancel => exact ⟨fun hpending => (by cases hpending), fun _ hlost => hlost, fun _ => h.agrees⟩
  | prepare scope hardwareId expectedHardwareId operationId challenge now ttl =>
    simp only [ControllerStep.after, FactoryResetController.prepare]
    split
    · exact ⟨h.wellFormed, fun _ h => h, fun _ => h.agrees⟩
    · rename_i hchecks
      simp only [not_or, not_not] at hchecks
      exact ⟨fun _ => ⟨operationId, rfl, hchecks.2.2.2.2.2.1⟩, fun _ h => h, fun _ => h.agrees⟩
  | completeRecoveryOnBoot ready faults =>
    obtain ⟨hchallenge, hidle⟩ :=
      (reporting_completeRecoveryOnBoot s.nvm s.controller ready faults).1
    refine ⟨?_, fun _ h => h, fun _ hmarker => ?_⟩
    · unfold ChallengeWellFormed ControllerStep.after
      dsimp only
      rw [hchallenge]
      exact h.wellFormed
    · by_contra hactive
      rcases hidle (by simpa [ControllerStep.after] using hactive) with ⟨hc, ht⟩ | hnone
      · have hold := h.agrees (by simpa [ControllerStep.after, ht] using hmarker)
        simp [hc] at hold
      · exact hmarker hnone
  | confirm scope expectedHardwareId operationId challenge now faults =>
    refine ⟨confirm_wellFormed _ _ _ _ _ _ _ _ h.wellFormed, ?_⟩
    by_cases hpasses : ConfirmPasses s.controller scope expectedHardwareId operationId challenge now
    · obtain ⟨hok, hfailed⟩ := confirm_with_reset s.controller scope expectedHardwareId
        operationId challenge now s.nvm faults hpasses
      obtain ⟨id, hid, hlen⟩ := h.wellFormed hpasses.2.1
      have hop : operationId = id.val := by
        have hconfirmable := hpasses.2.2
        simp only [FactoryResetController.confirmable, decide_eq_true_eq] at hconfirmable
        rw [← hconfirmable.2.2.1, hid]
      subst hop
      obtain ⟨hstatus, hrefused, hlanded⟩ := run_writeMarker id hlen .markerWritten s.nvm faults
      simp only [ControllerStep.after, LosesMarker]
      by_cases hwrote : ((writeMarker id.val .markerWritten).run reporting s.nvm faults).value = .ok
      · -- the write was settled, and the flag is set
        have hsettled : MarkerWriteSettled faults := Or.inr (hstatus.mp hwrote)
        exact ⟨fun _ hlost => hlost.2.2 hsettled, fun _ _ => hok hwrote⟩
      · obtain ⟨hstate, hflag⟩ := hfailed hwrote
        rw [hstate, hflag]
        constructor
        · rintro hagrees ⟨-, hidle, hlost⟩
          have hput := hlanded fun hf => hlost (Or.inl hf)
          have hactive := hagrees (by simp [hput])
          simp [hidle] at hactive
        · intro hkept hmarker
          by_contra hidle
          have hsettled : MarkerWriteSettled faults := by
            by_contra hlost
            exact hkept ⟨hpasses, by simpa using hidle, hlost⟩
          rcases hsettled with hf | hworked
          · exact hidle (h.agrees (by rwa [hrefused hf] at hmarker))
          · exact hwrote (hstatus.mpr hworked)
    · obtain ⟨hstate, hflag⟩ := confirm_without_reset s.controller scope expectedHardwareId
        operationId challenge now s.nvm faults hpasses
      simp only [ControllerStep.after, LosesMarker, hstate, hflag]
      exact ⟨fun _ hlost => hpasses hlost.1, fun _ => h.agrees⟩

/-- A boot that finds no marker on a working backend changes nothing. -/
theorem recoverOnBoot_without_marker {nvm : Nvm} (h : nvm kResetTransactionMarker = none) :
    (FactoryResetController.recoverOnBoot {}).run healthy nvm (fun _ => ()) =
      ⟨(.ok, false, {}), nvm, fun _ => ()⟩ := by
  have hread : healthy.step nvm (.read kResetTransactionMarker kPersistentMaxRecord) () =
      (.error .notFound, nvm) := by
    rw [healthy_faithful, Nvm.read, h]
  simp only [FactoryResetController.recoverOnBoot, readMarker, backendRead, Program.perform_bind,
    Program.call_bind, Program.run_call, hread]
  rfl

/-- The invariant gives both halves of the agreement. -/
theorem ControllerInvariant.markerAgrees {s : ControllerState} (h : ControllerInvariant s) :
    MarkerAgrees s where
  active := h.agrees
  nothingLeft hidle := by
    refine recoverOnBoot_without_marker ?_
    by_contra hmarker
    simp [h.agrees hmarker] at hidle

theorem controllerAfter_append (nvm : Nvm) (boot : ℕ → ReportedFault)
    (steps : List ControllerStep) (step : ControllerStep) :
    controllerAfter nvm boot (steps ++ [step]) = step.after (controllerAfter nvm boot steps) := by
  simp [controllerAfter]

/-- A run in which the marker and the flag agree all along keeps the invariant. -/
theorem controllerInvariant_of_agrees (nvm : Nvm) (boot : ℕ → ReportedFault)
    (steps : List ControllerStep)
    (h : ∀ before later, steps = before ++ later →
      (controllerAfter nvm boot before).nvm kResetTransactionMarker ≠ none →
        (controllerAfter nvm boot before).controller.markerActive = true) :
    ControllerInvariant (controllerAfter nvm boot steps) := by
  induction steps using List.reverseRecOn with
  | nil => exact controllerInvariant_recovered nvm (fun hpending => by cases hpending) boot
  | append_singleton steps step ih =>
    have hold := ih fun before later hsplit =>
      h before (later ++ [step]) (by rw [hsplit, List.append_assoc])
    refine ⟨?_, h (steps ++ [step]) [] (by simp)⟩
    rw [controllerAfter_append]
    exact (hold.step step).1

/-- **When the marker agrees with the controller.**  In a run of boots and calls over any storage,
the marker and the flag agree in every state reached, and an idle controller leaves no reset behind,
if and only if no confirmation of the run loses its marker.
SOURCE: factory_reset.cpp:11-26, 59-132 -/
theorem marker_agrees_iff (nvm : Nvm) (boot : ℕ → ReportedFault) (steps : List ControllerStep) :
    (∀ before later, steps = before ++ later → MarkerAgrees (controllerAfter nvm boot before)) ↔
      ∀ before step later, steps = before ++ step :: later →
        ¬ LosesMarker (controllerAfter nvm boot before) step := by
  constructor
  · intro h before step later hsplit
    have hinv : ControllerInvariant (controllerAfter nvm boot before) := by
      refine controllerInvariant_of_agrees nvm boot before fun front back hfront => ?_
      exact (h front (back ++ step :: later) (by rw [hsplit, hfront, List.append_assoc])).active
    have hnext := (h (before ++ [step]) later (by simp [hsplit])).active
    rw [controllerAfter_append] at hnext
    exact (hinv.step step).2.mp hnext
  · intro h before later hsplit
    refine ControllerInvariant.markerAgrees ?_
    induction before using List.reverseRecOn generalizing later with
    | nil => exact controllerInvariant_recovered nvm (fun hpending => by cases hpending) boot
    | append_singleton before step ih =>
      have hold := ih (step :: later) (by simpa using hsplit)
      obtain ⟨hwf, hkept⟩ := hold.step step
      rw [controllerAfter_append]
      exact ⟨hwf, hkept.mpr (h before step later (by simpa using hsplit))⟩

/-- A factory reset, prepared and confirmed in time, whose marker write lands but is reported
failed. -/
def lostMarkerSteps : List ControllerStep :=
  let hardwareId := "0x0123456789ABCDEF".toList
  let operationId : CString := ⟨"00112233445566778899AABBCCDDEEFF".toList, by simp⟩
  let challenge := "FFEEDDCCBBAA99887766554433221100".toList
  [.prepare .applicationFactory hardwareId hardwareId operationId challenge 10 1000,
    .confirm .applicationFactory hardwareId operationId.val challenge 20
      fun _ => .failed true ⟨.writeFailed, by decide⟩]

/-- After it the controller is idle and the next boot erases the identity slot. -/
theorem not_markerAgrees_lostMarkerSteps :
    let s := controllerAfter (Nvm.empty.put kIdentitySlotA (some [7])) (fun _ => .none)
      lostMarkerSteps
    s.controller.busy = false ∧ s.nvm kIdentitySlotA = some [7] ∧
      ((FactoryResetController.recoverOnBoot {}).run healthy s.nvm fun _ => ()).state
        kIdentitySlotA = none ∧
      ¬ MarkerAgrees s := by
  intro s
  have hbusy : s.controller.busy = false := by decide +kernel
  have hkept : s.nvm kIdentitySlotA = some [7] := by decide +kernel
  have herased : ((FactoryResetController.recoverOnBoot {}).run healthy s.nvm fun _ => ()).state
      kIdentitySlotA = none := by decide +kernel
  refine ⟨hbusy, hkept, herased, fun hagrees => ?_⟩
  have hidle : s.controller.markerActive = false := by
    simp only [FactoryResetController.busy, Bool.or_eq_false_iff] at hbusy
    exact hbusy.2
  rw [hagrees.nothingLeft hidle] at herased
  exact absurd (hkept.symm.trans herased) (by simp)

end SeedMg24.Analysis
