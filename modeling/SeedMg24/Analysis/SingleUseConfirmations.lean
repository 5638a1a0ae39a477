import SeedMg24.Foundation.SingleUseTokens
import SeedMg24.Model.LifecycleConfirmation
import SeedMg24.Model.ResetReregister

/-!
# Confirmations are good for one use

The two services of the gateway that hand out confirmation tokens, each among any number of callers.
A lock guards only the dictionaries: between the taking of a token and its check any other call may
come.
-/

set_option autoImplicit false

namespace SeedMg24.Analysis

open Foundation SeedMg24.Model

namespace SingleUseConfirmations

/-! ## Tokens in a list -/

section Pending

variable {V : Type} (pending : List (ℕ × V)) (token : ℕ)

theorem mem_pop {entry : ℕ × V} (h : entry ∈ pending.filter (·.1 ≠ token)) :
    entry ∈ pending ∧ entry.1 ≠ token := by
  obtain ⟨hmem, hne⟩ := List.mem_filter.mp h
  exact ⟨hmem, of_decide_eq_true hne⟩

theorem mem_of_find {value : V} (h : (pending.find? (·.1 = token)).map (·.2) = some value) :
    (token, value) ∈ pending := by
  obtain ⟨entry, hentry, rfl⟩ := Option.map_eq_some_iff.mp h
  have htoken : entry.1 = token := by simpa using List.find?_some hentry
  exact htoken ▸ List.mem_of_find?_eq_some hentry

end Pending

/-! ## The confirmations of a lifecycle operation -/

/-- What a lifecycle confirmation is about. -/
structure LifecycleSubject where
  operation : Text
  recordId : ℕ
  deviceId : Text
  hardwareId : Option Text
  bleAddress : Option Text
deriving DecidableEq, Repr

/-- SOURCE: lifecycle_confirmation.py:17-49 -/
def lifecycleService : TokenService LifecycleConfirmationStore ℕ (LifecycleSubject × ℕ × ℕ)
    LifecycleSubject ℕ PendingConfirmation Text where
  issue s args :=
    let (subject, purgedAt, now) := args
    .ok (s.issue subject.operation subject.recordId subject.deviceId subject.hardwareId
      subject.bleAddress purgedAt now)
  bound s args :=
    let (subject, _, now) := args
    ⟨subject.operation, subject.recordId, subject.deviceId, subject.hardwareId, subject.bleAddress,
      now + s.ttlSeconds⟩
  take s token := s.popPending token
  check found subject now := LifecycleConfirmationStore.checkPending found subject.operation
    subject.recordId subject.deviceId subject.hardwareId subject.bleAddress now

/-- A confirmation is for exactly this operation on this sensor, and has not expired. -/
def lifecycleGrants (confirmation : PendingConfirmation) (subject : LifecycleSubject) (now : ℕ) :
    Prop :=
  confirmation.operation = subject.operation ∧ confirmation.recordId = subject.recordId ∧
    confirmation.deviceId = subject.deviceId ∧ confirmation.hardwareId = subject.hardwareId ∧
    confirmation.bleAddress = subject.bleAddress ∧ now < confirmation.expiresAt

/-- A whole call is a taking and a check. -/
theorem consume_eq (s : LifecycleConfirmationStore) (token : ℕ) (subject : LifecycleSubject)
    (now : ℕ) :
    s.consume token subject.operation subject.recordId subject.deviceId subject.hardwareId
        subject.bleAddress now =
      ((lifecycleService.take s token).1,
        lifecycleService.check (lifecycleService.take s token).2 subject now) := rfl

theorem lifecycleCheck_ok {found : Option PendingConfirmation} {subject : LifecycleSubject}
    {now : ℕ} (h : lifecycleService.check found subject now = .ok ()) :
    ∃ confirmation, found = some confirmation ∧ lifecycleGrants confirmation subject now := by
  cases found with
  | none => cases h
  | some confirmation =>
    simp only [lifecycleService, LifecycleConfirmationStore.checkPending] at h
    split_ifs at h with hexpired hdifferent
    obtain ⟨hoperation, hrecord, hdevice, hhardware, hble⟩ := by
      simpa only [Prod.mk.injEq] using not_not.mp hdifferent
    exact ⟨confirmation, rfl, hoperation, hrecord, hdevice, hhardware, hble, not_le.mp hexpired⟩

theorem isLawful_lifecycleService :
    lifecycleService.IsLawful (fun s => {entry | entry ∈ s.pending}) (fun s => Set.Iio s.tokens)
      lifecycleGrants where
  fresh := by
    rintro s ⟨subject, purgedAt, now⟩ after token hissue
    obtain ⟨rfl, rfl⟩ := Prod.mk.inj (Except.ok.inj hissue)
    refine ⟨lt_irrefl s.tokens, fun other hother => ?_⟩
    rcases hother with rfl | hother
    · exact Nat.lt_succ_self _
    · exact Nat.lt_succ_of_lt hother
  issued := by
    rintro s ⟨subject, purgedAt, now⟩ after token hissue entry hentry
    obtain ⟨rfl, rfl⟩ := Prod.mk.inj (Except.ok.inj hissue)
    rcases List.mem_append.mp hentry with hold | hnew
    · exact .inr (List.mem_of_mem_filter hold)
    · exact .inl (List.mem_singleton.mp hnew)
  kept := fun s token => subset_rfl
  taken := fun s token entry hentry => mem_pop _ token hentry
  found := fun s token value hvalue => mem_of_find _ token hvalue
  checked := fun found subject now h => lifecycleCheck_ok h

/-! ## The confirmations of a factory reset -/

/-- The two uses of a confirmation. -/
inductive ResetUse where
  | authorize
  | cancel
deriving DecidableEq, Repr

/-- What a confirmation of a factory reset is about. -/
structure ResetSubject where
  recordId : ℕ
  deviceId : Text
  hardwareId : Text
  port : Text
deriving DecidableEq, Repr

/-- SOURCE: usb_factory_reset.py:81-103 -/
def resetService : TokenService UsbFactoryReset ℕ (ResetSubject × Except Text SensorState × ℕ)
    (ResetUse × ResetSubject) ℕ ResetConfirmation Text where
  issue s args :=
    let (subject, inspection, now) := args
    s.prepare subject.recordId subject.deviceId subject.hardwareId subject.port inspection now
  bound _ args :=
    let (subject, _, now) := args
    ⟨subject.recordId, subject.deviceId, subject.hardwareId, subject.port, now + 120⟩
  take s token := s.popConfirmation token
  check found request now :=
    let (use, subject) := request
    let confirmed := UsbFactoryReset.confirms found subject.recordId subject.deviceId
      subject.hardwareId subject.port
    let inTime := use = .cancel || found.any fun pending => now < pending.expires
    if confirmed && inTime then .ok () else .error Workflow.refusedConfirmation

/-- A confirmation is for exactly this sensor on this port, and has not expired unless it is only
cancelled. -/
def resetGrants (confirmation : ResetConfirmation) (request : ResetUse × ResetSubject) (now : ℕ) :
    Prop :=
  confirmation.recordId = request.2.recordId ∧ confirmation.deviceId = request.2.deviceId ∧
    confirmation.hardwareId = request.2.hardwareId ∧ confirmation.port = request.2.port ∧
    (request.1 = .authorize → now < confirmation.expires)

/-- A whole call is a taking and a check. -/
theorem authorize_eq (s : UsbFactoryReset) (token : ℕ) (subject : ResetSubject) (now : ℕ) :
    s.authorize token subject.recordId subject.deviceId subject.hardwareId subject.port now =
      ((resetService.take s token).1,
        (resetService.check (resetService.take s token).2 (.authorize, subject) now).isOk) := by
  refine Prod.ext rfl ?_
  simp only [resetService, UsbFactoryReset.authorize, reduceCtorEq, decide_false, Bool.false_or]
  split_ifs with haccepted
  · exact haccepted
  · exact Bool.eq_false_of_not_eq_true haccepted

theorem cancel_eq (s : UsbFactoryReset) (token : ℕ) (subject : ResetSubject) (now : ℕ) :
    s.cancel token subject.recordId subject.deviceId subject.hardwareId subject.port =
      ((resetService.take s token).1,
        (resetService.check (resetService.take s token).2 (.cancel, subject) now).isOk) := by
  refine Prod.ext rfl ?_
  simp only [resetService, UsbFactoryReset.cancel, decide_true, Bool.true_or, Bool.and_true]
  split_ifs with haccepted
  · exact haccepted
  · exact Bool.eq_false_of_not_eq_true haccepted

theorem accepted_of_ok {accepted : Bool} {error : Text}
    (h : (if accepted then .ok () else .error error : Except Text Unit) = .ok ()) :
    accepted = true := by
  cases accepted with
  | true => rfl
  | false => cases h

theorem resetCheck_ok {found : Option ResetConfirmation} {request : ResetUse × ResetSubject}
    {now : ℕ} (h : resetService.check found request now = .ok ()) :
    ∃ confirmation, found = some confirmation ∧ resetGrants confirmation request now := by
  obtain ⟨use, subject⟩ := request
  cases found with
  | none => cases h
  | some confirmation =>
    obtain ⟨hconfirmed, hinTime⟩ := Bool.and_eq_true_iff.mp (accepted_of_ok h)
    obtain ⟨⟨⟨hrecord, hdevice⟩, hhardware⟩, hport⟩ := by
      simpa only [UsbFactoryReset.confirms, Option.any_some, Bool.and_eq_true,
        decide_eq_true_eq] using hconfirmed
    refine ⟨confirmation, rfl, hrecord, hdevice, hhardware, hport, fun hauthorize => ?_⟩
    have huse : use = .authorize := hauthorize
    simpa [huse] using hinTime

/-- A confirmation is handed out under the next token, for what it was asked for. -/
theorem prepare_ok {s after : UsbFactoryReset} {recordId token now : ℕ} {deviceId hardwareId : Text}
    {port : Text} {inspection : Except Text SensorState}
    (h : s.prepare recordId deviceId hardwareId port inspection now = .ok (after, token)) :
    token = s.tokens ∧ after.tokens = s.tokens + 1 ∧ after.confirmations =
      s.confirmations ++ [(s.tokens, ⟨recordId, deviceId, hardwareId, port, now + 120⟩)] := by
  unfold UsbFactoryReset.prepare at h
  cases inspection with
  | error message => cases h
  | ok state =>
    by_cases hother : state.hardwareId ≠ some hardwareId ∨ state.nodeId ≠ some deviceId
    · simp only [if_pos hother] at h
      cases h
    · simp only [if_neg hother] at h
      obtain ⟨rfl, rfl⟩ := Prod.mk.inj (Except.ok.inj h)
      exact ⟨rfl, rfl, rfl⟩

theorem isLawful_resetService :
    resetService.IsLawful (fun s => {entry | entry ∈ s.confirmations}) (fun s => Set.Iio s.tokens)
      resetGrants where
  fresh := by
    rintro s ⟨subject, inspection, now⟩ after token hissue
    obtain ⟨rfl, htokens, -⟩ := prepare_ok hissue
    refine ⟨lt_irrefl s.tokens, fun other hother => ?_⟩
    show other < after.tokens
    rw [htokens]
    rcases hother with rfl | hother
    · exact Nat.lt_succ_self _
    · exact Nat.lt_succ_of_lt hother
  issued := by
    rintro s ⟨subject, inspection, now⟩ after token hissue entry hentry
    obtain ⟨rfl, -, hconfirmations⟩ := prepare_ok hissue
    have hmem : entry ∈ after.confirmations := hentry
    rw [hconfirmations] at hmem
    rcases List.mem_append.mp hmem with hold | hnew
    · exact .inr hold
    · exact .inl (List.mem_singleton.mp hnew)
  kept := fun s token => subset_rfl
  taken := fun s token entry hentry => mem_pop _ token hentry
  found := fun s token value hvalue => mem_of_find _ token hvalue
  checked := fun found request now h => resetCheck_ok h

/-! ## Both services -/

/-- **The confirmations of both services are good for one use**, in every order of what their
callers do. -/
theorem isSingleUse_run :
    (∀ ttlSeconds events, TokenService.IsSingleUse lifecycleGrants (Runs.after lifecycleService.next
      { state := { ttlSeconds := ttlSeconds } } events)) ∧
    ∀ operations events, TokenService.IsSingleUse resetGrants (Runs.after resetService.next
      { state := { operations := operations } } events) := by
  constructor
  · intro ttlSeconds events
    refine isLawful_lifecycleService.isSingleUse ?_ events
    exact Set.eq_empty_of_forall_notMem fun entry hentry => List.not_mem_nil hentry
  · intro operations events
    refine isLawful_resetService.isSingleUse ?_ events
    exact Set.eq_empty_of_forall_notMem fun entry hentry => List.not_mem_nil hentry

end SingleUseConfirmations

end SeedMg24.Analysis
