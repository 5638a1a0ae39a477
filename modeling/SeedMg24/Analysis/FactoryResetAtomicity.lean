import SeedMg24.Analysis.IdentitySlots
import SeedMg24.Model.Node

/-!
# The factory reset and power cuts

A power cut may fall between any two backend operations of a factory reset and of the boots after
it.  `ResetInvariant` ties the marker to every partially erased storage on the way: while the
reset keys are neither as before nor all absent, the marker is stored.  Every operation of the
controller keeps it at each of its cuts, so it holds after any number of cut or completed boots.
-/

set_option autoImplicit false

namespace SeedMg24.Analysis

open Foundation Model

/-! ## Truthful operations -/

section Operations

variable {α : Type} {C : Nvm → Prop} {s : Nvm} {Q : α → Nvm → Prop}

/-- A read is answered from the storage, or refused. -/
theorem ensures_backendRead {key : UInt32} {capacity : ℕ}
    {f : Except StoreStatus (List UInt8) → NvmProgram α} (hC : C s)
    (hread : Ensures truthful C (f (s.read key capacity)) s Q)
    (hrefused : ∀ reason : Refusal, Ensures truthful C (f (.error reason.status)) s Q) :
    Ensures truthful C (backendRead key capacity >>= f) s Q := by
  refine Ensures.call hC fun fault => ?_
  cases fault with
  | none => exact hread
  | refused reason => exact hrefused reason

/-- A write is carried out, or refused. -/
theorem ensures_backendWrite {key : UInt32} {data : List UInt8} {f : StoreStatus → NvmProgram α}
    (hC : C s) (hwrite : Ensures truthful C (f .ok) (s.put key (some data)) Q)
    (hrefused : ∀ reason : Refusal, Ensures truthful C (f reason.status) s Q) :
    Ensures truthful C (backendWrite key data >>= f) s Q := by
  refine Ensures.call hC fun fault => ?_
  cases fault with
  | none => exact hwrite
  | refused reason => exact hrefused reason

/-- A removal is carried out, or refused. -/
theorem ensures_backendRemove {key : UInt32} {f : StoreStatus → NvmProgram α} (hC : C s)
    (hremove : Ensures truthful C (f .ok) (s.put key none) Q)
    (hrefused : ∀ reason : Refusal, Ensures truthful C (f reason.status) s Q) :
    Ensures truthful C (backendRemove key >>= f) s Q := by
  refine Ensures.call hC fun fault => ?_
  cases fault with
  | none => exact hremove
  | refused reason => exact hrefused reason

theorem refusal_status_ne (reason : Refusal) : reason.status ≠ .ok ∧ reason.status ≠ .notFound ∧
    reason.status ≠ .corrupt ∧ reason.status ≠ .integrityFailed := by
  cases reason <;> decide

end Operations

/-! ## The invariant -/

/-- Relative to the storage before the reset: no key outside the reset and its marker has changed,
and the reset keys are untouched, all absent, or under the marker. -/
structure ResetInvariant (before nvm : Nvm) : Prop where
  outside : ∀ key, key ∉ kApplicationFactoryReset → key ≠ kResetTransactionMarker →
    nvm key = before key
  keys : (∀ key ∈ kApplicationFactoryReset, nvm key = before key) ∨
    (∀ key ∈ kApplicationFactoryReset, nvm key = none) ∨ nvm kResetTransactionMarker ≠ none

/-- The part of the invariant under which the reset keys may be in any state. -/
structure UnderMarker (before nvm : Nvm) : Prop where
  outside : ∀ key, key ∉ kApplicationFactoryReset → key ≠ kResetTransactionMarker →
    nvm key = before key
  marker : nvm kResetTransactionMarker ≠ none

theorem marker_not_mem : kResetTransactionMarker ∉ kApplicationFactoryReset := by decide

variable {before nvm : Nvm}

theorem resetInvariant_refl (before : Nvm) : ResetInvariant before before :=
  ⟨fun _ _ _ => rfl, Or.inl fun _ _ => rfl⟩

theorem UnderMarker.resetInvariant (h : UnderMarker before nvm) : ResetInvariant before nvm :=
  ⟨h.outside, Or.inr (Or.inr h.marker)⟩

/-- Storing the marker puts any state of the reset under it. -/
theorem ResetInvariant.put_marker (h : ResetInvariant before nvm) (data : List UInt8) :
    UnderMarker before (nvm.put kResetTransactionMarker (some data)) where
  outside key hkey hmarker := by rw [Nvm.put_of_ne hmarker, h.outside key hkey hmarker]
  marker := by simp

/-- Under the marker, reset keys may be removed. -/
theorem UnderMarker.put_key (h : UnderMarker before nvm) {key : UInt32}
    (hkey : key ∈ kApplicationFactoryReset) (content : Option (List UInt8)) :
    UnderMarker before (nvm.put key content) where
  outside other hother hmarker := by
    have hne : other ≠ key := fun heq => hother (heq ▸ hkey)
    rw [Nvm.put_of_ne hne, h.outside other hother hmarker]
  marker := by
    have hne : kResetTransactionMarker ≠ key := fun heq => marker_not_mem (heq ▸ hkey)
    rw [Nvm.put_of_ne hne]
    exact h.marker

/-- Once all reset keys are absent the marker may go. -/
theorem ResetInvariant.clear_marker (h : ResetInvariant before nvm)
    (habsent : ∀ key ∈ kApplicationFactoryReset, nvm key = none) :
    ResetInvariant before (nvm.put kResetTransactionMarker none) ∧
      ∀ key ∈ kApplicationFactoryReset, nvm.put kResetTransactionMarker none key = none := by
  have hkeys : ∀ key ∈ kApplicationFactoryReset,
      nvm.put kResetTransactionMarker none key = none := by
    intro key hkey
    have hne : key ≠ kResetTransactionMarker := fun heq => marker_not_mem (heq ▸ hkey)
    rw [Nvm.put_of_ne hne, habsent key hkey]
  refine ⟨⟨fun key hkey hmarker => ?_, Or.inr (Or.inl hkeys)⟩, hkeys⟩
  rw [Nvm.put_of_ne hmarker, h.outside key hkey hmarker]

/-! ## The parts of the controller -/

section Parts

variable {C : Nvm → Prop}

theorem ensures_keysAbsent {keys : List UInt32} (hC : C nvm) :
    Ensures truthful C (keysAbsent keys) nvm fun absent t =>
      t = nvm ∧ (absent = true → ∀ key ∈ keys, nvm key = none) := by
  induction keys with
  | nil =>
    unfold keysAbsent
    exact Ensures.done hC ⟨rfl, by simp⟩
  | cons key keys ih =>
    unfold keysAbsent
    refine ensures_backendRead hC ?_ fun reason => ?_
    · unfold Nvm.read
      cases hkey : nvm key with
      | none =>
        refine ih.mono (fun _ h => h) fun absent t h => ⟨h.1, fun ha => ?_⟩
        simpa [hkey] using h.2 ha
      | some data =>
        by_cases hlen : data.length > 1
        · simp only [if_pos hlen]
          exact Ensures.done hC ⟨rfl, by simp⟩
        · simp only [if_neg hlen]
          exact Ensures.done hC ⟨rfl, by simp⟩
    · cases reason <;> refine Ensures.done hC ?_ <;> exact ⟨rfl, by simp⟩

theorem parseMarker_error {record : List UInt8} {s : StoreStatus}
    (h : parseMarker record = .error s) : s ≠ .notFound := by
  unfold parseMarker at h
  cases hd : decodePersistentRecord record .storeMetadata with
  | error s' =>
    simp only [hd] at h
    cases h
    exact (decode_error hd).2
  | ok view =>
    simp only [hd] at h
    split at h <;> cases h
    decide

/-- What a marker read tells: `notFound` that there is none, and anything but a refusal that there
is one. -/
theorem ensures_readMarker (hC : C nvm) :
    Ensures truthful C readMarker nvm fun marker t =>
      t = nvm ∧ (marker = .error .notFound → nvm kResetTransactionMarker = none) ∧
        ((∃ found, marker = .ok found) ∨ marker = .error .corrupt ∨
          marker = .error .integrityFailed → nvm kResetTransactionMarker ≠ none) := by
  unfold readMarker
  refine ensures_backendRead hC ?_ fun reason => ?_
  · unfold Nvm.read
    cases hkey : nvm kResetTransactionMarker with
    | none => exact Ensures.done hC ⟨rfl, by simp, by simp⟩
    | some data =>
      dsimp only
      by_cases hlen : data.length > kPersistentMaxRecord
      · rw [if_pos hlen]
        exact Ensures.done hC ⟨rfl, by simp, by simp⟩
      · rw [if_neg hlen]
        exact Ensures.done hC ⟨rfl, fun h => absurd rfl (parseMarker_error h), by simp⟩
  · obtain ⟨-, hne, hcorrupt, hintegrity⟩ := refusal_status_ne reason
    refine Ensures.done hC ⟨rfl, ?_, ?_⟩
    · simp [hne]
    · simp [hcorrupt, hintegrity]

/-- Writing the marker keeps the invariant at every cut, puts the storage under the marker when it
returns `ok`, and leaves it there if it was. -/
theorem ensures_writeMarker (h : ResetInvariant before nvm) (operationId : Text)
    (stage : ResetStage) :
    Ensures truthful (ResetInvariant before) (writeMarker operationId stage) nvm fun status t =>
      ResetInvariant before t ∧
        (status = .ok ∨ UnderMarker before nvm → UnderMarker before t) := by
  unfold writeMarker
  split
  · exact Ensures.done h ⟨h, by simp⟩
  · cases henc : encodePersistentRecord .storeMetadata 1 0 (markerPayload operationId stage)
        kPersistentMaxRecord with
    | error s =>
      exact Ensures.done h ⟨h, fun hs => hs.resolve_left (encode_error henc)⟩
    | ok record =>
      dsimp only
      refine ensures_backendWrite h ?_ fun reason => ?_
      · have hmarker := h.put_marker record
        simp only [ne_eq, not_true_eq_false, if_false]
        refine Ensures.seq (ensures_readMarker hmarker.resetInvariant) fun marker t ht => ?_
        rw [ht.1]
        cases marker <;> exact Ensures.done hmarker.resetInvariant
          ⟨hmarker.resetInvariant, fun _ => hmarker⟩
      · have hne := (refusal_status_ne reason).1
        rw [if_pos hne]
        exact Ensures.done h ⟨h, fun hs => hs.resolve_left hne⟩

/-- Erasing reset keys under the marker leaves the storage under it, at every cut. -/
theorem ensures_eraseKeys {keys : List UInt32} (hkeys : keys ⊆ kApplicationFactoryReset)
    (h : UnderMarker before nvm) (result : ResetResult) :
    Ensures truthful (ResetInvariant before) (eraseKeys keys result) nvm fun _ t =>
      UnderMarker before t := by
  induction keys generalizing nvm result with
  | nil => exact Ensures.done h.resetInvariant h
  | cons key keys ih =>
    have hkey : key ∈ kApplicationFactoryReset := hkeys (by simp)
    have hrest : keys ⊆ kApplicationFactoryReset := fun k hk => hkeys (by simp [hk])
    -- whatever the two calls answer, the loop goes on from a storage under the marker
    have hnext : ∀ (t : Nvm) (next : Except StoreStatus (List UInt8) → NvmProgram ResetResult),
        (∀ check, ∃ counted, next check = eraseKeys keys counted) → UnderMarker before t →
          Ensures truthful (ResetInvariant before) (backendRead key 1 >>= next) t fun _ t =>
            UnderMarker before t := by
      intro t next hgoesOn ht
      have hafter (check : Except StoreStatus (List UInt8)) : Ensures truthful (ResetInvariant before)
          (next check) t fun _ t => UnderMarker before t := by
        obtain ⟨counted, hcounted⟩ := hgoesOn check
        rw [hcounted]
        exact ih hrest ht counted
      exact ensures_backendRead ht.resetInvariant (hafter _) fun reason => hafter _
    unfold eraseKeys
    refine ensures_backendRemove h.resetInvariant (hnext _ _ ?_ (h.put_key hkey none))
      fun reason => hnext _ _ ?_ h
    all_goals
      intro check
      split <;> exact ⟨_, rfl⟩

/-- Removing reset keys under the marker leaves the storage under it, at every cut. -/
theorem ensures_removeKeys {keys : List UInt32} (hkeys : keys ⊆ kApplicationFactoryReset)
    (h : UnderMarker before nvm) :
    Ensures truthful (ResetInvariant before) (FactoryResetController.removeKeys keys) nvm fun _ t =>
      UnderMarker before t := by
  induction keys generalizing nvm with
  | nil => exact Ensures.done h.resetInvariant h
  | cons key keys ih =>
    have hkey : key ∈ kApplicationFactoryReset := hkeys (by simp)
    have hrest : keys ⊆ kApplicationFactoryReset := fun k hk => hkeys (by simp [hk])
    unfold FactoryResetController.removeKeys
    refine ensures_backendRemove h.resetInvariant ?_ fun reason => ?_
    · simp only [ne_eq, not_true_eq_false, if_false]
      exact ih hrest (h.put_key hkey none)
    · rw [if_pos (refusal_status_ne reason).1]
      exact Ensures.done h.resetInvariant h

/-- Clearing the marker over absent reset keys keeps the invariant and the keys absent. -/
theorem ensures_clearMarker (h : ResetInvariant before nvm)
    (habsent : ∀ key ∈ kApplicationFactoryReset, nvm key = none) :
    Ensures truthful (ResetInvariant before) clearMarker nvm fun _ t =>
      ResetInvariant before t ∧ ∀ key ∈ kApplicationFactoryReset, t key = none := by
  have hcleared := h.clear_marker habsent
  unfold clearMarker
  refine ensures_backendRemove h ?_ fun reason => ?_
  · simp only [ne_eq, not_true_eq_false, if_false]
    refine ensures_backendRead hcleared.1 ?_ fun reason => ?_
    · split <;> exact Ensures.done hcleared.1 hcleared
    · split <;> exact Ensures.done hcleared.1 hcleared
  · rw [if_pos (refusal_status_ne reason).1]
    exact Ensures.done h ⟨h, habsent⟩

theorem ensures_readIdentity {key : UInt32} (hC : C nvm) :
    Ensures truthful C (readIdentity key) nvm fun _ t => t = nvm := by
  unfold readIdentity
  refine ensures_backendRead hC ?_ fun reason => ?_
  · split <;> exact Ensures.done hC rfl
  · exact Ensures.done hC rfl

theorem ensures_readConfigSlot {key : UInt32} (hC : C nvm) :
    Ensures truthful C (readConfigSlot key) nvm fun _ t => t = nvm := by
  unfold readConfigSlot
  refine ensures_backendRead hC ?_ fun reason => ?_
  · split <;> exact Ensures.done hC rfl
  · exact Ensures.done hC rfl

theorem ensures_identityLoad (hC : C nvm) (out : NodeIdentity) :
    Ensures truthful C (identityLoad out) nvm fun _ t => t = nvm := by
  unfold identityLoad
  refine Ensures.seq (ensures_readIdentity hC) ?_
  rintro a t rfl
  refine Ensures.seq (ensures_readIdentity hC) ?_
  rintro b t rfl
  exact Ensures.done hC rfl

theorem ensures_configurationLoad (hC : C nvm) (out : StoredChannelConfiguration) :
    Ensures truthful C (configurationLoad out) nvm fun _ t => t = nvm := by
  unfold configurationLoad
  refine Ensures.seq (ensures_readConfigSlot hC) ?_
  rintro a t rfl
  refine Ensures.seq (ensures_readConfigSlot hC) ?_
  rintro b t rfl
  exact Ensures.done hC rfl

end Parts

/-! ## The controller and the boot -/

/-- **A reset keeps the invariant at every cut.** -/
theorem ensures_confirm (h : ResetInvariant before nvm) (c : FactoryResetController)
    (expectedHardwareId operationId challenge : Text) (now : UInt32) :
    Ensures truthful (ResetInvariant before)
      (c.confirm .applicationFactory expectedHardwareId operationId challenge now) nvm
      fun _ t => ResetInvariant before t := by
  unfold FactoryResetController.confirm
  split
  · exact Ensures.done h h
  dsimp only
  split
  · exact Ensures.done h h
  refine Ensures.seq (ensures_writeMarker h operationId .markerWritten) fun status t ht => ?_
  split
  · exact Ensures.done ht.1 ht.1
  have hmarker := ht.2 (Or.inl (not_not.mp ‹_›))
  refine Ensures.seq (ensures_eraseKeys (List.Subset.refl _) hmarker _) fun result t ht => ?_
  split
  · exact Ensures.done ht.resetInvariant ht.resetInvariant
  refine Ensures.seq (ensures_writeMarker ht.resetInvariant operationId .keysCleared)
    fun status t ht => ?_
  exact Ensures.done ht.1 ht.1

/-- What recovery on boot leaves: an idle controller only if there is no marker, and a pending
recovery only under one. -/
structure Recovered (before nvm : Nvm) (pending : Bool) (c : FactoryResetController) : Prop where
  invariant : ResetInvariant before nvm
  idle : c.markerActive = false → nvm kResetTransactionMarker = none
  pending : pending = true → UnderMarker before nvm

/-- **Recovery keeps the invariant at every cut.** -/
theorem ensures_recoverOnBoot (h : ResetInvariant before nvm) (c : FactoryResetController) :
    Ensures truthful (ResetInvariant before) c.recoverOnBoot nvm fun r t =>
      Recovered before t r.2.1 r.2.2 := by
  unfold FactoryResetController.recoverOnBoot
  refine Ensures.seq (ensures_readMarker h) fun marker t ht => ?_
  obtain ⟨rfl, hnone, hsome⟩ := ht
  -- a boot that gives up keeps the controller active, over a storage in the invariant
  have hgiveUp : ∀ (t : Nvm) (s : StoreStatus), ResetInvariant before t →
      Ensures truthful (ResetInvariant before)
        (Program.done (s, false, { c with markerActive := true })) t fun r t =>
          Recovered before t r.2.1 r.2.2 :=
    fun t s ht => Ensures.done ht ⟨ht, by simp, by simp⟩
  -- a boot that goes on erases under the marker, and whatever it does last keeps it
  have herase (last : NvmProgram (StoreStatus × Bool × FactoryResetController))
      (hlast : ∀ t, UnderMarker before t → Ensures truthful (ResetInvariant before) last t fun r t =>
        Recovered before t r.2.1 r.2.2) (hmarker : UnderMarker before t) :
      Ensures truthful (ResetInvariant before) (do
        if ← resetKeysAbsent then return (.ok, true, { c with markerActive := true })
        let s ← FactoryResetController.removeKeys kApplicationFactoryReset
        if s ≠ .ok then return (s, false, { c with markerActive := true })
        if !(← resetKeysAbsent) then
          return (.integrityFailed, false, { c with markerActive := true })
        last) t fun r t => Recovered before t r.2.1 r.2.2 := by
    refine Ensures.seq (ensures_keysAbsent hmarker.resetInvariant) ?_
    rintro absent t ⟨rfl, -⟩
    split
    · exact Ensures.done hmarker.resetInvariant ⟨hmarker.resetInvariant, by simp, fun _ => hmarker⟩
    refine Ensures.seq (ensures_removeKeys (List.Subset.refl _) hmarker) fun s t hmarker => ?_
    split
    · exact hgiveUp _ _ hmarker.resetInvariant
    refine Ensures.seq (ensures_keysAbsent hmarker.resetInvariant) ?_
    rintro absent t ⟨rfl, -⟩
    split
    · exact hgiveUp _ _ hmarker.resetInvariant
    · exact hlast t hmarker
  have hrecovered (t : Nvm) (hmarker : UnderMarker before t) : Ensures truthful (ResetInvariant before)
      (Program.done (StoreStatus.ok, true, { c with markerActive := true })) t fun r t =>
        Recovered before t r.2.1 r.2.2 :=
    Ensures.done hmarker.resetInvariant ⟨hmarker.resetInvariant, by simp, fun _ => hmarker⟩
  cases marker with
  | ok found =>
    refine herase _ (fun t hmarker => ?_) ⟨h.outside, hsome (Or.inl ⟨found, rfl⟩)⟩
    refine Ensures.seq (ensures_writeMarker hmarker.resetInvariant _ _) fun s t ht => ?_
    have hmarker := ht.2 (Or.inr hmarker)
    split
    · exact hgiveUp _ _ hmarker.resetInvariant
    · exact hrecovered t hmarker
  | error s =>
    cases s with
    | notFound => exact Ensures.done h ⟨h, fun _ => hnone rfl, by simp⟩
    | corrupt => exact herase _ hrecovered ⟨h.outside, hsome (Or.inr (Or.inl rfl))⟩
    | integrityFailed => exact herase _ hrecovered ⟨h.outside, hsome (Or.inr (Or.inr rfl))⟩
    | _ => exact hgiveUp _ _ h

/-- **Completing a recovery keeps the invariant at every cut**, and finds the reset keys absent
whenever it makes the controller idle. -/
theorem ensures_completeRecoveryOnBoot (h : ResetInvariant before nvm)
    (c : FactoryResetController) (ready : Bool) :
    Ensures truthful (ResetInvariant before) (c.completeRecoveryOnBoot ready) nvm fun r t =>
      ResetInvariant before t ∧ (r.2.markerActive = false → c.markerActive = false ∨
        ∀ key ∈ kApplicationFactoryReset, t key = none) := by
  unfold FactoryResetController.completeRecoveryOnBoot
  split
  · exact Ensures.done h ⟨h, Or.inl⟩
  refine Ensures.seq (ensures_keysAbsent h) ?_
  rintro absent t ⟨rfl, habsent⟩
  split
  · exact Ensures.done h ⟨h, Or.inl⟩
  have hkeys := habsent (by simpa using ‹¬ (!absent) = true›)
  refine Ensures.seq (ensures_clearMarker h hkeys) fun status t ht => ?_
  exact Ensures.done ht.1 ⟨ht.1, fun _ => Or.inr ht.2⟩

/-- **A boot keeps the invariant at every cut.**  If it ends with an idle controller, the reset
keys are as before the reset or all absent. -/
theorem ensures_setup (h : ResetInvariant before nvm) :
    Ensures truthful (ResetInvariant before) (Node.setup .ok) nvm fun n t =>
      ResetInvariant before t ∧ (n.factoryResetController.markerActive = false →
        (∀ key ∈ kApplicationFactoryReset, t key = before key) ∨
          ∀ key ∈ kApplicationFactoryReset, t key = none) := by
  unfold Node.setup
  simp only [ne_eq, not_true_eq_false, if_false]
  refine Ensures.seq (ensures_recoverOnBoot h _) ?_
  rintro ⟨resetStatus, pending, c⟩ t ⟨hinv, hidle, hpending⟩
  refine Ensures.seq (ensures_identityLoad hinv _) ?_
  rintro ⟨identityStatus, identity⟩ t rfl
  refine Ensures.seq (ensures_configurationLoad hinv _) ?_
  rintro ⟨configurationStatus, stored⟩ t rfl
  dsimp only at hidle hpending ⊢
  split
  · have hmarker := hpending (And.left ‹_›)
    refine Ensures.seq (ensures_completeRecoveryOnBoot hinv c _) ?_
    rintro ⟨status, c'⟩ t ⟨hinv', hcomplete⟩
    refine Ensures.done hinv' ⟨hinv', fun hactive => ?_⟩
    rcases hcomplete hactive with hc | hkeys
    · exact absurd (hidle hc) hmarker.marker
    · exact Or.inr hkeys
  · refine Ensures.done hinv ⟨hinv, fun hactive => ?_⟩
    -- no marker, so the keys are in one of the two states the reset may end in
    have hnone := hidle hactive
    exact hinv.keys.imp_right fun hkeys => hkeys.resolve_right (not_not.mpr hnone)

/-! ## Resets, cuts and reboots -/

/-- What the backend refuses during a run, and after how many of its operations the power is cut,
if it is. -/
structure Interruption where
  faults : ℕ → TruthfulFault
  cut : Option ℕ

/-- The storage a program leaves, cut or not. -/
def Interruption.after {α : Type} (i : Interruption) (p : NvmProgram α) (nvm : Nvm) : Nvm :=
  match i.cut with
  | none => (p.run truthful nvm i.faults).state
  | some n => p.crash truthful nvm i.faults n

/-- A program that keeps an invariant at every cut leaves a storage in it, cut or not. -/
theorem Interruption.after_of_ensures {α : Type} {p : NvmProgram α} {C : Nvm → Prop}
    {Q : α → Nvm → Prop} (h : Ensures truthful C p nvm Q) (hQ : ∀ a t, Q a t → C t)
    (i : Interruption) : C (i.after p nvm) := by
  obtain ⟨faults, cut⟩ := i
  cases cut with
  | none => exact hQ _ _ (h faults).1
  | some n => exact (h faults).2 n

/-- **The factory reset is crash-atomic.**  A reset of any storage is cut, or not; then the node
boots any number of times, each boot cut or not; no key outside the reset has changed.  When a
boot then ends with an idle controller, the reset keys hold what they held before the reset, or are
all absent.
SOURCE: factory_reset.cpp:69-130, xiao_mg24_sensor_node.ino:571-601 -/
theorem factory_reset_crash_atomic (before : Nvm) (c : FactoryResetController)
    (expectedHardwareId operationId challenge : Text) (now : UInt32) (reset : Interruption)
    (boots : List Interruption) (last : ℕ → TruthfulFault) :
    let confirmed := reset.after
      (c.confirm .applicationFactory expectedHardwareId operationId challenge now) before
    let rebooted := boots.foldl (fun nvm boot => boot.after (Node.setup .ok) nvm) confirmed
    let booted := (Node.setup .ok).run truthful rebooted last
    (∀ key, key ∉ kApplicationFactoryReset → key ≠ kResetTransactionMarker →
      rebooted key = before key ∧ booted.state key = before key) ∧
    (booted.value.factoryResetController.markerActive = false →
      (∀ key ∈ kApplicationFactoryReset, booted.state key = before key) ∨
        ∀ key ∈ kApplicationFactoryReset, booted.state key = none) := by
  intro confirmed rebooted booted
  have hconfirmed : ResetInvariant before confirmed :=
    reset.after_of_ensures (ensures_confirm (resetInvariant_refl before) c expectedHardwareId
      operationId challenge now) fun _ _ h => h
  have hrebooted : ResetInvariant before rebooted := by
    have hboots : ∀ (boots : List Interruption) (nvm : Nvm), ResetInvariant before nvm →
        ResetInvariant before
          (boots.foldl (fun nvm boot => boot.after (Node.setup .ok) nvm) nvm) := by
      intro boots
      induction boots with
      | nil => exact fun _ h => h
      | cons boot boots ih =>
        exact fun nvm h => ih _ (boot.after_of_ensures (ensures_setup h) fun _ _ h => h.1)
    exact hboots boots confirmed hconfirmed
  obtain ⟨hfinal, hidle⟩ := (ensures_setup hrebooted last).1
  exact ⟨fun key hkey hmarker => ⟨hrebooted.outside key hkey hmarker,
    hfinal.outside key hkey hmarker⟩, hidle⟩

end SeedMg24.Analysis
