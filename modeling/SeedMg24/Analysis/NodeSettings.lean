import SeedMg24.Analysis.NodeActions

/-!
# Answers and settings of a node

What printing an answer leaves alone, and the bounds on settings: those a node takes over from a
command or from a boot are always within the bounds of the configuration store.
-/

set_option autoImplicit false

namespace SeedMg24.Analysis

open Foundation Foundation.TwoSlot Model

/-! ## Answers -/

section Answers

variable (n : Node) (response : Text)

/-- An answer only prints, notifies and counts. -/
theorem answer_eq : ∃ errors notifications, n.answer response =
    { n with
      serialLines := n.serialLines ++ [response]
      processingErrorCount := errors
      notifications := notifications } := by
  unfold Node.answer Node.bleSendPayload
  dsimp only
  split_ifs <;> exact ⟨_, _, rfl⟩

@[simp] theorem answer_microphoneRuntimeConfig :
    (n.answer response).microphoneRuntimeConfig = n.microphoneRuntimeConfig := by
  obtain ⟨_, _, h⟩ := answer_eq n response
  rw [h]

@[simp] theorem answer_factoryResetController :
    (n.answer response).factoryResetController = n.factoryResetController := by
  obtain ⟨_, _, h⟩ := answer_eq n response
  rw [h]

@[simp] theorem answer_bootstrapOnly : (n.answer response).bootstrapOnly = n.bootstrapOnly := by
  obtain ⟨_, _, h⟩ := answer_eq n response
  rw [h]

@[simp] theorem answer_activeIdentity : (n.answer response).activeIdentity = n.activeIdentity := by
  obtain ⟨_, _, h⟩ := answer_eq n response
  rw [h]

@[simp] theorem answer_identityStoreStatus :
    (n.answer response).identityStoreStatus = n.identityStoreStatus := by
  obtain ⟨_, _, h⟩ := answer_eq n response
  rw [h]

@[simp] theorem answer_serialLines :
    (n.answer response).serialLines = n.serialLines ++ [response] := by
  obtain ⟨_, _, h⟩ := answer_eq n response
  rw [h]

@[simp] theorem answer_bleConnected : (n.answer response).bleConnected = n.bleConnected := by
  obtain ⟨_, _, h⟩ := answer_eq n response
  rw [h]

@[simp] theorem answer_bleNotifyEnabled :
    (n.answer response).bleNotifyEnabled = n.bleNotifyEnabled := by
  obtain ⟨_, _, h⟩ := answer_eq n response
  rw [h]

/-- A short answer is notified to a subscribed client. -/
theorem answer_notifications (hlen : response.length ≠ 0 ∧ response.length < Node.bleJsonSize)
    (hlink : n.bleConnected = true ∧ n.bleNotifyEnabled = true) :
    (n.answer response).notifications = n.notifications ++ [response] := by
  unfold Node.answer Node.bleSendPayload
  dsimp only
  rw [if_pos hlink.1, if_neg (by omega), if_pos ⟨hlink.1, hlink.2⟩]

end Answers

/-- The lines printed since an earlier state of the node. -/
def printedSince (before after : Node) : List Text :=
  after.serialLines.drop before.serialLines.length

/-! ## Settings -/

/-- Settings as the store keeps them. -/
def storedOf (c : ChannelConfig) : StoredChannelConfiguration where
  sampleIntervalMs := c.sampleIntervalMs
  processingIntervalMs := c.processingIntervalMs
  reportIntervalMs := c.reportIntervalMs
  heartbeatIntervalMs := c.heartbeatIntervalMs
  filterType := c.filterType
  filterWindow := c.filterWindow
  enabled := if c.enabled then 1 else 0

theorem currentStoredConfiguration_eq (n : Node) :
    n.currentStoredConfiguration = storedOf n.microphoneRuntimeConfig := rfl

/-- Storing settings and loading them gives them back. -/
@[simp] theorem loaded_storedOf (c : ChannelConfig) :
    Node.loadedChannelConfig (storedOf c) = c := by
  obtain ⟨enabled, sample, process, report, heartbeat, filter, window⟩ := c
  cases enabled <;> rfl

/-- Loaded settings are within the bounds. -/
theorem settingsInRange_loaded {v : StoredChannelConfiguration} (h : settingsInRange v = true) :
    settingsInRange (storedOf (Node.loadedChannelConfig v)) = true := by
  simp only [settingsInRange, Bool.and_eq_true, decide_eq_true_eq] at h ⊢
  have henabled : (storedOf (Node.loadedChannelConfig v)).enabled ≤ 1 := by
    simp only [storedOf]
    split <;> decide
  simp only [storedOf, Node.loadedChannelConfig] at henabled ⊢
  tauto

/-- A number parsed within bounds is within them. -/
theorem parseBoundedUint_bounds {text : Text} {minimum maximum : ℕ} {value : UInt32}
    (h : parseBoundedUint text minimum maximum = some value) :
    minimum ≤ value.toNat ∧ value.toNat ≤ maximum := by
  unfold parseBoundedUint at h
  split at h
  · cases h
  · dsimp only at h
    split at h
    · cases h
    · rename_i hbounds
      cases h
      have hvalue : (UInt32.ofNat (min (Text.digitsValue text) 0xFFFFFFFF)).toNat =
          min (Text.digitsValue text) 0xFFFFFFFF := by
        refine UInt32.toNat_ofNat_of_lt' ?_
        have : min (Text.digitsValue text) 0xFFFFFFFF ≤ 0xFFFFFFFF := min_le_right _ _
        exact lt_of_le_of_lt this (by decide)
      rw [hvalue]
      omega

/-- A staged configuration is within the bounds of the store. -/
theorem settingsInRange_staged {tokens : SettingTokens} {staged : StoredChannelConfiguration}
    (h : stagedConfiguration tokens = some staged) : settingsInRange staged = true := by
  unfold stagedConfiguration at h
  simp only [Option.bind_eq_bind, Option.bind_eq_some_iff, Option.pure_def, Option.some.injEq] at h
  obtain ⟨sample, hsample, process, hprocess, report, hreport, heartbeat, hheartbeat, filter,
    hfilter, window, hwindow, enabled, henabled, rfl⟩ := h
  have hsample := parseBoundedUint_bounds hsample
  have hprocess := parseBoundedUint_bounds hprocess
  have hreport := parseBoundedUint_bounds hreport
  have hheartbeat := parseBoundedUint_bounds hheartbeat
  have hfilter := parseBoundedUint_bounds hfilter
  have hwindow := parseBoundedUint_bounds hwindow
  have henabled := parseBoundedUint_bounds henabled
  rw [MAX_FILTER_WINDOW] at hwindow
  simp only [settingsInRange, Bool.and_eq_true, decide_eq_true_eq, UInt32.le_iff_toNat_le,
    UInt8.le_iff_toNat_le, UInt32.toNat_toUInt8, FilterType.digitalDebounce]
  simp
  omega

/-- Settings taken over from a verified write are those a boot would load. -/
theorem adopted_eq_loaded {v : StoredChannelConfiguration} (h : settingsInRange v = true)
    (n : Node) : (n.adoptConfiguration v).microphoneRuntimeConfig = Node.loadedChannelConfig v := by
  have henabled : v.enabled ≤ 1 := by
    simp only [settingsInRange, Bool.and_eq_true, decide_eq_true_eq] at h
    tauto
  have heq : (v.enabled != 0) = (v.enabled == 1) := by
    rw [UInt8.le_iff_toNat_le] at henabled
    rcases Nat.le_one_iff_eq_zero_or_eq_one.mp henabled with h0 | h1
    · have hv : v.enabled = 0 := UInt8.toNat_inj.mp h0
      rw [hv]
      rfl
    · have hv : v.enabled = 1 := UInt8.toNat_inj.mp h1
      rw [hv]
      rfl
  simp [Node.adoptConfiguration, Node.loadedChannelConfig, heq]

/-- The bounds on settings, as numbers. -/
theorem settingsInRange_storedOf (c : ChannelConfig) : settingsInRange (storedOf c) = true ↔
    (10 ≤ c.sampleIntervalMs.toNat ∧ c.sampleIntervalMs.toNat ≤ 5000) ∧
      (10 ≤ c.processingIntervalMs.toNat ∧ c.processingIntervalMs.toNat ≤ 5000) ∧
      (50 ≤ c.reportIntervalMs.toNat ∧ c.reportIntervalMs.toNat ≤ 5000) ∧
      (1000 ≤ c.heartbeatIntervalMs.toNat ∧ c.heartbeatIntervalMs.toNat ≤ 3600000) ∧
      c.filterType.toNat ≤ 4 ∧ 1 ≤ c.filterWindow.toNat ∧ c.filterWindow.toNat ≤ 9 := by
  have henabled : (storedOf c).enabled ≤ 1 := by
    simp only [storedOf]
    split <;> decide
  simp only [settingsInRange, Bool.and_eq_true, decide_eq_true_eq, henabled, true_and]
  simp [storedOf, UInt32.le_iff_toNat_le, UInt8.le_iff_toNat_le, FilterType.digitalDebounce,
    and_assoc]

/-- A safe field update keeps the settings within the bounds, and changes nothing else but the
sample interval. -/
theorem updatedField_inRange {n updated : Node} {field value : Text}
    (h : n.updatedField field value = some updated)
    (hr : settingsInRange (storedOf n.microphoneRuntimeConfig) = true) :
    settingsInRange (storedOf updated.microphoneRuntimeConfig) = true ∧
      ∃ c interval, updated =
        { n with microphoneRuntimeConfig := c, sampleIntervalMs := interval } := by
  have hparse : ∀ (name : Text) (minimum maximum : ℕ) (numeric : UInt32),
      (if field = name then parseBoundedUint value minimum maximum else none) = some numeric →
        minimum ≤ numeric.toNat ∧ numeric.toNat ≤ maximum := by
    intro name minimum maximum numeric hnumeric
    split at hnumeric
    · exact parseBoundedUint_bounds hnumeric
    · cases hnumeric
  rw [settingsInRange_storedOf] at hr ⊢
  unfold Node.updatedField at h
  dsimp only at h
  split at h
  case h_1 numeric hnumeric =>
    have hbounds := hparse _ _ _ _ hnumeric
    cases h
    exact ⟨by dsimp only; omega, _, _, rfl⟩
  case h_2 numeric hnumeric _ =>
    have hbounds := hparse _ _ _ _ hnumeric
    cases h
    exact ⟨by dsimp only; omega, _, _, rfl⟩
  case h_3 numeric hnumeric _ _ =>
    have hbounds := hparse _ _ _ _ hnumeric
    cases h
    exact ⟨by dsimp only; omega, _, _, rfl⟩
  case h_4 numeric hnumeric _ _ _ =>
    have hbounds := hparse _ _ _ _ hnumeric
    cases h
    exact ⟨by dsimp only; omega, _, _, rfl⟩
  · -- the filter names and the two values of `ENABLE`
    split_ifs at h
    all_goals cases h
    all_goals refine ⟨?_, _, _, rfl⟩
    all_goals simp [FilterType.none, FilterType.movingAverage, FilterType.exponential,
      FilterType.median]
    all_goals omega

end SeedMg24.Analysis
