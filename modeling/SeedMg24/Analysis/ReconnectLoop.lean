import SeedMg24.Model.DeviceConnection

/-!
# How long the reconnect loop lives

A delay is computed from the number of failures since the last stable connection, and the power of
two in it has no float once there were 1024 of them.  Up to there the delays are positive, bounded
and growing, and the loop is only left because it was told to.
-/

set_option autoImplicit false

namespace SeedMg24.Analysis

open Foundation Foundation.Runs Model Model.ReconnectLoop

/-! ## Delays -/

theorem reconnectDelay_of_le {initial maximum : PositiveFloat} {n : ℤ} (h : n ≤ 1023) :
    reconnectDelay initial maximum n =
      .ok (PositiveFloat.minimum (initial.scale (max 0 n).toNat) maximum) := by
  unfold reconnectDelay timesPowerOfTwo
  rw [if_neg (by omega)]
  rfl

theorem reconnectDelay_of_lt {initial maximum : PositiveFloat} {n : ℤ} (h : 1023 < n) :
    reconnectDelay initial maximum n = .error .overflowError := by
  unfold reconnectDelay timesPowerOfTwo
  rw [if_pos (by omega)]
  rfl

/-- A delay comes out, positive and bounded, up to 1023 failures.
SOURCE: connection.py:19-20 -/
theorem reconnectDelay_bounded_iff (initial maximum : PositiveFloat) (n : ℤ) :
    (∃ delay, reconnectDelay initial maximum n = .ok delay ∧ 0 < delay.value ∧ delay ≤ maximum) ↔
      n ≤ 1023 := by
  constructor
  · rintro ⟨delay, hdelay, -⟩
    by_contra hlarge
    rw [reconnectDelay_of_lt (by omega)] at hdelay
    cases hdelay
  · intro h
    exact ⟨_, reconnectDelay_of_le h, PositiveFloat.value_pos _, PositiveFloat.minimum_le_right _ _⟩

/-- Up to there a delay is at least as long as the one before.
SOURCE: connection.py:19-20 -/
theorem reconnectDelay_mono (initial maximum : PositiveFloat) {n k : ℤ} (hle : n ≤ k)
    (hk : k ≤ 1023) :
    ∃ shorter longer, reconnectDelay initial maximum n = .ok shorter ∧
      reconnectDelay initial maximum k = .ok longer ∧ shorter ≤ longer := by
  refine ⟨_, _, reconnectDelay_of_le (by omega), reconnectDelay_of_le hk, ?_⟩
  apply PositiveFloat.minimum_mono
  apply PositiveFloat.scale_mono
  omega

/-! ## The loop -/

/-- The loop was not left by an exception: it runs, or was stopped, broken off or cancelled. -/
def NotRaised (s : ReconnectLoop) : Prop := ∀ error, s.point ≠ .ended (.raised error)

/-- When the loop goes on to back off, the connection was a stable one, or at most 1023 failures
were counted before it. -/
def CountInRange (settings : ConnectionSettings) (s : ReconnectLoop) (e : LoopEvent) : Prop :=
  ∀ connectedDuration, s.point = .reportingError connectedDuration → e = .callbackReturns →
    settings.stableSeconds ≤ connectedDuration ∨ s.failureCount ≤ 1023

theorem notRaised_loopTest (s : ReconnectLoop) : NotRaised s.loopTest := by
  intro error h
  unfold loopTest at h
  split at h <;> cases h

/-- Backing off raises exactly when the count leaves the range. -/
theorem notRaised_backOff (settings : ConnectionSettings) (s : ReconnectLoop) (d : ℚ) :
    NotRaised (s.backOff settings d) ↔ settings.stableSeconds ≤ d ∨ s.failureCount ≤ 1023 := by
  unfold backOff
  dsimp only
  by_cases hstable : settings.stableSeconds ≤ d
  · rw [if_pos hstable, reconnectDelay_of_le (show (0 : ℤ) ≤ 1023 by norm_num)]
    simp [NotRaised, hstable]
  · rw [if_neg hstable]
    by_cases hcount : s.failureCount ≤ 1023
    · rw [reconnectDelay_of_le hcount]
      simp [NotRaised, hcount]
    · rw [reconnectDelay_of_lt (by omega)]
      constructor
      · intro h
        exact absurd rfl (h .overflowError)
      · rintro (h | h)
        · exact absurd h hstable
        · exact absurd h hcount

/-- One event: the loop is left by an exception exactly when it backs off out of range. -/
theorem notRaised_next (settings : ConnectionSettings) (s : ReconnectLoop) (e : LoopEvent)
    (h : NotRaised s) : NotRaised (next settings s e) ↔ CountInRange settings s e := by
  have hother : (∀ d, s.point = .reportingError d → e ≠ .callbackReturns) →
      NotRaised (next settings s e) → (NotRaised (next settings s e) ↔ CountInRange settings s e) :=
    fun hne hnext => ⟨fun _ d hd he => absurd he (hne d hd), fun _ => hnext⟩
  cases e with
  | stopSet => exact hother (fun _ _ => by simp) h
  | forceDisconnectSet => exact hother (fun _ _ => by simp) h
  | cancelled =>
    refine hother (fun _ _ => by simp) ?_
    intro error hended
    simp only [next] at hended
    split at hended
    · exact h error hended
    · cases hended
  | callbackReturns =>
    cases hpoint : s.point with
    | reportingError d =>
      simp only [next, hpoint]
      rw [notRaised_backOff]
      constructor
      · intro hrange d' hd' _
        rw [hpoint] at hd'
        cases hd'
        exact hrange
      · intro hrange
        exact hrange d hpoint rfl
    | connecting | backingOff delay =>
      refine hother (by simp [hpoint]) ?_
      simp [next, hpoint, NotRaised]
    | connected | waiting delay | ended reason =>
      refine hother (by simp [hpoint]) ?_
      simp only [next, hpoint]
      exact h
  | connectionCloses connectedFor =>
    refine hother (fun _ _ => by simp) ?_
    intro error hended
    simp only [next] at hended
    split at hended
    · split at hended <;> cases hended
    · exact h error hended
  | connectionFails connectedFor =>
    refine hother (fun _ _ => by simp) ?_
    intro error hended
    simp only [next] at hended
    split at hended
    · cases hended
    · exact h error hended
  | waitEnds =>
    refine hother (fun _ _ => by simp) ?_
    simp only [next]
    split
    · exact notRaised_loopTest _
    · exact h

/-- **How long the reconnect loop lives.**  A delay in `(0, maximum]` comes out exactly up to 1023
failures, and the delays grow up to there; and along a run the loop is never left by an exception
exactly when it never backs off with a higher count.
SOURCE: connection.py:19-20, 99-127 -/
theorem reconnectLoop_survives_iff (settings : ConnectionSettings) :
    (∀ n : ℤ, (∃ delay, reconnectDelay settings.initialBackoff settings.maxBackoff n = .ok delay ∧
        0 < delay.value ∧ delay ≤ settings.maxBackoff) ↔ n ≤ 1023) ∧
      (∀ n k : ℤ, n ≤ k → k ≤ 1023 → ∃ shorter longer,
        reconnectDelay settings.initialBackoff settings.maxBackoff n = .ok shorter ∧
        reconnectDelay settings.initialBackoff settings.maxBackoff k = .ok longer ∧
        shorter ≤ longer) ∧
      ∀ (stop : Bool) (events : List LoopEvent),
        Always (next settings) NotRaised (start stop) events ↔
          Throughout (next settings) (CountInRange settings) (start stop) events := by
  refine ⟨reconnectDelay_bounded_iff _ _, fun n k hle hk => reconnectDelay_mono _ _ hle hk, ?_⟩
  intro stop events
  exact always_iff_throughout (next settings) (I := fun _ => True) trivial (notRaised_loopTest _)
    (fun _ _ _ => trivial) fun s e _ hs => notRaised_next settings s e hs

/-! ## A loop that dies -/

/-- The defaults of the gateway: one second, a minute and half a minute.
SOURCE: config.py:21-23 -/
def defaultSettings : ConnectionSettings where
  initialBackoff := .finite ⟨1, 1, 0, by norm_num⟩
  maxBackoff := .finite ⟨60, 60, 0, by norm_num⟩
  stableSeconds := 30
  ordered := WithTop.coe_le_coe.mpr (by norm_num)

/-- One attempt at a device out of range, and the wait after it. -/
def failedAttempt : List LoopEvent :=
  [.callbackReturns, .connectionFails none, .callbackReturns, .callbackReturns, .waitEnds]

/-- Up to 1024 failed attempts the loop only counts them. -/
theorem after_failedAttempts {k : ℕ} (h : k ≤ 1024) :
    after (next defaultSettings) (start false) (List.replicate k failedAttempt).flatten =
      ⟨false, false, k, .connecting⟩ := by
  induction k with
  | zero => rfl
  | succ k ih =>
    rw [List.replicate_succ', List.flatten_append, after_append, ih (by omega)]
    have hdelay := @reconnectDelay_of_le defaultSettings.initialBackoff
      defaultSettings.maxBackoff k (by omega)
    have hshort : ¬ (0 : ℚ) ≥ defaultSettings.stableSeconds := by
      show ¬ (0 : ℚ) ≥ 30
      norm_num
    simp [failedAttempt, next, backOff, hshort, hdelay, loopTest]

/-- **The loop dies at a device that stays out of range**: the delay after the 1025th failed attempt
is an `OverflowError`, raised outside the `try`, and nothing asked the loop to end.
SOURCE: connection.py:119, 20 -/
theorem reconnectLoop_dies :
    reconnectDelay defaultSettings.initialBackoff defaultSettings.maxBackoff 1024 =
        .error .overflowError ∧
      (after (next defaultSettings) (start false) ((List.replicate 1024 failedAttempt).flatten ++
        [.callbackReturns, .connectionFails none, .callbackReturns])).point =
          .ended (.raised .overflowError) := by
  refine ⟨reconnectDelay_of_lt (by norm_num), ?_⟩
  have hdelay := @reconnectDelay_of_lt defaultSettings.initialBackoff
    defaultSettings.maxBackoff 1024 (by norm_num)
  have hshort : ¬ (0 : ℚ) ≥ defaultSettings.stableSeconds := by
    show ¬ (0 : ℚ) ≥ 30
    norm_num
  rw [after_append, after_failedAttempts (le_refl _)]
  simp [next, backOff, hshort, hdelay]

end SeedMg24.Analysis
