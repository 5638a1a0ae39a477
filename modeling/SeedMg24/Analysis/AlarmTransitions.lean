import SeedMg24.Foundation.Debounce
import SeedMg24.Model.AlarmEngine

/-!
# Transitions of the alarm engine

A configured engine changes its state exactly when the longest run of calls that want another one
has lasted for its persistence.  The latch holds a state against the normal one only: an alarm that
is followed by a warning, or by a fault and then a good measurement, is gone.
-/

set_option autoImplicit false

namespace SeedMg24.Analysis

open Foundation SeedMg24.Model
open TelemetryEncoder (MeasurementQuality MonitoringState)

/-- One call of `evaluate`. -/
structure AlarmCall where
  value : Single
  quality : MeasurementQuality
  now : UInt32

/-- What a call returns and leaves. -/
def evaluated (e : AlarmEngine) (call : AlarmCall) : Option (AlarmTransition × AlarmEngine) :=
  e.evaluate call.value call.quality call.now

/-- The engine a call leaves. -/
def afterCall (e : AlarmEngine) (call : AlarmCall) : AlarmEngine :=
  ((evaluated e call).map Prod.snd).getD e

/-- The engine before each call. -/
def engineAt (e : AlarmEngine) (calls : ℕ → AlarmCall) : ℕ → AlarmEngine
  | 0 => e
  | k + 1 => afterCall (engineAt e calls k) (calls k)

/-- Since when a state has been wanted, if a call at `now` wants it. -/
def wantedSince (e : AlarmEngine) (desired : MonitoringState) (now : UInt32) : UInt32 :=
  if e.pendingActive = true ∧ e.pending = desired then e.pendingSince else now

/-! ## One call -/

variable {e : AlarmEngine} {c : AlarmConfig}

/-- What the engine remembers while a state is pending.
SOURCE: alarm_engine.cpp:25 -/
theorem await_eq (e : AlarmEngine) (desired : MonitoringState) (now : UInt32) :
    e.await desired now = { e with
      pending := desired
      pendingSince := wantedSince e desired now
      pendingActive := true } := by
  unfold AlarmEngine.await wantedSince
  cases hactive : e.pendingActive with
  | false => simp
  | true =>
    by_cases hpending : e.pending = desired
    · subst hpending
      rw [if_neg (by simp), if_pos ⟨rfl, rfl⟩, ← hactive]
    · rw [if_pos (.inr hpending), if_neg fun h => hpending h.2]

/-- What a call of a configured engine does: it wants the state there is, or another one not long
enough, or long enough.
SOURCE: alarm_engine.cpp:20-30 -/
theorem evaluated_cases (hc : e.config = some c) (call : AlarmCall) {desired : MonitoringState}
    (hdesired : e.latchedState call.value call.quality = desired) :
    (desired = e.state ∧ evaluated e call =
      some (⟨false, e.state, e.state, call.now, call.value⟩, { e with pendingActive := false })) ∨
    (desired ≠ e.state ∧ ¬ c.persistence desired ≤ call.now - wantedSince e desired call.now ∧
      evaluated e call = some (⟨false, e.state, e.state, call.now, call.value⟩, { e with
        pending := desired
        pendingSince := wantedSince e desired call.now
        pendingActive := true })) ∨
    (desired ≠ e.state ∧ c.persistence desired ≤ call.now - wantedSince e desired call.now ∧
      evaluated e call = some (⟨true, e.state, desired, call.now, call.value⟩, { e with
        state := desired
        pending := desired
        pendingSince := wantedSince e desired call.now
        pendingActive := false })) := by
  unfold evaluated AlarmEngine.evaluate
  rw [hdesired]
  by_cases hsame : desired = e.state
  · exact .inl ⟨hsame, if_pos hsame⟩
  · right
    rw [if_neg hsame, await_eq]
    dsimp only
    rw [hc]
    dsimp only
    by_cases hdue : c.persistence desired ≤ call.now - wantedSince e desired call.now
    · exact .inr ⟨hsame, hdue, if_neg (by simpa [NodeTelemetry.elapsedSince] using hdue)⟩
    · exact .inl ⟨hsame, hdue, if_pos (by simpa [NodeTelemetry.elapsedSince] using hdue)⟩

/-- A call keeps the configuration. -/
theorem config_afterCall (hc : e.config = some c) (call : AlarmCall) :
    (afterCall e call).config = some c := by
  unfold afterCall
  obtain ⟨-, heval⟩ | ⟨-, -, heval⟩ | ⟨-, -, heval⟩ := evaluated_cases hc call rfl <;>
  · rw [heval]
    exact hc

theorem config_engineAt (hc : e.config = some c) (calls : ℕ → AlarmCall) (k : ℕ) :
    (engineAt e calls k).config = some c := by
  induction k with
  | zero => exact hc
  | succ k ih => exact config_afterCall ih (calls k)

/-- The state a call leaves. -/
theorem state_afterCall (hc : e.config = some c) (call : AlarmCall) {desired : MonitoringState}
    (hdesired : e.latchedState call.value call.quality = desired) :
    (afterCall e call).state =
      if c.persistence desired ≤ call.now - wantedSince e desired call.now then desired
      else e.state := by
  unfold afterCall
  obtain ⟨hsame, heval⟩ | ⟨-, hdue, heval⟩ | ⟨-, hdue, heval⟩ := evaluated_cases hc call hdesired
  · rw [heval, hsame, ite_self]
    rfl
  · rw [heval, if_neg hdue]
    rfl
  · rw [heval, if_pos hdue]
    rfl

/-- What a call returns tells what it does to the state.
SOURCE: alarm_engine.cpp:24-29 -/
theorem evaluated_afterCall (hc : e.config = some c) (call : AlarmCall) :
    ∃ transition, evaluated e call = some (transition, afterCall e call) ∧
      transition.previous = e.state ∧ transition.current = (afterCall e call).state ∧
      (transition.changed = true ↔ (afterCall e call).state ≠ e.state) := by
  unfold afterCall
  obtain ⟨-, heval⟩ | ⟨-, -, heval⟩ | ⟨hother, -, heval⟩ := evaluated_cases hc call rfl
  · exact ⟨_, by rw [heval]; rfl, rfl, by rw [heval]; rfl, by simp [heval]⟩
  · exact ⟨_, by rw [heval]; rfl, rfl, by rw [heval]; rfl, by simp [heval]⟩
  · exact ⟨_, by rw [heval]; rfl, rfl, by rw [heval]; rfl, by simpa [heval] using hother⟩

/-! ## Persistence -/

/-- The engine as a machine whose changes have to persist. -/
def debounce (c : AlarmConfig) : Debounce MonitoringState AlarmCall UInt32 where
  want state call :=
    ({ config := some c, state } : AlarmEngine).latchedState call.value call.quality
  time call := call.now
  due target now since := c.persistence target ≤ now - since

instance (c : AlarmConfig) (target : MonitoringState) (now since : UInt32) :
    Decidable ((debounce c).due target now since) :=
  inferInstanceAs (Decidable (c.persistence target ≤ now - since))

/-- What such a machine sees of the engine. -/
def debounced (e : AlarmEngine) : Debounce.State MonitoringState UInt32 where
  current := e.state
  pending := if e.pendingActive then some (e.pending, e.pendingSince) else none

/-- The wanted state depends on the configuration and the state alone. -/
theorem latchedState_eq_want (hc : e.config = some c) (call : AlarmCall) :
    e.latchedState call.value call.quality = (debounce c).want e.state call := by
  unfold AlarmEngine.latchedState AlarmEngine.desiredState AlarmEngine.hysteresisIn debounce
  rw [hc]
  rfl

theorem since_debounced (e : AlarmEngine) (desired : MonitoringState) (now : UInt32) :
    (debounced e).since desired now = wantedSince e desired now := by
  unfold debounced Debounce.State.since wantedSince
  cases e.pendingActive with
  | false => rfl
  | true => simp

/-- A call is one step of the machine. -/
theorem debounced_afterCall (hc : e.config = some c) (call : AlarmCall) :
    debounced (afterCall e call) = (debounce c).step (debounced e) call := by
  have hwant := latchedState_eq_want hc call
  have hsince : (debounced e).since ((debounce c).want (debounced e).current call)
      ((debounce c).time call) = wantedSince e ((debounce c).want e.state call) call.now :=
    since_debounced e _ _
  unfold afterCall Debounce.step
  dsimp only
  rw [hsince]
  obtain ⟨hsame, heval⟩ | ⟨hother, hdue, heval⟩ | ⟨hother, hdue, heval⟩ :=
    evaluated_cases hc call hwant
  · rw [heval]
    exact (if_pos hsame).symm
  · rw [heval]
    exact ((if_neg hother).trans (if_neg hdue)).symm
  · rw [heval]
    exact ((if_neg hother).trans (if_pos hdue)).symm

/-- The engine runs as the machine does. -/
theorem debounced_engineAt (hc : e.config = some c) (calls : ℕ → AlarmCall) (k : ℕ) :
    debounced (engineAt e calls k) = (debounce c).before (debounced e) calls k := by
  induction k with
  | zero => rfl
  | succ k ih =>
    show debounced (afterCall _ _) = (debounce c).step _ _
    rw [debounced_afterCall (config_engineAt hc calls k), ih]

/-- The state a call wants, after hysteresis and the latch. -/
def wantedAt (e : AlarmEngine) (calls : ℕ → AlarmCall) (k : ℕ) : MonitoringState :=
  (engineAt e calls k).latchedState (calls k).value (calls k).quality

/-- The calls from `j` to `k` are the longest run up to `k` that wants a state, since the start or
the last change of the state. -/
structure WantsThroughout (e : AlarmEngine) (calls : ℕ → AlarmCall) (desired : MonitoringState)
    (j k : ℕ) : Prop where
  le : j ≤ k
  wants : ∀ i, j ≤ i → i ≤ k → wantedAt e calls i = desired
  quiet : ∀ i, j ≤ i → i < k → (engineAt e calls (i + 1)).state = (engineAt e calls i).state
  longest : ∀ i, i + 1 = j → (engineAt e calls (i + 1)).state ≠ (engineAt e calls i).state ∨
    wantedAt e calls i ≠ desired

/-- The longest runs of the engine are those of the machine. -/
theorem wantsThroughout_iff (hc : e.config = some c) (calls : ℕ → AlarmCall)
    (desired : MonitoringState) (j k : ℕ) : WantsThroughout e calls desired j k ↔
      (debounce c).LongestRun (debounced e) calls desired j k := by
  have hstate (i : ℕ) : ((debounce c).before (debounced e) calls i).current =
      (engineAt e calls i).state := by
    rw [← debounced_engineAt hc]
    rfl
  have hwanted (i : ℕ) : (debounce c).wanted (debounced e) calls i = wantedAt e calls i := by
    unfold Debounce.wanted
    rw [hstate]
    exact (latchedState_eq_want (config_engineAt hc calls i) (calls i)).symm
  have hchanges (i : ℕ) : (debounce c).Changes (debounced e) calls i ↔
      (engineAt e calls (i + 1)).state ≠ (engineAt e calls i).state := by
    unfold Debounce.Changes
    rw [hstate, hstate]
  constructor
  · intro h
    refine ⟨h.le, fun i h₁ h₂ => (hwanted i).trans (h.wants i h₁ h₂), fun i h₁ h₂ hchange => ?_,
      fun i hi => ?_⟩
    · exact (hchanges i).mp hchange (h.quiet i h₁ h₂)
    · rw [hchanges, hwanted]
      exact h.longest i hi
  · intro h
    refine ⟨h.le, fun i h₁ h₂ => (hwanted i).symm.trans (h.wants i h₁ h₂), fun i h₁ h₂ => ?_,
      fun i hi => ?_⟩
    · by_contra hchange
      exact h.quiet i h₁ h₂ ((hchanges i).mpr hchange)
    · rw [← hchanges, ← hwanted]
      exact h.maximal i hi

/-- An engine that is reset, or whose latch is cleared, starts as one that is configured.
SOURCE: alarm_engine.cpp:4-6 -/
theorem reset_eq_configure (hc : e.config = some c) : e.reset = e.configure (some c) := by
  unfold AlarmEngine.configure
  rw [← hc]

theorem clearLatch_eq_configure (hc : e.config = some c) :
    e.clearLatch = if c.latchingEnabled then e.configure (some c) else e := by
  unfold AlarmEngine.clearLatch
  rw [hc, ← reset_eq_configure hc]

/-- **Persistence is exact.**  Whatever is evaluated after an engine is configured: a call changes
the state to another one exactly when the longest run of calls that want it has lasted for the
clearing persistence, if that is the normal state, or else for the activation persistence, on a
clock of 32 bits; every other call leaves the state.
SOURCE: alarm_engine.cpp:8-30, sensor_types.h:72-74 -/
theorem evaluate_persistence (fresh : AlarmEngine) (c : AlarmConfig) (calls : ℕ → AlarmCall)
    (k : ℕ) :
    ∃ transition, evaluated (engineAt (fresh.configure (some c)) calls k) (calls k) =
        some (transition, engineAt (fresh.configure (some c)) calls (k + 1)) ∧
      transition.previous = (engineAt (fresh.configure (some c)) calls k).state ∧
      transition.current = (engineAt (fresh.configure (some c)) calls (k + 1)).state ∧
      (∀ desired, (transition.changed = true ∧ transition.current = desired) ↔
        desired ≠ transition.previous ∧
          ∃ j, WantsThroughout (fresh.configure (some c)) calls desired j k ∧
            (calls k).now - (calls j).now ≥ c.persistence desired) ∧
      (transition.changed = false → transition.current = transition.previous) := by
  have hc : (fresh.configure (some c)).config = some c := rfl
  have hstart : (debounced (fresh.configure (some c))).pending = none := rfl
  generalize fresh.configure (some c) = e at hc hstart
  obtain ⟨transition, heval, hprevious, hcurrent, hchanged⟩ :=
    evaluated_afterCall (config_engineAt hc calls k) (calls k)
  refine ⟨transition, heval, hprevious, hcurrent, fun desired => ?_, fun hquiet => ?_⟩
  · have hiff : (((debounce c).before (debounced e) calls (k + 1)).current = desired ∧
        (debounce c).Changes (debounced e) calls k) ↔ _ := Debounce.changes_iff hstart k desired
    unfold Debounce.Changes at hiff
    simp only [← debounced_engineAt hc, ← wantsThroughout_iff hc] at hiff
    rw [hprevious, hcurrent, hchanged, and_comm]
    exact hiff
  · rw [hprevious, hcurrent]
    by_contra hother
    rw [hchanged.mpr hother] at hquiet
    cases hquiet

/-! ## The latch -/

/-- The states the latch is for. -/
def IsAlarm (state : MonitoringState) : Prop := state = .alarmLow ∨ state = .alarmHigh

instance (state : MonitoringState) : Decidable (IsAlarm state) :=
  inferInstanceAs (Decidable (state = .alarmLow ∨ state = .alarmHigh))

/-- The states a latched alarm must not be followed by. -/
def IsReleased (state : MonitoringState) : Prop :=
  state = .normal ∨ state = .warningLow ∨ state = .warningHigh

/-- A call that takes an alarm away: long enough, a warning is desired in an alarm state, or a
warning or the normal state in an invalid or faulty one. -/
def LosesLatch (c : AlarmConfig) (e : AlarmEngine) (call : AlarmCall) : Prop :=
  IsReleased (e.desiredState call.value call.quality) ∧
    (IsAlarm e.state → e.desiredState call.value call.quality ≠ .normal) ∧
    c.persistence (e.desiredState call.value call.quality) ≤
      call.now - wantedSince e (e.desiredState call.value call.quality) call.now

/-- What the latch leaves of the desired state.
SOURCE: alarm_engine.cpp:21-23 -/
theorem latchedState_of_latching (hc : e.config = some c) (hlatch : c.latchingEnabled = true)
    (call : AlarmCall) : e.latchedState call.value call.quality =
      if IsAlarm e.state ∧ e.desiredState call.value call.quality = .normal then e.state
      else e.desiredState call.value call.quality := by
  unfold AlarmEngine.latchedState IsAlarm
  rw [hc]
  simp only [hlatch, true_and]
  rfl

/-- A call releases a state exactly when it takes the alarm away. -/
theorem isReleased_afterCall_iff (hc : e.config = some c) (hlatch : c.latchingEnabled = true)
    (hheld : ¬ IsReleased e.state) (call : AlarmCall) :
    IsReleased (afterCall e call).state ↔ LosesLatch c e call := by
  have hlatched := latchedState_of_latching hc hlatch call
  have hstate := state_afterCall hc call hlatched
  unfold LosesLatch
  by_cases hheldBack : IsAlarm e.state ∧ e.desiredState call.value call.quality = .normal
  · rw [if_pos hheldBack, ite_self] at hstate
    rw [hstate]
    exact ⟨fun h => absurd h hheld, fun h => absurd hheldBack.2 (h.2.1 hheldBack.1)⟩
  · rw [if_neg hheldBack] at hstate
    rw [hstate]
    constructor
    · intro h
      split at h
      · rename_i hdue
        exact ⟨h, fun halarm hnormal => hheldBack ⟨halarm, hnormal⟩, hdue⟩
      · exact absurd h hheld
    · rintro ⟨hreleased, -, hdue⟩
      rw [if_pos hdue]
      exact hreleased

theorem IsAlarm.not_isReleased {state : MonitoringState} (h : IsAlarm state) :
    ¬ IsReleased state := by
  rcases h with rfl | rfl <;> simp [IsReleased]

/-- **What a latch holds.**  After an alarm no state is normal or a warning if and only if no call
desires, long enough, a warning in an alarm state, or the normal state or a warning in an invalid
or faulty one.
SOURCE: alarm_engine.cpp:4-30 -/
theorem staysLatched_iff (hc : e.config = some c) (hlatch : c.latchingEnabled = true)
    (calls : ℕ → AlarmCall) :
    (∀ j k, j ≤ k → IsAlarm (engineAt e calls j).state →
        ¬ IsReleased (engineAt e calls k).state) ↔
      ∀ j k, j ≤ k → IsAlarm (engineAt e calls j).state →
        ¬ LosesLatch c (engineAt e calls k) (calls k) := by
  have hstep (k : ℕ) := isReleased_afterCall_iff (config_engineAt hc calls k) hlatch
  constructor
  · intro h j k hle halarm hloses
    exact h j (k + 1) (by omega) halarm ((hstep k (h j k hle halarm) (calls k)).mpr hloses)
  · intro h j k hle halarm
    induction k, hle using Nat.le_induction with
    | base => exact halarm.not_isReleased
    | succ k hle ih => exact fun hreleased => h j k hle halarm ((hstep k ih (calls k)).mp hreleased)

/-- An alarm from ten and a warning from five on, both at once, with a latch. -/
def latchedChannel : AlarmConfig where
  warningLow := ⟨false, .zero⟩
  warningHigh := ⟨true, .finite false 5 149⟩
  alarmLow := ⟨false, .zero⟩
  alarmHigh := ⟨true, .finite false 10 149⟩
  activationPersistenceMs := 0
  clearingPersistenceMs := 0
  hysteresis := .zero
  latchingEnabled := true

def latchedEngine : AlarmEngine := ({} : AlarmEngine).configure (some latchedChannel)

/-- Eleven first, and another value from then on. -/
def elevenThen (mantissa : Fin (2 ^ 24)) (k : ℕ) : AlarmCall where
  value := .finite false (if k = 0 then 11 else mantissa) 149
  quality := .good
  now := UInt32.ofNat k

theorem desiredState_latchedChannel (hc : e.config = some latchedChannel)
    (mantissa : Fin (2 ^ 24)) : e.desiredState (.finite false mantissa 149) .good =
      if 10 ≤ mantissa.val then .alarmHigh else if 5 ≤ mantissa.val then .warningHigh
      else .normal := by
  have hhysteresis (state : MonitoringState) : e.hysteresisIn latchedChannel state = .zero :=
    ite_self _
  have hle (threshold : Fin (2 ^ 24)) :
      ((Single.finite false threshold 149).sub .zero).le (.finite false mantissa 149) =
        decide (threshold.val ≤ mantissa.val) := by
    rw [Single.le_sub_zero rfl rfl]
    simp [Single.value, Single.isNegative, Single.magnitude]
  unfold AlarmEngine.desiredState
  rw [hc]
  simp only [hhysteresis]
  simp [latchedChannel, hle]

/-- What is desired of that channel and is not normal holds at once. -/
theorem state_afterCall_latchedChannel (hc : e.config = some latchedChannel) (call : AlarmCall)
    {desired : MonitoringState} (hdesired : e.desiredState call.value call.quality = desired)
    (hother : desired ≠ .normal) : (afterCall e call).state = desired := by
  have hpersistence (desired : MonitoringState) : latchedChannel.persistence desired = 0 :=
    ite_self _
  have hlatched := latchedState_of_latching hc rfl call
  rw [if_neg fun h => hother (hdesired.symm.trans h.2), hdesired] at hlatched
  rw [state_afterCall hc call hlatched, hpersistence, if_pos (by simp)]

/-- Nothing but values above the alarm limit. -/
theorem staysLatched_iff_eleven : IsAlarm (engineAt latchedEngine (elevenThen 11) 1).state ∧
    ¬ IsReleased (engineAt latchedEngine (elevenThen 11) 100).state := by
  have hconfig := config_engineAt (c := latchedChannel) (e := latchedEngine) rfl (elevenThen 11)
  have hdesired (k : ℕ) : (engineAt latchedEngine (elevenThen 11) k).desiredState
      (elevenThen 11 k).value (elevenThen 11 k).quality = .alarmHigh := by
    have heleven := desiredState_latchedChannel (hconfig k) 11
    unfold elevenThen
    rwa [ite_self]
  have halarm : IsAlarm (engineAt latchedEngine (elevenThen 11) 1).state :=
    .inr (state_afterCall_latchedChannel (hconfig 0) (elevenThen 11 0) (hdesired 0) (by decide))
  refine ⟨halarm, (staysLatched_iff (c := latchedChannel) rfl rfl (elevenThen 11)).mpr ?_ 1 100
    (by decide) halarm⟩
  intro j k _ _ hloses
  have hreleased := hloses.1
  rw [hdesired] at hreleased
  exact (IsAlarm.not_isReleased (.inr rfl)) hreleased

/-- A latched alarm that a warning takes away. -/
theorem not_staysLatched_warning : ¬ ∀ (c : AlarmConfig) (e : AlarmEngine)
    (calls : ℕ → AlarmCall), e.config = some c → c.latchingEnabled = true →
      ∀ j k, j ≤ k → IsAlarm (engineAt e calls j).state →
        ¬ IsReleased (engineAt e calls k).state := by
  intro h
  have hconfig := config_engineAt (c := latchedChannel) (e := latchedEngine) rfl (elevenThen 7)
  have hfirst : (engineAt latchedEngine (elevenThen 7) 1).state = .alarmHigh :=
    state_afterCall_latchedChannel (hconfig 0) (elevenThen 7 0)
      (desiredState_latchedChannel (hconfig 0) 11) (by decide)
  have hsecond : (engineAt latchedEngine (elevenThen 7) 2).state = .warningHigh :=
    state_afterCall_latchedChannel (hconfig 1) (elevenThen 7 1)
      (desiredState_latchedChannel (hconfig 1) 7) (by decide)
  refine h latchedChannel latchedEngine (elevenThen 7) rfl rfl 1 2 (by omega) ?_ ?_
  · exact .inr hfirst
  · exact .inr (.inr hsecond)

end SeedMg24.Analysis
