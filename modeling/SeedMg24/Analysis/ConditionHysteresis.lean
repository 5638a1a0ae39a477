import SeedMg24.Analysis.ConditionRuns
import SeedMg24.Foundation.TrailingRuns

/-!
# Changes of the condition

Of the windows that were evaluated since the baseline was learned again for the last time, the
number of those in the end that want the same state is what is counted as pending, if that state is
not held already.  So the state is taken on exactly when as many in a row as have to persist wanted
it, or when the first `NORMAL` ends the learning.
-/

set_option autoImplicit false

namespace SeedMg24.Analysis

open Foundation SeedMg24.Model.ConditionService ConditionRuns

namespace ConditionHysteresis

variable {K : Type}

/-- The states that have to persist. -/
def IsVerdict (state : ConditionState) : Prop :=
  state = .normal ∨ state = .elevated ∨ state = .significantChange

theorem isVerdict_iff (state : ConditionState) : IsVerdict state ↔
    ¬ (state = .invalid ∨ state = .baselinePending ∨ state = .insufficientData) := by
  unfold IsVerdict
  cases state <;> decide

/-- What is pending is how often the last windows wanted a state that is not held. -/
structure Counts (persistenceWindows : ℕ) (held : HeldState) (evaluated : List ConditionState) :
    Prop where
  below : held.pendingCount < persistenceWindows
  trailing : ∀ target, IsVerdict target → held.state ≠ some target →
    trailing target evaluated = if held.pendingState = some target then held.pendingCount else 0

theorem counts_empty {persistenceWindows : ℕ} (h : 0 < persistenceWindows) (state : Option ConditionState) :
    Counts persistenceWindows { state } [] where
  below := h
  trailing _ _ _ := rfl

/-- A state that is taken on, or held. -/
theorem counts_settled {persistenceWindows : ℕ} (h : 0 < persistenceWindows)
    (evaluated : List ConditionState) (state : ConditionState) :
    Counts persistenceWindows { state := some state } (evaluated ++ [state]) where
  below := h
  trailing target _ hne := by
    rw [trailing_snoc, if_neg fun heq => hne (congrArg some heq)]
    rfl

/-- How often a state was wanted when a window wants it. -/
theorem trailing_wanted {persistenceWindows : ℕ} {held : HeldState}
    {evaluated : List ConditionState} (h : Counts persistenceWindows held evaluated)
    {state : ConditionState} (hverdict : IsVerdict state) (hheld : held.state ≠ some state) :
    trailing state (evaluated ++ [state]) = held.pendingWith state := by
  unfold HeldState.pendingWith
  rw [trailing_snoc, if_pos rfl, h.trailing state hverdict hheld]
  split
  · rfl
  · rfl

/-- One window.
SOURCE: vibration_condition.py:161-177 -/
theorem counts_hysteresis {persistenceWindows : ℕ} {held : HeldState}
    {evaluated : List ConditionState} (h : Counts persistenceWindows held evaluated)
    (hpos : 0 < persistenceWindows) (state : ConditionState) :
    Counts persistenceWindows (hysteresis persistenceWindows held state) (evaluated ++ [state]) := by
  unfold hysteresis
  split_ifs with hplain hheld hdue
  · exact counts_settled hpos evaluated state
  · rw [hheld]
    exact counts_settled hpos evaluated state
  · exact counts_settled hpos evaluated state
  · have hwanted := trailing_wanted h ((isVerdict_iff state).mpr hplain) hheld
    refine ⟨?_, fun target htarget hne => ?_⟩
    · exact not_le.mp fun hle => hdue (.inl hle)
    · by_cases heq : state = target
      · subst heq
        rw [if_pos rfl]
        exact hwanted
      · rw [if_neg fun hsome => heq (Option.some.inj hsome), trailing_snoc, if_neg heq]

/-- **When one window changes the state.** -/
theorem hysteresis_state_iff {persistenceWindows : ℕ} {held : HeldState}
    {evaluated : List ConditionState} (h : Counts persistenceWindows held evaluated)
    (hpos : 0 < persistenceWindows) (state : ConditionState) {target : ConditionState}
    (htarget : IsVerdict target) (hne : held.state ≠ some target) :
    (hysteresis persistenceWindows held state).state = some target ↔
      List.replicate persistenceWindows target <:+ evaluated ++ [state] ∨
        (held.state = some .baselinePending ∧ target = .normal ∧ state = .normal) := by
  -- a window that wants another state neither ends such a row nor brings the state
  have hother (hstate : state ≠ target) :
      ¬ (List.replicate persistenceWindows target <:+ evaluated ++ [state] ∨
        (held.state = some .baselinePending ∧ target = .normal ∧ state = .normal)) := by
    rintro (hsuffix | ⟨_, rfl, rfl⟩)
    · rw [← le_trailing_iff, trailing_snoc, if_neg hstate] at hsuffix
      omega
    · exact hstate rfl
  unfold hysteresis
  split_ifs with hplain hheld hdue
  · have hstate : state ≠ target := by
      rintro rfl
      exact (isVerdict_iff _).mp htarget hplain
    exact iff_of_false (fun h => hstate (Option.some.inj h)) (hother hstate)
  · have hstate : state ≠ target := fun heq => hne (heq ▸ hheld)
    exact iff_of_false hne (hother hstate)
  · by_cases hstate : state = target
    · subst hstate
      refine iff_of_true rfl ?_
      rw [← trailing_wanted h htarget hne, le_trailing_iff] at hdue
      exact hdue.imp_right fun hfirst => ⟨hfirst.1, hfirst.2, hfirst.2⟩
    · exact iff_of_false (fun h => hstate (Option.some.inj h)) (hother hstate)
  · refine iff_of_false hne ?_
    by_cases hstate : state = target
    · subst hstate
      rw [← trailing_wanted h htarget hne, le_trailing_iff] at hdue
      exact fun hright => hdue (hright.imp_right fun hfirst => ⟨hfirst.1, hfirst.2.1⟩)
    · exact hother hstate

/-! ## Runs -/

variable (service : VibrationConditionService) (A : Arithmetic K)

/-- The state of the condition, and what is pending. -/
def heldIn (rows : DeviceRows K) : HeldState := (rows.condition.map (·.held)).getD {}

/-- The state of the condition, if there is one. -/
def stateIn (rows : DeviceRows K) : Option ConditionState := rows.condition.map (·.state)

theorem heldIn_state (rows : DeviceRows K) : (heldIn rows).state = stateIn rows := by
  unfold heldIn stateIn
  cases rows.condition <;> rfl

/-- A call, made when the device has an installation. -/
def nextCall (j : Journal K) (event : Option Text × Call K) : Journal K :=
  next service A j event.1 event.2

/-- A call changes the state to one of the three that have to persist exactly at a window that is no
duplicate, if the state was another and as many windows in a row as have to persist, with this one
and all since the last relearn, were evaluated to it, or if `BASELINE_PENDING` ends with a window
that was evaluated to `NORMAL`. -/
def ChangesExactly (j : Journal K) (event : Option Text × Call K) : Prop :=
  ∀ target, IsVerdict target →
    ((stateIn (nextCall service A j event).rows = some target ∧ stateIn j.rows ≠ some target) ↔
      ∃ state, (nextCall service A j event).evaluated = j.evaluated ++ [state] ∧
        ((stateIn j.rows ≠ some target ∧
            List.replicate service.persistenceWindows target <:+ j.evaluated ++ [state]) ∨
          (stateIn j.rows = some .baselinePending ∧ target = .normal ∧ state = .normal)))

/-- Fewer windows are pending than have to persist. -/
def PendingBelow (j : Journal K) : Prop :=
  ∀ condition, j.rows.condition = some condition →
    condition.pendingCount < service.persistenceWindows

/-- The journal counts what is pending. -/
def IsCounted (j : Journal K) : Prop :=
  Counts service.persistenceWindows (heldIn j.rows) j.evaluated

/-- The default of a new row is no state that has to persist. -/
theorem counts_written {persistenceWindows : ℕ} {held : HeldState} {evaluated : List ConditionState}
    (h : Counts persistenceWindows held evaluated) :
    Counts persistenceWindows { held with state := some (held.state.getD .baselinePending) }
      evaluated where
  below := h.below
  trailing target htarget hne := by
    refine h.trailing target htarget fun heq => hne ?_
    rw [heq]
    rfl

variable {service A}

theorem isCounted_next {j : Journal K} (h : IsCounted service j) (event : Option Text × Call K) :
    IsCounted service (nextCall service A j event) := by
  obtain ⟨installationId, call⟩ := event
  show IsCounted service (next service A j installationId call)
  have hchange := change_next service A j installationId call
  generalize next service A j installationId call = after at hchange
  cases hchange with
  | kept => exact h
  | duplicate => exact h
  | processed delivery assessment =>
    exact counts_written (counts_hysteresis h service.persistenceWindows_pos assessment.state)
  | relearned => exact counts_empty service.persistenceWindows_pos _

theorem changesExactly_of_isCounted {j : Journal K} (h : IsCounted service j)
    (event : Option Text × Call K) : ChangesExactly service A j event := by
  intro target htarget
  obtain ⟨installationId, call⟩ := event
  show (stateIn (next service A j installationId call).rows = some target ∧ _ ↔
    ∃ state, (next service A j installationId call).evaluated = j.evaluated ++ [state] ∧ _)
  have hchange := change_next service A j installationId call
  generalize next service A j installationId call = after at hchange
  cases hchange with
  | kept =>
    constructor
    · exact fun hboth => absurd hboth.1 hboth.2
    · rintro ⟨state, heq, _⟩
      exact absurd heq (by simp)
  | duplicate =>
    constructor
    · exact fun hboth => absurd hboth.1 hboth.2
    · rintro ⟨state, heq, _⟩
      exact absurd heq (by simp)
  | processed delivery assessment =>
    have hwritten : stateIn (rowsAfter service j.rows installationId delivery assessment) =
          some target ↔
        (hysteresis service.persistenceWindows (heldIn j.rows) assessment.state).state =
          some target := by
      show some ((hysteresis service.persistenceWindows (heldIn j.rows) assessment.state).state.getD
        .baselinePending) = some target ↔ _
      cases (hysteresis service.persistenceWindows (heldIn j.rows) assessment.state).state with
      | some state => rfl
      | none =>
        refine iff_of_false (fun heq => ?_) nofun
        have hpending : ConditionState.baselinePending = target := Option.some.inj heq
        exact (isVerdict_iff target).mp htarget (.inr (.inl hpending.symm))
    rw [hwritten]
    constructor
    · rintro ⟨hstate, hne⟩
      have hcases := (hysteresis_state_iff h service.persistenceWindows_pos assessment.state htarget
        (heldIn_state j.rows ▸ hne)).mp hstate
      rw [heldIn_state] at hcases
      exact ⟨assessment.state, rfl, hcases.imp_left fun hsuffix => ⟨hne, hsuffix⟩⟩
    · rintro ⟨state, heq, hcases⟩
      obtain rfl : assessment.state = state := by simpa using heq
      have hne : stateIn j.rows ≠ some target := by
        rcases hcases with ⟨hne, _⟩ | ⟨hpending, rfl, _⟩
        · exact hne
        · rw [hpending]
          decide
      refine ⟨?_, hne⟩
      rw [hysteresis_state_iff h service.persistenceWindows_pos assessment.state htarget
        (heldIn_state j.rows ▸ hne), heldIn_state]
      exact hcases.imp_left And.right
  | relearned =>
    constructor
    · rintro ⟨heq, _⟩
      have hpending : ConditionState.baselinePending = target := Option.some.inj heq
      subst hpending
      exact absurd (by tauto) ((isVerdict_iff _).mp htarget)
    · rintro ⟨state, heq, _⟩
      exact absurd heq (by simp)

theorem pendingBelow_of_isCounted {j : Journal K} (h : IsCounted service j) :
    PendingBelow service j := by
  intro condition hcondition
  have hbelow := h.below
  unfold heldIn at hbelow
  rw [hcondition] at hbelow
  exact hbelow

variable (service A)

/-- **The hysteresis of the condition is exact.**  Along every run of calls, made with any
installations, every call changes the state exactly as it has to, and fewer windows are pending than
have to persist.
SOURCE: vibration_condition.py:133-181, 245-258 -/
theorem changesExactly_run (events : List (Option Text × Call K)) :
    Runs.Throughout (nextCall service A) (ChangesExactly service A) {} events ∧
      Runs.Always (nextCall service A) (PendingBelow service) {} events := by
  have hstart : IsCounted service ({} : Journal K) :=
    counts_empty service.persistenceWindows_pos none
  have hcounted (before : List (Option Text × Call K)) :
      IsCounted service (Runs.after (nextCall service A) {} before) :=
    Runs.after_invariant (nextCall service A) hstart (fun _ e h => isCounted_next h e) before
  constructor
  · intro before event _
    exact changesExactly_of_isCounted (hcounted before) event
  · intro before _
    exact pendingBelow_of_isCounted (hcounted before)

end ConditionHysteresis

end SeedMg24.Analysis
