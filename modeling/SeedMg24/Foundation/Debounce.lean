import Mathlib.Tactic

/-!
# Changes that have to persist

A machine that wants, at every input, one of its states, and changes to it only when it has wanted
nothing else for long enough.  It remembers one wanted state and the time of the first input that
wanted it.  Which state is wanted may depend on the current one.  The machine changes exactly when
the longest run of inputs that want one state is due.
-/

set_option autoImplicit false

namespace Foundation

/-- What an input wants in a state, when it comes, and whether a change is due at a time after it
has been wanted since another. -/
structure Debounce (σ ι τ : Type) where
  want : σ → ι → σ
  time : ι → τ
  due : σ → τ → τ → Prop

namespace Debounce

/-- The current state, and a wanted one with the time it has been wanted since. -/
structure State (σ τ : Type) where
  current : σ
  pending : Option (σ × τ)

variable {σ ι τ : Type} [DecidableEq σ] (D : Debounce σ ι τ)
variable [∀ target now since, Decidable (D.due target now since)]

/-- Since when the state has been wanted, if it is wanted now. -/
def State.since (s : State σ τ) (target : σ) (now : τ) : τ :=
  match s.pending with
  | some (wanted, since) => if wanted = target then since else now
  | none => now

/-- One input. -/
def step (s : State σ τ) (i : ι) : State σ τ :=
  let target := D.want s.current i
  if target = s.current then ⟨s.current, none⟩
  else if D.due target (D.time i) (s.since target (D.time i)) then ⟨target, none⟩
  else ⟨s.current, some (target, s.since target (D.time i))⟩

/-- The state before each input. -/
def before (s : State σ τ) (inputs : ℕ → ι) : ℕ → State σ τ
  | 0 => s
  | k + 1 => D.step (before s inputs k) (inputs k)

/-- Input `k` changes the state. -/
def Changes (s : State σ τ) (inputs : ℕ → ι) (k : ℕ) : Prop :=
  (D.before s inputs (k + 1)).current ≠ (D.before s inputs k).current

/-- The state input `k` wants. -/
def wanted (s : State σ τ) (inputs : ℕ → ι) (k : ℕ) : σ :=
  D.want (D.before s inputs k).current (inputs k)

/-- The inputs from `j` to `k` are the longest run up to `k` that wants the state, since the start
or the last change. -/
structure LongestRun (s : State σ τ) (inputs : ℕ → ι) (target : σ) (j k : ℕ) : Prop where
  le : j ≤ k
  wants : ∀ i, j ≤ i → i ≤ k → D.wanted s inputs i = target
  quiet : ∀ i, j ≤ i → i < k → ¬ D.Changes s inputs i
  maximal : ∀ i, i + 1 = j → D.Changes s inputs i ∨ D.wanted s inputs i ≠ target

section Runs

variable {D} {s : State σ τ} {inputs : ℕ → ι} {target : σ} {j k : ℕ}

/-- There is one such run. -/
theorem LongestRun.start_le {j' : ℕ} (h : D.LongestRun s inputs target j k)
    (h' : D.LongestRun s inputs target j' k) : j' ≤ j := by
  by_contra hlt
  obtain ⟨i, rfl⟩ : ∃ i, j' = i + 1 := ⟨j' - 1, by omega⟩
  have hle := h'.le
  rcases h'.maximal i rfl with hchange | hother
  · exact h.quiet i (by omega) (by omega) hchange
  · exact hother (h.wants i (by omega) (by omega))

theorem LongestRun.unique {j' : ℕ} (h : D.LongestRun s inputs target j k)
    (h' : D.LongestRun s inputs target j' k) : j = j' :=
  le_antisymm (h'.start_le h) (h.start_le h')

/-- What the machine remembers before input `k`. -/
def Remembers (D : Debounce σ ι τ) [∀ target now since, Decidable (D.due target now since)]
    (s : State σ τ) (inputs : ℕ → ι) (k : ℕ) : Prop :=
  match (D.before s inputs k).pending with
  | some (target, since) => ∃ i j, k = i + 1 ∧ target ≠ (D.before s inputs k).current ∧
      ¬ D.Changes s inputs i ∧ D.LongestRun s inputs target j i ∧ since = D.time (inputs j)
  | none => ∀ i, k = i + 1 → D.Changes s inputs i ∨
      D.wanted s inputs i = (D.before s inputs k).current

/-- An input that wants another state starts a run, or goes on with the one that is remembered. -/
theorem longestRun_since (h : Remembers D s inputs k)
    (hother : D.wanted s inputs k ≠ (D.before s inputs k).current) :
    ∃ j, D.LongestRun s inputs (D.wanted s inputs k) j k ∧
      (D.before s inputs k).since (D.wanted s inputs k) (D.time (inputs k)) =
        D.time (inputs j) := by
  have halone (hstarts : ∀ i, i + 1 = k → D.Changes s inputs i ∨
      D.wanted s inputs i ≠ D.wanted s inputs k) :
      D.LongestRun s inputs (D.wanted s inputs k) k k :=
    ⟨le_refl k, fun i h₁ h₂ => by rw [le_antisymm h₂ h₁], fun i h₁ h₂ => by omega, hstarts⟩
  unfold Remembers at h
  unfold State.since
  cases hpending : (D.before s inputs k).pending with
  | none =>
    rw [hpending] at h
    refine ⟨k, halone fun i hi => ?_, rfl⟩
    rcases h i hi.symm with hchange | hsame
    · exact .inl hchange
    · exact .inr fun heq => hother (heq.symm.trans hsame)
  | some pending =>
    obtain ⟨remembered, since⟩ := pending
    rw [hpending] at h
    dsimp only at h ⊢
    obtain ⟨i, j, hk, -, hquiet, hrun, hsince⟩ := h
    subst hk
    by_cases hsame : remembered = D.wanted s inputs (i + 1)
    · rw [if_pos hsame]
      subst hsame
      refine ⟨j, ⟨by have := hrun.le; omega, fun n h₁ h₂ => ?_, fun n h₁ h₂ => ?_, hrun.maximal⟩,
        hsince⟩
      · rcases Nat.lt_or_ge i n with hn | hn
        · rw [show n = i + 1 by omega]
        · exact hrun.wants n h₁ hn
      · rcases Nat.lt_or_ge n i with hn | hn
        · exact hrun.quiet n h₁ hn
        · rw [show n = i by omega]
          exact hquiet
    · rw [if_neg hsame]
      refine ⟨i + 1, halone fun n hn => .inr fun heq => hsame ?_, rfl⟩
      rw [← heq, show n = i by omega]
      exact (hrun.wants i hrun.le (le_refl i)).symm

/-- What one input leaves. -/
theorem before_succ (s : State σ τ) (inputs : ℕ → ι) (k : ℕ) :
    D.before s inputs (k + 1) =
      if D.wanted s inputs k = (D.before s inputs k).current then
        ⟨(D.before s inputs k).current, none⟩
      else if D.due (D.wanted s inputs k) (D.time (inputs k))
          ((D.before s inputs k).since (D.wanted s inputs k) (D.time (inputs k))) then
        ⟨D.wanted s inputs k, none⟩
      else ⟨(D.before s inputs k).current, some (D.wanted s inputs k,
        (D.before s inputs k).since (D.wanted s inputs k) (D.time (inputs k)))⟩ := rfl

/-- A change is one to the wanted state. -/
theorem Changes.current_eq (h : D.Changes s inputs k) :
    (D.before s inputs (k + 1)).current = D.wanted s inputs k := by
  have hnext := before_succ (D := D) s inputs k
  unfold Changes at h
  split at hnext
  · rw [hnext] at h
    exact absurd rfl h
  · split at hnext
    · rw [hnext]
    · rw [hnext] at h
      exact absurd rfl h

/-- A machine that starts with nothing pending always remembers the run it is in. -/
theorem remembers (hstart : s.pending = none) (k : ℕ) : Remembers D s inputs k := by
  induction k with
  | zero =>
    unfold Remembers
    rw [show (D.before s inputs 0).pending = none from hstart]
    exact fun i hi => absurd hi (by omega)
  | succ k ih =>
    unfold Remembers
    have hnext := before_succ (D := D) s inputs k
    split at hnext
    · rename_i hsame
      rw [hnext]
      intro i hi
      obtain rfl : k = i := by omega
      exact .inr hsame
    · rename_i hother
      obtain ⟨j, hrun, hsince⟩ := longestRun_since ih hother
      split at hnext
      · rw [hnext]
        intro i hi
        obtain rfl : k = i := by omega
        refine .inl ?_
        unfold Changes
        rw [hnext]
        exact hother
      · rw [hnext]
        refine ⟨k, j, rfl, hother, ?_, hrun, hsince⟩
        unfold Changes
        rw [hnext]
        exact fun h => h rfl

/-- **When the machine changes.**  Input `k` changes the state to another one exactly when the
longest run of inputs up to `k` that want it is due. -/
theorem changes_iff (hstart : s.pending = none) (k : ℕ) (target : σ) :
    ((D.before s inputs (k + 1)).current = target ∧ D.Changes s inputs k) ↔
      target ≠ (D.before s inputs k).current ∧ ∃ j, D.LongestRun s inputs target j k ∧
        D.due target (D.time (inputs k)) (D.time (inputs j)) := by
  have hnext := before_succ (D := D) s inputs k
  have hmemory : Remembers D s inputs k := remembers hstart k
  unfold Changes
  constructor
  · rintro ⟨rfl, hchange⟩
    refine ⟨hchange, ?_⟩
    split at hnext
    · rw [hnext] at hchange
      exact absurd rfl hchange
    rename_i hother
    split at hnext
    · rename_i hdue
      obtain ⟨j, hrun, hsince⟩ := longestRun_since hmemory hother
      rw [hnext]
      rw [hsince] at hdue
      exact ⟨j, hrun, hdue⟩
    · rw [hnext] at hchange
      exact absurd rfl hchange
  · rintro ⟨hother, j, hrun, hdue⟩
    have hwanted : D.wanted s inputs k = target := hrun.wants k hrun.le (le_refl k)
    subst hwanted
    obtain ⟨j', hrun', hsince⟩ := longestRun_since hmemory hother
    obtain rfl := hrun.unique hrun'
    rw [if_neg hother, hsince, if_pos hdue] at hnext
    rw [hnext]
    exact ⟨rfl, hother⟩

end Runs

end Debounce

end Foundation
