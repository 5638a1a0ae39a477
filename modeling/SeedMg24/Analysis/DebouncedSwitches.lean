import SeedMg24.Foundation.Debounce
import SeedMg24.Model.Filters

/-!
# Debounced switches flip on a full run

The filter of the firmware keeps a candidate and how often it was seen.  It simulates the machine
that waits for a change to persist, where time is the number of the sample and a change is due after
the required number of them.
-/

set_option autoImplicit false

namespace SeedMg24.Analysis

open Foundation Model

/-- The machine a filter simulates: the sample is wanted, and its number is the time. -/
def switch (required : ℕ) : Debounce Bool (Bool × ℕ) ℕ where
  want _ sample := sample.1
  time sample := sample.2
  due _ now since := required ≤ now - since + 1

instance (required : ℕ) (target : Bool) (now since : ℕ) :
    Decidable ((switch required).due target now since) :=
  inferInstanceAs (Decidable (required ≤ now - since + 1))

/-- The samples with their numbers. -/
def numbered (samples : ℕ → Bool) (k : ℕ) : Bool × ℕ := (samples k, k)

/-- A filter before sample `k` stands for a state of the machine. -/
structure Simulates (required k : ℕ) (f : DigitalDebounceFilter) (s : Debounce.State Bool ℕ) :
    Prop where
  required_eq : f.required = required
  output_eq : f.output = s.current
  idle : s.pending = none → f.count = 0 ∧ f.candidate = f.output
  counting : ∀ target since, s.pending = some (target, since) →
    f.candidate = target ∧ target ≠ f.output ∧ since + f.count = k ∧ f.count < required

/-- **One sample**: the filter goes on simulating the machine. -/
theorem Simulates.update {required k : ℕ} {f : DigitalDebounceFilter} {s : Debounce.State Bool ℕ}
    (h : Simulates required k f s) (value : Bool) :
    Simulates required (k + 1) (f.update value).2 ((switch required).step s (value, k)) := by
  obtain ⟨hrequired, houtput, hidle, hcounting⟩ := h
  have hpos := f.required_pos
  unfold DigitalDebounceFilter.update Debounce.step
  have hwant : (switch required).want s.current (value, k) = value := rfl
  have htime : (switch required).time (value, k) = k := rfl
  rw [hwant, htime]
  dsimp only
  by_cases hsame : value = f.output
  · rw [if_pos hsame, if_pos (hsame.trans houtput)]
    exact ⟨hrequired, houtput, fun _ => ⟨rfl, hsame⟩, nofun⟩
  have hcurrent : ¬ value = s.current := houtput ▸ hsame
  rw [if_neg hsame, if_neg hcurrent]
  cases hpending : s.pending with
  | none =>
    obtain ⟨hcount, hcandidate⟩ := hidle hpending
    have hsince : s.since value k = k := by
      unfold Debounce.State.since
      rw [hpending]
    have hdue : (switch required).due value k k ↔ 1 ≥ f.required := by
      show required ≤ k - k + 1 ↔ _
      omega
    have hstarts : value ≠ f.candidate := hcandidate ▸ hsame
    rw [hsince, if_pos hstarts]
    dsimp only
    by_cases hfull : 1 ≥ f.required
    · rw [if_pos hfull, if_pos (hdue.mpr hfull)]
      exact ⟨hrequired, rfl, fun _ => ⟨rfl, rfl⟩, nofun⟩
    · rw [if_neg hfull, if_neg (hdue.not.mpr hfull)]
      refine ⟨hrequired, houtput, nofun, fun target since heq => ?_⟩
      cases heq
      exact ⟨rfl, hsame, rfl, by show 1 < required; omega⟩
  | some pending =>
    obtain ⟨target, since⟩ := pending
    obtain ⟨hcandidate, hother, hnumber, hcount⟩ := hcounting target since hpending
    -- of two values one is the output, and the other the candidate
    have htarget : target = value := by
      cases target <;> cases value <;> simp_all
    subst htarget
    have hsince : s.since target k = since := by
      unfold Debounce.State.since
      rw [hpending]
      exact if_pos rfl
    have hdue : (switch required).due target k since ↔ f.count + 1 ≥ f.required := by
      show required ≤ k - since + 1 ↔ _
      omega
    have hroom : f.count < f.required := hrequired ▸ hcount
    rw [hsince, if_neg (not_not.mpr hcandidate.symm), if_pos hroom]
    dsimp only
    by_cases hfull : f.count + 1 ≥ f.required
    · rw [if_pos hfull, if_pos (hdue.mpr hfull)]
      exact ⟨hrequired, hcandidate, fun _ => ⟨rfl, rfl⟩, nofun⟩
    · rw [if_neg hfull, if_neg (hdue.not.mpr hfull)]
      refine ⟨hrequired, houtput, nofun, fun target' since' heq => ?_⟩
      cases heq
      exact ⟨hcandidate, hother, by show since + (f.count + 1) = k + 1; omega,
        by show f.count + 1 < required; omega⟩

/-- The filter before each sample. -/
def filterBefore (f : DigitalDebounceFilter) (samples : ℕ → Bool) : ℕ → DigitalDebounceFilter
  | 0 => f
  | k + 1 => ((filterBefore f samples k).update (samples k)).2

/-- Sample `k` changes the output. -/
def Flips (f : DigitalDebounceFilter) (samples : ℕ → Bool) (k : ℕ) : Prop :=
  (filterBefore f samples (k + 1)).output ≠ (filterBefore f samples k).output

/-- The start of the machine. -/
def switchStart (initial : Bool) : Debounce.State Bool ℕ := ⟨initial, none⟩

variable {f : DigitalDebounceFilter} {required k : ℕ} {initial : Bool} {samples : ℕ → Bool}

/-- **A whole run** simulates the machine. -/
theorem simulates_filterBefore (h : Simulates required 0 f (switchStart initial)) (k : ℕ) :
    Simulates required k (filterBefore f samples k)
      ((switch required).before (switchStart initial) (numbered samples) k) := by
  induction k with
  | zero => exact h
  | succ k ih => exact ih.update (samples k)

/-- What `update` returns is the output it leaves. -/
theorem update_fst (f : DigitalDebounceFilter) (value : Bool) :
    (f.update value).1 = (f.update value).2.output := by
  unfold DigitalDebounceFilter.update
  split
  · rfl
  · rfl

theorem flips_iff_changes (h : Simulates required 0 f (switchStart initial)) :
    Flips f samples k ↔
      (switch required).Changes (switchStart initial) (numbered samples) k := by
  unfold Flips Debounce.Changes
  rw [(simulates_filterBefore h (k + 1)).output_eq, (simulates_filterBefore h k).output_eq]

/-- **Debounce flips exactly on a full run.**  After a filter was configured and reset, a sample
changes the output exactly when the last samples, as many as are required and none of them before
the reset or a change, differ from the output; and `update` returns the output it leaves. -/
theorem flips_iff (f : DigitalDebounceFilter) (required : UInt8) (initial : Bool)
    (samples : ℕ → Bool) (k : ℕ) :
    let start := (f.configure required).reset initial
    let needed := max 1 required.toNat
    (Flips start samples k ↔ needed ≤ k + 1 ∧ ∀ i, k + 1 - needed ≤ i → i ≤ k →
      samples i ≠ (filterBefore start samples k).output ∧ (i < k → ¬ Flips start samples i)) ∧
    ((filterBefore start samples k).update (samples k)).1 =
      (filterBefore start samples (k + 1)).output := by
  intro start needed
  have hneeded : start.required = needed := by
    have hsmall : required < 1 ↔ required.toNat < 1 := UInt8.lt_iff_toNat_lt
    show (if required < 1 then 1 else required.toNat) = max 1 required.toNat
    by_cases hzero : required < 1
    · have htoNat := hsmall.mp hzero
      rw [if_pos hzero]
      omega
    · have htoNat : ¬ required.toNat < 1 := fun h => hzero (hsmall.mpr h)
      rw [if_neg hzero]
      omega
  have hstart : Simulates needed 0 start (switchStart initial) :=
    ⟨hneeded, rfl, fun _ => ⟨rfl, rfl⟩, nofun⟩
  -- the run of the machine the filter simulates
  let M := switch needed
  let s := switchStart initial
  let inputs := numbered samples
  have houtput : (filterBefore start samples k).output = (M.before s inputs k).current :=
    (simulates_filterBefore hstart k).output_eq
  have hchanges : ((M.before s inputs (k + 1)).current = samples k ∧ M.Changes s inputs k) ↔
      samples k ≠ (M.before s inputs k).current ∧ ∃ j, M.LongestRun s inputs (samples k) j k ∧
        needed ≤ k - j + 1 := Debounce.changes_iff rfl k (samples k)
  refine ⟨?_, update_fst _ _⟩
  rw [houtput]
  constructor
  · intro hflips
    have hchange := (flips_iff_changes hstart).mp hflips
    obtain ⟨hother, j, hrun, hdue⟩ := hchanges.mp ⟨hchange.current_eq, hchange⟩
    have hj := hrun.le
    refine ⟨by omega, fun i hi hik => ⟨?_, fun hlt => ?_⟩⟩
    · have hwanted : samples i = samples k := hrun.wants i (by omega) hik
      rw [hwanted]
      exact hother
    · exact fun hflip => hrun.quiet i (by omega) hlt ((flips_iff_changes hstart).mp hflip)
  · rintro ⟨hmany, hall⟩
    have hother : M.wanted s inputs k ≠ (M.before s inputs k).current :=
      (hall k (by omega) (le_refl k)).1
    obtain ⟨j, hrun, -⟩ := Debounce.longestRun_since (D := M) (Debounce.remembers (s := s) rfl k) hother
    have hj := hrun.le
    -- the longest run goes back at least as far as the samples that differ
    have hlong : j ≤ k + 1 - needed := by
      by_contra hlate
      obtain ⟨i, rfl⟩ : ∃ i, j = i + 1 := ⟨j - 1, by omega⟩
      obtain ⟨hdiffers, hquiet⟩ := hall i (by omega) (by omega)
      rcases hrun.maximal i rfl with hchange | hwanted
      · exact hquiet (by omega) ((flips_iff_changes hstart).mpr hchange)
      · have hsame : samples i = M.wanted s inputs k :=
          (Bool.eq_not_of_ne hdiffers).trans (Bool.eq_not_of_ne hother).symm
        exact hwanted hsame
    have hdue : needed ≤ k - j + 1 := by omega
    exact (flips_iff_changes hstart).mpr (hchanges.mpr ⟨hother, j, hrun, hdue⟩).2

end SeedMg24.Analysis
