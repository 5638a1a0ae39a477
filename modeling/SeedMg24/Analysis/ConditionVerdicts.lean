import Mathlib.Data.Rat.Sqrt
import Mathlib.Tactic
import SeedMg24.Analysis.ExactArithmetic
import SeedMg24.Foundation.LargestFirst
import SeedMg24.Foundation.Literals

/-!
# The verdict on a window, its score and its explanation

The loop over the features keeps the largest deviation and the deviations of at least 2.  The state
and the score are read off the largest deviation at thresholds that agree, and whenever the state is
not `NORMAL` the largest deviation is one of those that are listed.
-/

set_option autoImplicit false

namespace SeedMg24.Analysis

open Foundation SeedMg24.Model.ConditionService ExactArithmetic

namespace ConditionVerdicts

attribute [local instance] atLeastTwo_two atLeastTwo_ten

variable {F : Type} [Field F] [LinearOrder F]
variable (sqrt : F → F) (values : Feature → F) (items : Feature → StatisticsItem F) (binWidthHz : F)

/-- What the deviation of a feature is measured by: the width of a bin or the spread, or the spread
or a tenth of the mean, and never less than a floor.
SOURCE: vibration_condition.py:78-82 -/
def scale (f : Feature) : F :=
  let std := sqrt (max 0 ((items f).m2 / ((max 1 ((items f).count - 1) : ℕ) : F)))
  match f.group with
  | .dominantFrequency => max (max binWidthHz std) (1 / 1000000)
  | .accelRms | .accelPeak | .dominantAmplitude =>
    max (max std (|(items f).mean| * (1 / 10))) (1 / 1000)
  | .crest | .kurtosis | .gyroRms => max (max std (|(items f).mean| * (1 / 10))) (5 / 100)

/-- How far a feature is from its baseline. -/
def deviation (f : Feature) : F :=
  |values f - (items f).mean| / scale sqrt items binWidthHz f

/-- A feature as a factor.
SOURCE: vibration_condition.py:84-88 -/
def factor (f : Feature) : Factor F where
  feature := f
  baseline := (items f).mean
  current := values f
  normalizedDeviation := deviation sqrt values items binWidthHz f
  changePercent := if 1 / 1000000000 < |(items f).mean| then
    some ((values f - (items f).mean) / (items f).mean * 100) else none

/-- The features with a deviation of at least 2. -/
def deviating : List Feature :=
  features.filter fun f => 2 ≤ deviation sqrt values items binWidthHz f

/-- The largest deviation. -/
def severity : F := (features.map (deviation sqrt values items binWidthHz)).foldl max 0

/-- What the verdict, the score and the factors have to do with each other and with the deviations
of the features. -/
structure Agrees (state : ConditionState) (score : F) (factors : List (Factor F)) : Prop where
  normal : state = .normal ↔ 70 < score
  significant : state = .significantChange ↔ score ≤ 40
  atMostFive : factors.length ≤ 5
  own : ∀ g ∈ factors, g = factor sqrt values items binWidthHz g.feature
  atLeastTwo : ∀ g ∈ factors, 2 ≤ g.normalizedDeviation
  distinct : (factors.map (·.feature)).Nodup
  descending : factors.Pairwise fun a b => b.normalizedDeviation ≤ a.normalizedDeviation
  largest : ∀ g ∈ factors, ∀ f, f ∉ factors.map (·.feature) →
    deviation sqrt values items binWidthHz f ≤ g.normalizedDeviation
  complete : ∀ f, 2 ≤ deviation sqrt values items binWidthHz f →
    f ∈ factors.map (·.feature) ∨ factors.length = 5
  first : state ≠ .normal → ∃ g rest, factors = g :: rest ∧
    ∀ f, deviation sqrt values items binWidthHz f ≤ g.normalizedDeviation

/-- The rule for frequencies is chosen by the name.
SOURCE: vibration_condition.py:78 -/
theorem isPrefixOf_name (f : Feature) :
    "dominant_frequency".toList.isPrefixOf f.name = (f.group = .dominantFrequency : Bool) := by
  obtain ⟨group, axis⟩ := f
  cases group <;> cases axis <;> decide

/-- The floor is chosen by the name.
SOURCE: vibration_condition.py:81 -/
theorem isInfix_name (f : Feature) : "_g".toList <:+: f.name ↔
    f.group = .accelRms ∨ f.group = .accelPeak ∨ f.group = .dominantAmplitude := by
  obtain ⟨group, axis⟩ := f
  cases group <;> cases axis <;> decide

/-! ## One feature -/

variable [IsStrictOrderedRing F]

theorem scale_pos (f : Feature) : 0 < scale sqrt items binWidthHz f := by
  unfold scale
  split <;> exact lt_max_of_lt_right (by norm_num)

/-- SOURCE: vibration_condition.py:75-82 -/
theorem normalizedDeviation_exact (f : Feature) :
    normalizedDeviation (Arithmetic.exact sqrt) f (values f) (items f) binWidthHz =
      .ok (deviation sqrt values items binWidthHz f) := by
  have hcount : (0 : F) < (max 1 ((items f).count - 1) : ℕ) := by
    have hpos : 0 < max 1 ((items f).count - 1) := by omega
    exact_mod_cast hpos
  have hdivide := divide_exact sqrt (x := |values f - (items f).mean|)
    (scale_pos sqrt items binWidthHz f)
  unfold normalizedDeviation
  rw [literal_exact, Rat.cast_natCast, divide_exact sqrt hcount, isPrefixOf_name]
  simp only [bind, Except.bind, isInfix_name, max_exact, literal_exact]
  rw [deviation, ← hdivide]
  unfold scale
  cases hgroup : f.group <;> simp [Arithmetic.exact]

/-- SOURCE: vibration_condition.py:87 -/
theorem changePercent_exact (f : Feature) :
    changePercent (Arithmetic.exact sqrt) (values f) (items f).mean =
      .ok (factor sqrt values items binWidthHz f).changePercent := by
  unfold changePercent factor
  by_cases h : 1 / 1000000000 < |(items f).mean|
  · have hmean : (items f).mean ≠ 0 := by
      intro hzero
      rw [hzero, abs_zero] at h
      exact absurd h (by norm_num)
    have hdivide : (Arithmetic.exact sqrt).divide (values f - (items f).mean) (items f).mean =
        .ok ((values f - (items f).mean) / (items f).mean) :=
      if_neg (by simpa [Arithmetic.exact] using hmean)
    have hlt : (Arithmetic.exact sqrt).lt ((Arithmetic.exact sqrt).literal (1 / 1000000000))
        ((Arithmetic.exact sqrt).abs (items f).mean) = true := by
      simpa [Arithmetic.exact] using h
    rw [if_pos hlt, if_pos h]
    show ((Arithmetic.exact sqrt).divide (values f - (items f).mean) (items f).mean >>= _) = _
    rw [hdivide]
    simp [bind, Except.bind, pure, Except.pure, Arithmetic.exact]
  · have hlt : ¬ (Arithmetic.exact sqrt).lt ((Arithmetic.exact sqrt).literal (1 / 1000000000))
        ((Arithmetic.exact sqrt).abs (items f).mean) = true := by
      simpa [Arithmetic.exact] using h
    rw [if_neg hlt, if_neg h]
    rfl

/-- SOURCE: vibration_condition.py:73-89 -/
theorem evaluateFeature_exact (found : F × List (Factor F)) (f : Feature) :
    evaluateFeature (Arithmetic.exact sqrt) values (fun f => some (items f)) binWidthHz found f =
      .ok (max found.1 (deviation sqrt values items binWidthHz f),
        found.2 ++ if 2 ≤ deviation sqrt values items binWidthHz f then
          [factor sqrt values items binWidthHz f] else []) := by
  unfold evaluateFeature
  simp only [normalizedDeviation_exact, bind, Except.bind, max_exact]
  by_cases h : 2 ≤ deviation sqrt values items binWidthHz f
  · have hle : (Arithmetic.exact sqrt).le ((Arithmetic.exact sqrt).literal 2)
        (deviation sqrt values items binWidthHz f) = true := by
      simpa [Arithmetic.exact] using h
    rw [if_pos hle, if_pos h, changePercent_exact sqrt values items binWidthHz]
    rfl
  · have hle : ¬ (Arithmetic.exact sqrt).le ((Arithmetic.exact sqrt).literal 2)
        (deviation sqrt values items binWidthHz f) = true := by
      simpa [Arithmetic.exact] using h
    rw [if_neg hle, if_neg h, List.append_nil]
    rfl

/-! ## The loop -/

/-- The loop over some features, from what has been found before. -/
theorem foldlM_evaluateFeature (fs : List Feature) (found : F × List (Factor F)) :
    fs.foldlM (evaluateFeature (Arithmetic.exact sqrt) values (fun f => some (items f)) binWidthHz)
        found =
      .ok ((fs.map (deviation sqrt values items binWidthHz)).foldl max found.1,
        found.2 ++ (fs.filter fun f => 2 ≤ deviation sqrt values items binWidthHz f).map
          (factor sqrt values items binWidthHz)) := by
  induction fs generalizing found with
  | nil => simp [pure, Except.pure]
  | cons f fs ih =>
    rw [List.foldlM_cons, evaluateFeature_exact]
    show fs.foldlM _ _ = _
    rw [ih, List.map_cons, List.foldl_cons, List.append_assoc, List.filter_cons]
    by_cases h : 2 ≤ deviation sqrt values items binWidthHz f
    · rw [if_pos h, if_pos (by simpa using h), List.map_cons, List.singleton_append]
    · rw [if_neg h, if_neg (by simpa using h), List.nil_append]

omit [Field F] [IsStrictOrderedRing F] in
/-- The largest of a list and a bound is one of them, and no other is larger. -/
theorem foldl_max_spec (xs : List F) (x : F) :
    (xs.foldl max x = x ∨ xs.foldl max x ∈ xs) ∧ x ≤ xs.foldl max x ∧
      ∀ y ∈ xs, y ≤ xs.foldl max x := by
  induction xs generalizing x with
  | nil => exact ⟨.inl rfl, le_refl x, List.forall_mem_nil _⟩
  | cons z xs ih =>
    obtain ⟨hmem, hle, hall⟩ := ih (max x z)
    rw [List.foldl_cons]
    refine ⟨?_, (le_max_left x z).trans hle, ?_⟩
    · rcases hmem with heq | hmem
      · rw [heq]
        rcases max_choice x z with hchoice | hchoice
        · exact .inl hchoice
        · rw [hchoice]
          exact .inr List.mem_cons_self
      · exact .inr (List.mem_cons_of_mem z hmem)
    · intro y hy
      cases List.mem_cons.mp hy with
      | inl h => exact h ▸ (le_max_right x z).trans hle
      | inr h => exact hall y h

omit [IsStrictOrderedRing F] in
theorem deviation_le_severity (f : Feature) :
    deviation sqrt values items binWidthHz f ≤ severity sqrt values items binWidthHz :=
  (foldl_max_spec _ _).2.2 _ (List.mem_map_of_mem (mem_features f))

omit [IsStrictOrderedRing F] in
theorem severity_nonneg : 0 ≤ severity sqrt values items binWidthHz :=
  (foldl_max_spec _ _).2.1

omit [IsStrictOrderedRing F] in
/-- The largest deviation is one of a feature, unless it is zero. -/
theorem exists_deviation_eq_severity (h : 0 < severity sqrt values items binWidthHz) :
    ∃ f, deviation sqrt values items binWidthHz f = severity sqrt values items binWidthHz := by
  rcases (foldl_max_spec (features.map (deviation sqrt values items binWidthHz)) 0).1 with
    hzero | hmem
  · exact absurd hzero h.ne'
  · obtain ⟨f, _, hf⟩ := List.mem_map.mp hmem
    exact ⟨f, hf⟩

/-! ## The verdict -/

/-- The verdict on the largest deviation.
SOURCE: vibration_condition.py:91 -/
def stateOf (severity : F) : ConditionState :=
  if 6 ≤ severity then .significantChange else if 3 ≤ severity then .elevated else .normal

/-- SOURCE: vibration_condition.py:92 -/
def scoreOf (severity : F) : F := max 0 (min 100 (100 - severity * 10))

theorem scoreOf_of_nonneg {severity : F} (h : 0 ≤ severity) :
    scoreOf severity = max 0 (100 - severity * 10) := by
  unfold scoreOf
  rw [min_eq_right (by linarith)]

theorem stateOf_eq_normal_iff {severity : F} (h : 0 ≤ severity) :
    stateOf severity = .normal ↔ 70 < scoreOf severity := by
  rw [scoreOf_of_nonneg h, lt_max_iff]
  unfold stateOf
  split_ifs with hsix hthree
  · refine ⟨nofun, fun h => ?_⟩
    rcases h with h | h <;> linarith
  · refine ⟨nofun, fun h => ?_⟩
    rcases h with h | h <;> linarith
  · exact ⟨fun _ => .inr (by linarith), fun _ => rfl⟩

theorem stateOf_eq_significantChange_iff {severity : F} (h : 0 ≤ severity) :
    stateOf severity = .significantChange ↔ scoreOf severity ≤ 40 := by
  rw [scoreOf_of_nonneg h, max_le_iff]
  unfold stateOf
  split_ifs with hsix hthree
  · exact ⟨fun _ => ⟨by norm_num, by linarith⟩, fun _ => rfl⟩
  · exact ⟨nofun, fun h => absurd h.2 (by linarith)⟩
  · exact ⟨nofun, fun h => absurd h.2 (by linarith)⟩

/-- What is not normal deviates by 3 at least. -/
theorem le_of_stateOf_ne_normal {severity : F} (h : stateOf severity ≠ .normal) : 3 ≤ severity := by
  by_contra hless
  refine h ?_
  unfold stateOf
  rw [if_neg (by linarith), if_neg hless]

/-- SOURCE: vibration_condition.py:70-92 -/
theorem evaluateCondition_exact :
    evaluateCondition (Arithmetic.exact sqrt) values (fun f => some (items f)) binWidthHz =
      .ok (stateOf (severity sqrt values items binWidthHz),
        scoreOf (severity sqrt values items binWidthHz),
        largestFirst (·.normalizedDeviation) 5 ((deviating sqrt values items binWidthHz).map
          (factor sqrt values items binWidthHz))) := by
  have hliteral (n : ℕ) : (Arithmetic.exact sqrt).literal (n : ℚ) = (n : F) := Rat.cast_natCast n
  have hstate (x : F) :
      (if (Arithmetic.exact sqrt).le ((Arithmetic.exact sqrt).literal 6) x then
        ConditionState.significantChange
      else if (Arithmetic.exact sqrt).le ((Arithmetic.exact sqrt).literal 3) x then .elevated
      else .normal) = stateOf x := by
    unfold stateOf
    simp only [Arithmetic.exact, decide_eq_true_eq]
    norm_num
  unfold evaluateCondition
  rw [foldlM_evaluateFeature]
  simp only [bind, Except.bind, pure, Except.pure, max_exact, min_exact, List.nil_append, hstate]
  simp [scoreOf, largestFirst, sortedByScore, Arithmetic.exact, severity, deviating]

omit [IsStrictOrderedRing F] in
theorem factor_mem {g : Factor F} (h : g ∈ largestFirst (·.normalizedDeviation) 5
      ((deviating sqrt values items binWidthHz).map (factor sqrt values items binWidthHz))) :
    g = factor sqrt values items binWidthHz g.feature ∧ 2 ≤ g.normalizedDeviation := by
  obtain ⟨f, hf, rfl⟩ := List.mem_map.mp (mem_of_mem_largestFirst h)
  have htwo : 2 ≤ deviation sqrt values items binWidthHz f := by
    simpa using (List.mem_filter.mp hf).2
  exact ⟨rfl, htwo⟩

omit [IsStrictOrderedRing F] in
theorem mem_deviating {f : Feature} (h : 2 ≤ deviation sqrt values items binWidthHz f) :
    factor sqrt values items binWidthHz f ∈
      (deviating sqrt values items binWidthHz).map (factor sqrt values items binWidthHz) :=
  List.mem_map_of_mem (List.mem_filter.mpr ⟨mem_features f, by simpa using h⟩)

/-- **The verdict, the score and the explanation agree.**  For every vector of features and all
statistics of a baseline the evaluation, in exact arithmetic, divides by no zero; the state is
`NORMAL` for a score above 70 and `SIGNIFICANT_CHANGE` for one of at most 40; the factors are at
most five of the largest deviations, each of at least 2, the largest first, and unless the state is
`NORMAL` the first is the largest of all.
SOURCE: vibration_condition.py:70-92 -/
theorem evaluateCondition_agrees :
    ∃ state score factors,
      evaluateCondition (Arithmetic.exact sqrt) values (fun f => some (items f)) binWidthHz =
        .ok (state, score, factors) ∧
      Agrees sqrt values items binWidthHz state score factors := by
  refine ⟨_, _, _, evaluateCondition_exact sqrt values items binWidthHz, ?_⟩
  set found := (deviating sqrt values items binWidthHz).map (factor sqrt values items binWidthHz)
    with hfound
  set worst := severity sqrt values items binWidthHz with hworst
  have hnonneg : 0 ≤ worst := severity_nonneg sqrt values items binWidthHz
  -- what is not listed deviates by less than 2, or no more than all that is listed
  have hleft (g : Factor F) (hg : g ∈ largestFirst (·.normalizedDeviation) 5 found) (f : Feature)
      (hf : f ∉ (largestFirst (·.normalizedDeviation) 5 found).map (·.feature)) :
      deviation sqrt values items binWidthHz f ≤ g.normalizedDeviation := by
    by_cases htwo : 2 ≤ deviation sqrt values items binWidthHz f
    · refine score_le_of_notMem hg (mem_deviating sqrt values items binWidthHz htwo) fun hmem => ?_
      exact hf (List.mem_map_of_mem (f := fun g : Factor F => g.feature) hmem)
    · exact (not_le.mp htwo).le.trans (factor_mem sqrt values items binWidthHz hg).2
  refine {
    normal := stateOf_eq_normal_iff hnonneg
    significant := stateOf_eq_significantChange_iff hnonneg
    atMostFive := ?_
    own := fun g hg => (factor_mem sqrt values items binWidthHz hg).1
    atLeastTwo := fun g hg => (factor_mem sqrt values items binWidthHz hg).2
    distinct := ?_
    descending := pairwise_largestFirst _ 5 found
    largest := hleft
    complete := ?_
    first := ?_ }
  · rw [length_largestFirst]
    exact min_le_left 5 _
  · refine nodup_map_largestFirst 5 ?_
    have hmap : found.map (·.feature) = deviating sqrt values items binWidthHz := by
      rw [hfound, List.map_map]
      exact List.map_id _
    rw [hmap]
    exact nodup_features.filter _
  · intro f hf
    have hchosen : factor sqrt values items binWidthHz f ∈
          largestFirst (·.normalizedDeviation) 5 found ∨
        (largestFirst (·.normalizedDeviation) 5 found).length = 5 :=
      mem_or_length_eq (mem_deviating sqrt values items binWidthHz hf)
    rcases hchosen with hmem | hlength
    · exact .inl (List.mem_map_of_mem (f := fun g : Factor F => g.feature) hmem)
    · exact .inr hlength
  · intro hstate
    have hthree : 3 ≤ worst := le_of_stateOf_ne_normal hstate
    obtain ⟨f, hf⟩ := exists_deviation_eq_severity sqrt values items binWidthHz (by linarith)
    have hmem := mem_deviating sqrt values items binWidthHz (f := f) (by
      rw [hf]
      linarith)
    obtain ⟨g, rest, hlist, hlargest⟩ :=
      exists_largestFirst_cons (fun g : Factor F => g.normalizedDeviation) (k := 5) (by norm_num)
        (List.ne_nil_of_mem hmem)
    refine ⟨g, rest, hlist, fun other => ?_⟩
    have hle := deviation_le_severity sqrt values items binWidthHz other
    rw [← hf] at hle
    exact hle.trans (hlargest _ hmem)

/-- A window of which one feature deviates by 4, and the others not at all. -/
theorem evaluateCondition_agrees_elevated :
    ∃ state score factors, evaluateCondition (Arithmetic.exact Rat.sqrt)
        (fun f => if f = ⟨.crest, .z⟩ then 7 / 5 else 1)
        (fun _ => some ⟨20, 1, 0, 1, 1⟩) (431 / 256) = .ok (state, score, factors) ∧
      Agrees Rat.sqrt (fun f => if f = ⟨.crest, .z⟩ then 7 / 5 else 1) (fun _ => ⟨20, 1, 0, 1, 1⟩)
        (431 / 256) state score factors :=
  evaluateCondition_agrees Rat.sqrt _ _ _

end ConditionVerdicts

end SeedMg24.Analysis
