import SeedMg24.Analysis.ExactArithmetic
import SeedMg24.Foundation.Checks
import SeedMg24.Foundation.RunningMoments

/-!
# The statistics of some windows

Each window adds one to the count of every feature.  In exact arithmetic the statistics that are
updated window by window are the number, the mean, the squared deviations and the bounds of what the
windows have in common, in whatever order they came.
-/

set_option autoImplicit false

namespace SeedMg24.Analysis

open Foundation SeedMg24.Model.ConditionService ExactArithmetic

namespace BaselineStatistics

variable {K : Type}

/-- The loop over some features updates each of them once. -/
theorem foldlM_updateItem {A : Arithmetic K} {values : Feature → K} {fs : List Feature}
    (hnodup : fs.Nodup) {before after : Statistics K}
    (h : fs.foldlM (fun statistics f => do
      let item ← updateItem A (statistics f) (values f)
      return Function.update statistics f (some item)) before = .ok after) :
    (∀ f ∈ fs, ∃ item, updateItem A (before f) (values f) = .ok item ∧ after f = some item) ∧
      ∀ f, f ∉ fs → after f = before f := by
  induction fs generalizing before with
  | nil =>
    cases h
    exact ⟨List.forall_mem_nil _, fun _ _ => rfl⟩
  | cons g fs ih =>
    rw [List.foldlM_cons] at h
    obtain ⟨between, hfirst, hrest⟩ := Checks.exists_of_bind h
    obtain ⟨item, hitem, hbetween⟩ := Checks.exists_of_bind hfirst
    cases hbetween
    obtain ⟨hg, hnodup⟩ := List.nodup_cons.mp hnodup
    obtain ⟨hmem, hother⟩ := ih hnodup hrest
    constructor
    · intro f hf
      cases List.mem_cons.mp hf with
      | inl heq =>
        subst heq
        refine ⟨item, hitem, ?_⟩
        rw [hother f hg, Function.update_self]
      | inr hf =>
        have hne : f ≠ g := fun heq => hg (heq ▸ hf)
        have hfound := hmem f hf
        rwa [Function.update_of_ne hne] at hfound
    · intro f hf
      rw [List.mem_cons, not_or] at hf
      rw [hother f hf.2, Function.update_of_ne hf.1]

/-- **Every feature is updated once.**
SOURCE: vibration_condition.py:46-56 -/
theorem updateStatistics_spec {A : Arithmetic K} {values : Feature → K} {before after : Statistics K}
    (h : updateStatistics A before values = .ok after) (f : Feature) :
    ∃ item, updateItem A (before f) (values f) = .ok item ∧ after f = some item :=
  (foldlM_updateItem nodup_features h).1 f (mem_features f)

/-- If every feature can be updated, so can the statistics. -/
theorem updateStatistics_ok {A : Arithmetic K} {values : Feature → K} {before : Statistics K}
    {items : Feature → StatisticsItem K}
    (h : ∀ f, updateItem A (before f) (values f) = .ok (items f)) :
    updateStatistics A before values = .ok fun f => some (items f) := by
  have hfold (fs : List Feature) (hnodup : fs.Nodup) (between : Statistics K)
      (hsame : ∀ f ∈ fs, between f = before f) :
      fs.foldlM (fun statistics f => do
        let item ← updateItem A (statistics f) (values f)
        return Function.update statistics f (some item)) between =
      .ok fun f => if f ∈ fs then some (items f) else between f := by
    induction fs generalizing between with
    | nil => rfl
    | cons g fs ih =>
      obtain ⟨hg, hnodup⟩ := List.nodup_cons.mp hnodup
      rw [List.foldlM_cons, hsame g List.mem_cons_self, h g]
      show fs.foldlM _ (Function.update between g (some (items g))) = _
      rw [ih hnodup _ fun f hf => ?_]
      · congr 1
        funext f
        by_cases hfg : f = g
        · subst hfg
          simp [hg]
        · simp [hfg]
      · have hne : f ≠ g := fun heq => hg (heq ▸ hf)
        rw [Function.update_of_ne hne]
        exact hsame f (List.mem_cons_of_mem g hf)
  unfold updateStatistics
  rw [hfold features nodup_features before fun _ _ => rfl]
  congr 1
  funext f
  exact if_pos (mem_features f)

/-- How many windows a feature was counted in. -/
def countOf (statistics : Statistics K) (f : Feature) : ℕ :=
  ((statistics f).map (·.count)).getD 0

theorem updateItem_count {A : Arithmetic K} {before : Option (StatisticsItem K)} {value : K}
    {item : StatisticsItem K} (h : updateItem A before value = .ok item) :
    item.count = (before.map (·.count)).getD 0 + 1 := by
  obtain ⟨_, _, h⟩ := Checks.exists_of_bind h
  cases h
  cases before <;> rfl

theorem countOf_updateStatistics {A : Arithmetic K} {values : Feature → K}
    {before after : Statistics K} (h : updateStatistics A before values = .ok after) (f : Feature) :
    countOf after f = countOf before f + 1 := by
  obtain ⟨item, hitem, hafter⟩ := updateStatistics_spec h f
  unfold countOf
  rw [hafter]
  exact updateItem_count hitem

/-- The statistics of some windows, one after the other. -/
def statisticsOf (A : Arithmetic K) (windows : List (Delivery K)) :
    Except ServiceError (Statistics K) :=
  windows.foldlM (fun statistics window =>
    updateStatistics A statistics (summaryValues window.summary)) Statistics.empty

theorem statisticsOf_snoc {A : Arithmetic K} {windows : List (Delivery K)}
    {before after : Statistics K} (h : statisticsOf A windows = .ok before) (window : Delivery K)
    (hupdate : updateStatistics A before (summaryValues window.summary) = .ok after) :
    statisticsOf A (windows ++ [window]) = .ok after := by
  unfold statisticsOf at h ⊢
  rw [List.foldlM_append, h]
  show [window].foldlM (fun statistics window => updateStatistics A statistics
    (summaryValues window.summary)) before = _
  rw [List.foldlM_cons, hupdate]
  rfl

/-- **Every feature is counted once for each window.** -/
theorem countOf_statisticsOf {A : Arithmetic K} {windows : List (Delivery K)}
    {statistics : Statistics K} (h : statisticsOf A windows = .ok statistics) (f : Feature) :
    countOf statistics f = windows.length := by
  induction windows using List.reverseRecOn generalizing statistics with
  | nil =>
    cases h
    rfl
  | append_singleton windows window ih =>
    unfold statisticsOf at h ih
    rw [List.foldlM_append] at h
    obtain ⟨before, hbefore, h⟩ := Checks.exists_of_bind h
    obtain ⟨_, hupdate, h⟩ := Checks.exists_of_bind h
    cases h
    rw [countOf_updateStatistics hupdate, ih hbefore, List.length_append, List.length_singleton]

/-! ## Exact arithmetic -/

variable {F : Type} [Field F] [LinearOrder F]

/-- The number of some values, their mean, their squared deviations and their bounds. -/
def summaryOf (values : List F) : Option (StatisticsItem F) :=
  values.min?.bind fun least => values.max?.map fun greatest => {
    count := values.length
    mean := mean values
    m2 := squaresAbout (mean values) values
    min := least
    max := greatest }

omit [Field F] in
theorem min?_snoc (values : List F) (x : F) :
    (values ++ [x]).min? = some (values.min?.elim x (min · x)) := by
  cases values with
  | nil => rfl
  | cons y values =>
    rw [List.cons_append, List.min?_cons', List.min?_cons', List.foldl_append]
    rfl

omit [Field F] in
theorem max?_snoc (values : List F) (x : F) :
    (values ++ [x]).max? = some (values.max?.elim x (max · x)) := by
  cases values with
  | nil => rfl
  | cons y values =>
    rw [List.cons_append, List.max?_cons', List.max?_cons', List.foldl_append]
    rfl

variable [IsStrictOrderedRing F] (sqrt : F → F)

/-- SOURCE: vibration_condition.py:48-55 -/
theorem updateItem_exact (before : Option (StatisticsItem F)) (x : F) :
    let item := before.getD ⟨0, 0, 0, x, x⟩
    let average := item.mean + (x - item.mean) / ((item.count + 1 : ℕ) : F)
    updateItem (Arithmetic.exact sqrt) before x = .ok {
      count := item.count + 1
      mean := average
      m2 := item.m2 + (x - item.mean) * (x - average)
      min := min item.min x
      max := max item.max x } := by
  have hliteral : (Arithmetic.exact sqrt).literal 0 = (0 : F) := Rat.cast_zero
  have hcount (n : ℕ) : (0 : F) < ((n + 1 : ℕ) : F) := Nat.cast_pos.mpr n.succ_pos
  unfold updateItem
  rw [hliteral]
  dsimp only
  rw [literal_exact, Rat.cast_natCast, divide_exact sqrt (hcount _), min_exact, max_exact]
  rfl

/-- **One more value, in exact arithmetic.** -/
theorem updateItem_summaryOf (values : List F) (x : F) :
    ∃ item, updateItem (Arithmetic.exact sqrt) (summaryOf values) x = .ok item ∧
      summaryOf (values ++ [x]) = some item := by
  refine ⟨_, updateItem_exact sqrt (summaryOf values) x, ?_⟩
  have hmean := mean_snoc values x
  have hsquares := squaresAbout_mean_snoc values x
  unfold summaryOf
  rw [min?_snoc, max?_snoc, hsquares, hmean, List.length_append, List.length_singleton]
  cases values with
  | nil =>
    simp [mean, squaresAbout]
  | cons y values => rfl

/-- **The statistics of some windows, in exact arithmetic**: of every feature the number of the
windows, the mean, the squared deviations and the bounds. -/
theorem statisticsOf_exact (windows : List (Delivery F)) :
    statisticsOf (Arithmetic.exact sqrt) windows =
      .ok fun f => summaryOf (windows.map fun window => summaryValues window.summary f) := by
  induction windows using List.reverseRecOn with
  | nil => rfl
  | append_singleton windows window ih =>
    have hitem (f : Feature) := updateItem_summaryOf sqrt
      (windows.map fun window => summaryValues window.summary f) (summaryValues window.summary f)
    choose items hitems hsummary using hitem
    rw [statisticsOf_snoc ih window (updateStatistics_ok hitems)]
    congr 1
    funext f
    rw [List.map_append, List.map_singleton, hsummary f]

omit [IsStrictOrderedRing F] in
theorem summaryOf_perm {values others : List F} (h : values.Perm others) :
    summaryOf values = summaryOf others := by
  have hsum : values.sum = others.sum := h.sum_eq
  have hmean : mean values = mean others := by
    unfold mean
    rw [hsum, h.length_eq]
  have hsquares (c : F) : squaresAbout c values = squaresAbout c others :=
    (h.map fun x => (x - c) ^ 2).sum_eq
  have hleast : values.min? = others.min? := by
    cases hmin : others.min? with
    | none => rw [List.min?_eq_none_iff] at hmin ⊢; exact hmin ▸ h |>.eq_nil
    | some least =>
      rw [List.min?_eq_some_iff] at hmin ⊢
      exact ⟨h.mem_iff.mpr hmin.1, fun b hb => hmin.2 b (h.mem_iff.mp hb)⟩
  have hgreatest : values.max? = others.max? := by
    cases hmax : others.max? with
    | none => rw [List.max?_eq_none_iff] at hmax ⊢; exact hmax ▸ h |>.eq_nil
    | some greatest =>
      rw [List.max?_eq_some_iff] at hmax ⊢
      exact ⟨h.mem_iff.mpr hmax.1, fun b hb => hmax.2 b (h.mem_iff.mp hb)⟩
  unfold summaryOf
  rw [hleast, hgreatest, hmean, hsquares, h.length_eq]

/-- They are the same in whatever order the windows came. -/
theorem statisticsOf_perm {windows others : List (Delivery F)} (h : windows.Perm others) :
    statisticsOf (Arithmetic.exact sqrt) windows = statisticsOf (Arithmetic.exact sqrt) others := by
  rw [statisticsOf_exact, statisticsOf_exact]
  congr 1
  funext f
  exact summaryOf_perm (h.map fun window => summaryValues window.summary f)

end BaselineStatistics

end SeedMg24.Analysis
