import SeedMg24.Foundation.Medians
import SeedMg24.Foundation.RecentValues
import SeedMg24.Foundation.RunningMoments
import SeedMg24.Model.Filters

/-!
# Numeric filters equal their definitions

The ring of a filter holds the last values since it was configured or reset, and the insertion sort
in `work` puts them in order: the filters return the mean and the median of these values.
-/

set_option autoImplicit false

namespace SeedMg24.Analysis

open Foundation Model Model.NumericFilter

variable {F : Type}

/-! ## The insertion sort -/

section Sorting

variable [Zero F]

theorem getD_append_cons {front rest : List F} {x : F} : (front ++ x :: rest).getD front.length 0 = x := by
  simp

omit [Zero F] in
theorem set_append_cons {front rest : List F} {x y : F} :
    (front ++ x :: rest).set front.length y = front ++ y :: rest := by
  simp

variable [LinearOrder F]

/-- The inner loop moves up the values of the sorted part that are larger than the current one. -/
theorem shiftUp_eq (current : F) (front rest : List F) (x : F) :
    ∃ low high y, front = low ++ high ∧ (∀ z ∈ high, current < z) ∧ (∀ z ∈ low.getLast?, z ≤ current) ∧
      shiftUp current front.length (front ++ x :: rest) = (low ++ y :: high ++ rest, low.length) := by
  induction front using List.reverseRecOn generalizing x rest with
  | nil => exact ⟨[], [], x, rfl, by simp, by simp, rfl⟩
  | append_singleton front z ih =>
    rw [List.length_append, List.length_singleton, shiftUp, List.append_assoc, List.singleton_append,
      getD_append_cons]
    by_cases hlarger : current < z
    · rw [if_pos hlarger]
      obtain ⟨low, high, y, hfront, hhigh, hlow, hshift⟩ := ih (z :: rest) z
      refine ⟨low, high ++ [z], y, by rw [hfront, List.append_assoc], ?_, hlow, ?_⟩
      · intro a ha
        rcases List.mem_append.mp ha with ha | ha
        · exact hhigh a ha
        · rw [List.mem_singleton.mp ha]
          exact hlarger
      · have hset : (front ++ z :: x :: rest).set (front.length + 1) z = front ++ z :: z :: rest := by
          rw [List.set_append_right _ _ (by omega)]
          simp
        rw [hset, hshift]
        simp
    · rw [if_neg hlarger]
      refine ⟨front ++ [z], [], x, by simp, by simp, ?_, by simp⟩
      intro a ha
      rw [List.getLast?_append, List.getLast?_singleton] at ha
      cases ha
      exact le_of_not_gt hlarger

/-- **One turn of the sort** puts one more value into the sorted part. -/
theorem insertAt_eq {front : List F} (hsorted : front.Pairwise (· ≤ ·)) (x : F) (rest : List F) :
    ∃ front' : List F, front'.Pairwise (· ≤ ·) ∧ front'.Perm (front ++ [x]) ∧
      insertAt (front ++ x :: rest) front.length = front' ++ rest := by
  obtain ⟨low, high, y, rfl, hhigh, hlow, hshift⟩ := shiftUp_eq x front rest x
  refine ⟨low ++ x :: high, ?_, ?_, ?_⟩
  · rw [List.pairwise_append] at hsorted ⊢
    obtain ⟨hlowSorted, hhighSorted, hacross⟩ := hsorted
    have hbelow : ∀ a ∈ low, a ≤ x := by
      intro a ha
      have hnonempty : low ≠ [] := List.ne_nil_of_mem ha
      have hlast := hlow (low.getLast hnonempty) (List.getLast?_eq_getLast_of_ne_nil hnonempty)
      rw [← List.dropLast_append_getLast hnonempty] at ha hlowSorted
      rcases List.mem_append.mp ha with ha | ha
      · exact ((List.pairwise_append.mp hlowSorted).2.2 a ha _ (List.mem_singleton_self _)).trans hlast
      · rw [List.mem_singleton.mp ha]
        exact hlast
    refine ⟨hlowSorted, List.pairwise_cons.mpr ⟨fun a ha => (hhigh a ha).le, hhighSorted⟩, ?_⟩
    intro a ha b hb
    rcases List.mem_cons.mp hb with rfl | hb
    · exact hbelow a ha
    · exact hacross a ha b hb
  · rw [List.append_assoc]
    exact (List.perm_append_left_iff low).mpr (List.perm_append_singleton x high).symm
  · unfold insertAt
    rw [getD_append_cons]
    dsimp only
    rw [hshift]
    dsimp only
    rw [List.append_assoc, List.cons_append, set_append_cons, List.append_assoc, List.cons_append]

/-- The turns of the sort that are done leave a sorted part and the rest as it was. -/
theorem foldl_insertAt (work : List F) (n : ℕ) (h : n < work.length) :
    ∃ front : List F, front.Pairwise (· ≤ ·) ∧ front.Perm (work.take (n + 1)) ∧
      (List.range' 1 n).foldl insertAt work = front ++ work.drop (n + 1) := by
  induction n with
  | zero =>
    refine ⟨work.take 1, ?_, List.Perm.refl _, (List.take_append_drop 1 work).symm⟩
    rw [List.take_one]
    cases work.head? with
    | none => exact List.Pairwise.nil
    | some x => exact List.pairwise_singleton _ x
  | succ n ih =>
    obtain ⟨front, hsorted, hperm, hfold⟩ := ih (by omega)
    rw [List.range'_1_concat, List.foldl_concat, hfold]
    have hlength : front.length = 1 + n := by
      rw [hperm.length_eq, List.length_take]
      omega
    rw [List.drop_eq_getElem_cons h, ← hlength]
    obtain ⟨front', hsorted', hperm', hinsert⟩ := insertAt_eq hsorted work[n + 1] (work.drop (n + 1 + 1))
    refine ⟨front', hsorted', ?_, hinsert⟩
    rw [List.take_succ_eq_append_getElem h]
    exact hperm'.trans (hperm.append_right _)

/-- **The values are sorted**, and they are the same values. -/
theorem sortWork_sorted (work : List F) :
    (sortWork work).Pairwise (· ≤ ·) ∧ (sortWork work).Perm work := by
  unfold sortWork
  rcases Nat.eq_zero_or_pos work.length with hempty | hpos
  · rw [List.length_eq_zero_iff.mp hempty]
    exact ⟨List.Pairwise.nil, List.Perm.refl _⟩
  · obtain ⟨front, hsorted, hperm, hfold⟩ := foldl_insertAt work (work.length - 1) (by omega)
    rw [Nat.sub_add_cancel hpos, List.take_length] at hperm
    rw [hfold, Nat.sub_add_cancel hpos, List.drop_length, List.append_nil]
    exact ⟨hsorted, hperm⟩

end Sorting

/-! ## The ring -/

/-- The values a filter was updated with since it was configured or reset. -/
def updatesSinceReset (calls : List (Call F)) : List F :=
  calls.foldl (fun values call => match call with
    | .update value => values ++ [value]
    | .reset => []) []

section Runs

/-- A filter with a window that was updated with some values holds the last of them. -/
structure Filters (filterType : UInt8) (window : ℕ) (f : NumericFilter F) (values : List F) :
    Prop where
  filterType_eq : f.filterType = filterType
  window_eq : f.window = window
  recent : IsRecent f.window f.values f.index f.count values

variable {filterType : UInt8} {window : ℕ} {f : NumericFilter F} {values : List F}

theorem Filters.store (h : Filters filterType window f values) (value : F) :
    Filters filterType window (f.store value) (values ++ [value]) :=
  ⟨h.filterType_eq, h.window_eq, h.recent.push value⟩

variable [Field F]

theorem Filters.reset (h : Filters filterType window f values) :
    Filters filterType window f.reset [] := by
  refine ⟨h.filterType_eq, h.window_eq, IsRecent.nil (Nat.zero_lt_of_lt f.index_lt) ?_⟩
  rw [NumericFilter.length_values]
  exact f.window_le

/-- The mean of what the cells hold. -/
theorem Filters.mean_eq (h : Filters filterType window f values) :
    ((f.values.take f.count).foldl (· + ·) 0) / f.count = mean (values.rtake window) := by
  have hperm := h.recent.perm
  rw [h.window_eq] at hperm
  have hlength : (f.values.take f.count).length = f.count := by
    have hle := f.count_le
    have hwindow := f.window_le
    rw [List.length_take, f.length_values]
    omega
  rw [← List.sum_eq_foldl, mean, ← hperm.sum_eq, ← hperm.length_eq, hlength]

variable [LinearOrder F]

theorem filters_configure (f : NumericFilter F) (filterType window : UInt8) (alpha : F) :
    Filters filterType (clampWindow window) (f.configure filterType window alpha) [] := by
  refine ⟨rfl, rfl, IsRecent.nil (clampWindow_pos window) ?_⟩
  rw [NumericFilter.length_values]
  exact clampWindow_le window

/-- The two kinds of filter that have a window. -/
def IsWindowed (filterType : UInt8) : Prop :=
  filterType ≠ FilterType.none ∧ filterType ≠ FilterType.exponential

/-- A filter with a window keeps the value it is updated with. -/
theorem update_snd (h : IsWindowed f.filterType) (value : F) : (f.update value).2 = f.store value := by
  unfold NumericFilter.update
  rw [if_neg h.1, if_neg h.2]
  dsimp only
  split
  · rfl
  · split
    · rfl
    · rfl

/-- **What a call keeps.** -/
theorem Filters.after (hwindowed : IsWindowed filterType) (h : Filters filterType window f values)
    (call : Call F) : Filters filterType window (f.after call) (match call with
      | .update value => values ++ [value]
      | .reset => []) := by
  cases call with
  | update value =>
    show Filters filterType window (f.update value).2 (values ++ [value])
    rw [update_snd (h.filterType_eq ▸ hwindowed)]
    exact h.store value
  | reset => exact h.reset

/-- What calls keep. -/
theorem Filters.run (hwindowed : IsWindowed filterType) (calls : List (Call F))
    (h : Filters filterType window f values) :
    Filters filterType window (calls.foldl NumericFilter.after f)
      (calls.foldl (fun values call => match call with
        | .update value => values ++ [value]
        | .reset => []) values) := by
  induction calls generalizing f values with
  | nil => exact h
  | cons call calls ih => exact ih (h.after hwindowed call)

/-! ## The values that are returned -/

/-- The median of what the cells hold, put in order. -/
theorem Filters.median_eq (h : Filters filterType window f values) :
    middle (sortWork (f.values.take f.count)) = median (values.rtake window) := by
  have hperm := h.recent.perm
  rw [h.window_eq] at hperm
  obtain ⟨hsorted, hwork⟩ := sortWork_sorted (f.values.take f.count)
  exact middle_eq_median hsorted (hwork.trans hperm)

theorem update_movingAverage (h : Filters FilterType.movingAverage window f values) (value : F) :
    (f.update value).1 = mean ((values ++ [value]).rtake window) := by
  have htype := h.filterType_eq
  unfold NumericFilter.update
  rw [htype, if_neg (by decide), if_neg (by decide)]
  dsimp only
  rw [if_pos (h.store value).filterType_eq]
  exact (h.store value).mean_eq

theorem update_median (h : Filters FilterType.median window f values) (value : F) :
    (f.update value).1 = median ((values ++ [value]).rtake window) := by
  have htype := h.filterType_eq
  have hmedian := (h.store value).median_eq
  have hlength : (sortWork ((f.store value).values.take (f.store value).count)).length =
      (f.store value).count := by
    have hle := (f.store value).count_le
    have hwindow := (f.store value).window_le
    rw [(sortWork_sorted _).2.length_eq, List.length_take, (f.store value).length_values]
    omega
  rw [middle, hlength] at hmedian
  unfold NumericFilter.update
  rw [htype, if_neg (by decide), if_neg (by decide)]
  dsimp only
  rw [(h.store value).filterType_eq, if_neg (by decide), ← hmedian]
  rcases Nat.mod_two_eq_zero_or_one (f.store value).count with heven | hodd
  · rw [if_neg (by omega), if_neg (by omega), mul_one_div]
  · rw [if_pos (by omega), if_pos hodd]

/-- **Numeric filters equal their definitions.**  However a filter is configured and whatever calls
follow, an update returns the mean, or the median, of the last values since it was configured or
reset, as many as there are and at most the window. -/
theorem update_windowed (f : NumericFilter F) (window : UInt8) (alpha : F) (calls : List (Call F))
    (value : F) :
    let last := (updatesSinceReset calls ++ [value]).rtake
      (max 1 (min window.toNat MAX_FILTER_WINDOW))
    ((calls.foldl NumericFilter.after (f.configure FilterType.movingAverage window alpha)).update
        value).1 = mean last ∧
      ((calls.foldl NumericFilter.after (f.configure FilterType.median window alpha)).update
        value).1 = median last := by
  intro last
  have haverage := (filters_configure f FilterType.movingAverage window alpha).run
    ⟨by decide, by decide⟩ calls
  have hmedian := (filters_configure f FilterType.median window alpha).run
    ⟨by decide, by decide⟩ calls
  rw [clampWindow_eq] at haverage hmedian
  exact ⟨update_movingAverage haverage value, update_median hmedian value⟩

end Runs

end SeedMg24.Analysis
