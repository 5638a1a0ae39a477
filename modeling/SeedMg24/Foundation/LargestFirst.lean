import Mathlib.Data.List.Sort
import Mathlib.Order.Lattice

/-!
# The largest first

The members of a list with the largest scores, the largest first.  Whatever is left out scores no
more than what is chosen, nothing is left out unless as many are chosen as were asked for, and the
first of them has the largest score of all.
-/

set_option autoImplicit false

namespace Foundation

variable {α F : Type} [LinearOrder F] (score : α → F)

/-- A list with the larger scores before the smaller ones, equal ones as they were. -/
def sortedByScore (xs : List α) : List α :=
  xs.mergeSort fun a b => !decide (score a < score b)

/-- At most `k` of a list, the largest first. -/
def largestFirst (k : ℕ) (xs : List α) : List α := (sortedByScore score xs).take k

theorem pairwise_sortedByScore (xs : List α) :
    (sortedByScore score xs).Pairwise fun a b => score b ≤ score a := by
  have hsorted : (sortedByScore score xs).Pairwise
      fun a b => (!decide (score a < score b)) = true := by
    apply List.pairwise_mergeSort
    · intro a b c hab hbc
      simp only [Bool.not_eq_true', decide_eq_false_iff_not, not_lt] at hab hbc ⊢
      exact hbc.trans hab
    · intro a b
      simp only [Bool.or_eq_true, Bool.not_eq_true', decide_eq_false_iff_not, not_lt]
      exact le_total (score b) (score a)
  apply hsorted.imp
  intro a b hab
  simpa using hab

theorem mem_sortedByScore {xs : List α} {a : α} : a ∈ sortedByScore score xs ↔ a ∈ xs :=
  List.mem_mergeSort

theorem length_largestFirst (k : ℕ) (xs : List α) :
    (largestFirst score k xs).length = min k xs.length := by
  unfold largestFirst sortedByScore
  rw [List.length_take, List.length_mergeSort]

theorem pairwise_largestFirst (k : ℕ) (xs : List α) :
    (largestFirst score k xs).Pairwise fun a b => score b ≤ score a :=
  (pairwise_sortedByScore score xs).sublist (List.take_sublist k _)

variable {score}

theorem mem_of_mem_largestFirst {k : ℕ} {xs : List α} {a : α}
    (h : a ∈ largestFirst score k xs) : a ∈ xs :=
  (mem_sortedByScore score).mp (List.mem_of_mem_take h)

theorem nodup_map_largestFirst {β : Type} {f : α → β} {xs : List α} (k : ℕ)
    (h : (xs.map f).Nodup) : ((largestFirst score k xs).map f).Nodup := by
  have hperm : ((sortedByScore score xs).map f).Perm (xs.map f) :=
    (List.mergeSort_perm xs _).map f
  exact (hperm.nodup_iff.mpr h).sublist ((List.take_sublist k _).map f)

/-- **What is left out scores no more than what is chosen.** -/
theorem score_le_of_notMem {k : ℕ} {xs : List α} {a b : α} (ha : a ∈ largestFirst score k xs)
    (hb : b ∈ xs) (hleft : b ∉ largestFirst score k xs) : score b ≤ score a := by
  have hsplit := pairwise_sortedByScore score xs
  rw [← List.take_append_drop k (sortedByScore score xs), List.pairwise_append] at hsplit
  have hdropped : b ∈ (sortedByScore score xs).drop k := by
    have hmem := (mem_sortedByScore score).mpr hb
    rw [← List.take_append_drop k (sortedByScore score xs), List.mem_append] at hmem
    exact hmem.resolve_left hleft
  exact hsplit.2.2 a ha b hdropped

/-- Nothing is left out unless as many are chosen as were asked for. -/
theorem mem_or_length_eq {k : ℕ} {xs : List α} {a : α} (ha : a ∈ xs) :
    a ∈ largestFirst score k xs ∨ (largestFirst score k xs).length = k := by
  by_cases hk : xs.length ≤ k
  · left
    unfold largestFirst
    rw [List.take_of_length_le (by
      unfold sortedByScore
      rwa [List.length_mergeSort])]
    exact (mem_sortedByScore score).mpr ha
  · right
    rw [length_largestFirst]
    omega

variable (score) in
/-- The first has the largest score of all. -/
theorem exists_largestFirst_cons {k : ℕ} {xs : List α} (hk : 0 < k) (hne : xs ≠ []) :
    ∃ a rest, largestFirst score k xs = a :: rest ∧ ∀ b ∈ xs, score b ≤ score a := by
  cases hlist : largestFirst score k xs with
  | nil =>
    have hlength := length_largestFirst score k xs
    rw [hlist, List.length_nil] at hlength
    have hpos := List.length_pos_iff.mpr hne
    omega
  | cons a rest =>
    refine ⟨a, rest, rfl, fun b hb => ?_⟩
    have ha : a ∈ largestFirst score k xs := hlist ▸ List.mem_cons_self
    by_cases hchosen : b ∈ largestFirst score k xs
    · have hpairwise := pairwise_largestFirst score k xs
      rw [hlist] at hchosen hpairwise
      cases List.mem_cons.mp hchosen with
      | inl h => exact le_of_eq (by rw [h])
      | inr h => exact (List.pairwise_cons.mp hpairwise).1 b h
    · exact score_le_of_notMem ha hb hchosen

end Foundation
