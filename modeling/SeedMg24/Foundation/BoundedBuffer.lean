import Mathlib.Data.List.Sort
import Mathlib.Tactic

/-!
# Bounded buffers

A buffer in the first cells of an array, from which an entry is taken by moving those behind it
down.  A full buffer makes room by giving up the first entry of the lowest rank, if that is lower
than the rank of the new one; so the ranks it keeps are the highest it was offered.
-/

set_option autoImplicit false

namespace Foundation

namespace BoundedBuffer

variable {α : Type}

/-! ## Cells -/

/-- The entries in the first cells. -/
def entries (cells : ℕ → α) (count : ℕ) : List α := (List.range count).map cells

/-- So many cells filled one after the other from the next one, from a cell on. -/
def moveDown (cells : ℕ → α) (i : ℕ) : ℕ → ℕ → α
  | 0 => cells
  | n + 1 => moveDown (Function.update cells i (cells (i + 1))) (i + 1) n

/-- One pass that looks for the lowest rank. -/
def lowest (rank : α → ℕ) (cells : ℕ → α) (count : ℕ) : ℕ :=
  (List.range' 1 (count - 1)).foldl
    (fun lowest i => if rank (cells i) < rank (cells lowest) then i else lowest) 0

@[simp] theorem length_entries (cells : ℕ → α) (count : ℕ) :
    (entries cells count).length = count := by simp [entries]

/-- An entry behind the last one. -/
theorem entries_update (cells : ℕ → α) (count : ℕ) (x : α) :
    entries (Function.update cells count x) (count + 1) = entries cells count ++ [x] := by
  unfold entries
  rw [List.range_succ, List.map_append, List.map_singleton, Function.update_self]
  congr 1
  apply List.map_congr_left
  intro j hj
  exact Function.update_of_ne (List.mem_range.mp hj).ne x cells

/-- Every cell is read before it is written. -/
theorem moveDown_apply (cells : ℕ → α) (i n j : ℕ) :
    moveDown cells i n j = if i ≤ j ∧ j < i + n then cells (j + 1) else cells j := by
  induction n generalizing cells i with
  | zero => rw [moveDown, if_neg (by omega)]
  | succ n ih =>
    rw [moveDown, ih]
    rcases Nat.lt_trichotomy j i with hlt | rfl | hgt
    · rw [if_neg (by omega), if_neg (by omega), Function.update_of_ne hlt.ne]
    · rw [if_neg (by omega), if_pos (by omega), Function.update_self]
    · rw [Function.update_of_ne (by omega), Function.update_of_ne hgt.ne']
      by_cases hmoved : j < i + 1 + n
      · rw [if_pos (by omega), if_pos (by omega)]
      · rw [if_neg (by omega), if_neg (by omega)]

/-- Moving down what is behind an entry takes it out. -/
theorem entries_moveDown (cells : ℕ → α) {i count : ℕ} (h : i < count) :
    entries (moveDown cells i (count - 1 - i)) (count - 1) = (entries cells count).eraseIdx i := by
  apply List.ext_getElem
  · rw [List.length_eraseIdx_of_lt (by simpa using h), length_entries, length_entries]
  · intro j hj _
    have hj : j < count - 1 := by simpa using hj
    rw [List.getElem_eraseIdx]
    simp only [entries, List.getElem_map, List.getElem_range]
    rw [moveDown_apply]
    by_cases hlt : j < i
    · rw [if_neg (by omega), dif_pos hlt]
    · rw [if_pos (by omega), dif_neg hlt]

/-- The first of the cells with the lowest rank. -/
structure IsLowest (rank : α → ℕ) (cells : ℕ → α) (count i : ℕ) : Prop where
  lt : i < count
  le : ∀ j < count, rank (cells i) ≤ rank (cells j)
  first : ∀ j < i, rank (cells i) < rank (cells j)

/-- The pass finds it. -/
theorem isLowest_lowest (rank : α → ℕ) (cells : ℕ → α) {count : ℕ} (h : 0 < count) :
    IsLowest rank cells count (lowest rank cells count) := by
  obtain ⟨n, rfl⟩ : ∃ n, count = n + 1 := ⟨count - 1, by omega⟩
  unfold lowest
  rw [Nat.add_sub_cancel]
  induction n with
  | zero => exact ⟨by simp, fun j hj => by rw [show j = 0 by omega]; rfl, fun j hj => by simp at hj⟩
  | succ n ih =>
    have hbefore := ih (by omega)
    rw [List.range'_1_concat, List.foldl_append, List.foldl_cons, List.foldl_nil, Nat.add_comm 1 n]
    generalize (List.range' 1 n).foldl _ 0 = least at hbefore ⊢
    split
    · rename_i hlower
      refine ⟨by omega, fun j hj => ?_, fun j hj => ?_⟩
      · rcases Nat.lt_or_ge j (n + 1) with hearlier | hlast
        · exact hlower.le.trans (hbefore.le j hearlier)
        · rw [show j = n + 1 by omega]
      · exact hlower.trans_le (hbefore.le j (by omega))
    · rename_i hnot
      refine ⟨by have := hbefore.lt; omega, fun j hj => ?_, hbefore.first⟩
      rcases Nat.lt_or_ge j (n + 1) with hearlier | hlast
      · exact hbefore.le j hearlier
      · rw [show j = n + 1 by omega]
        exact not_lt.mp hnot

/-! ## Offers -/

/-- What a buffer holds after it is offered an entry: it has room for it, refuses it as no better
than those it holds, or gives up the first of the lowest rank for it. -/
inductive Offer (rank : α → ℕ) (capacity : ℕ) (x : α) : List α → List α → Prop where
  | room {held : List α} (h : held.length < capacity) : Offer rank capacity x held (held ++ [x])
  | refused {held : List α} (hfull : held.length = capacity) (h : ∀ y ∈ held, rank x ≤ rank y) :
    Offer rank capacity x held held
  | evicted {before after : List α} {lost : α}
    (hfull : (before ++ lost :: after).length = capacity) (hlower : rank lost < rank x)
    (hbefore : ∀ y ∈ before, rank lost < rank y) (hafter : ∀ y ∈ after, rank lost ≤ rank y) :
    Offer rank capacity x (before ++ lost :: after) (before ++ after ++ [x])

variable {rank : α → ℕ} {capacity : ℕ} {x : α} {held held' : List α}

theorem mem_entries {cells : ℕ → α} {count : ℕ} {y : α} :
    y ∈ entries cells count ↔ ∃ j < count, cells j = y := by simp [entries]

/-- A full buffer refuses what is no better than the lowest it holds. -/
theorem offer_refused {cells : ℕ → α} {count i : ℕ} (hfull : count = capacity)
    (h : IsLowest rank cells count i) (hlow : rank x ≤ rank (cells i)) :
    Offer rank capacity x (entries cells count) (entries cells count) := by
  refine .refused (by rw [length_entries, hfull]) fun y hy => ?_
  obtain ⟨j, hj, rfl⟩ := mem_entries.mp hy
  exact hlow.trans (h.le j hj)

/-- A full buffer gives up the lowest it holds for something better. -/
theorem offer_evicted {cells : ℕ → α} {count i : ℕ} (hfull : count = capacity)
    (h : IsLowest rank cells count i) (hlower : rank (cells i) < rank x) :
    Offer rank capacity x (entries cells count) ((entries cells count).eraseIdx i ++ [x]) := by
  have hi : i < (entries cells count).length := by simpa using h.lt
  have hsplit : (entries cells count).take i ++ cells i :: (entries cells count).drop (i + 1) =
      entries cells count := by
    have hget : (entries cells count)[i] = cells i := by simp [entries]
    rw [← hget, List.getElem_cons_drop, List.take_append_drop]
  have hlength : ((entries cells count).take i ++
      cells i :: (entries cells count).drop (i + 1)).length = capacity := by
    rw [hsplit, length_entries, hfull]
  have hoffer := Offer.evicted (x := x) hlength hlower (fun y hy => ?_)
    fun y hy => ?_
  · rw [hsplit] at hoffer
    rw [List.eraseIdx_eq_take_drop_succ]
    exact hoffer
  · obtain ⟨j, hj, rfl⟩ := List.mem_take_iff_getElem.mp hy
    simp only [entries, List.getElem_map, List.getElem_range]
    exact h.first j (by omega)
  · obtain ⟨j, hj, rfl⟩ := mem_entries.mp (List.mem_of_mem_drop hy)
    exact h.le j hj

/-- The order stays. -/
theorem Offer.sublist (h : Offer rank capacity x held held') : held'.Sublist (held ++ [x]) := by
  cases h with
  | room => exact List.Sublist.refl _
  | refused => exact List.sublist_append_left held [x]
  | evicted =>
    apply List.Sublist.append_right
    exact List.Sublist.append_left (List.sublist_cons_self _ _) _

theorem Offer.length_le (h : Offer rank capacity x held held') : held'.length ≤ capacity := by
  cases h with
  | room hroom => simpa using hroom
  | refused hfull => exact hfull.le
  | evicted hfull =>
    simp only [List.length_append, List.length_cons, List.length_nil] at hfull ⊢
    omega

/-- The highest of some ranks, up to a number of them. -/
structure IsTop (n : ℕ) (all kept : List ℕ) : Prop where
  length : kept.length = min n all.length
  top : ∃ others, all.Perm (kept ++ others) ∧ ∀ a ∈ kept, ∀ b ∈ others, b ≤ a

/-- They are the first ones, when all are sorted. -/
theorem IsTop.perm_take {n : ℕ} {all kept : List ℕ} (h : IsTop n all kept) :
    kept.Perm ((all.insertionSort (· ≥ ·)).take n) := by
  obtain ⟨hlength, others, hperm, htop⟩ := h
  have hsorted : all.insertionSort (· ≥ ·) =
      kept.insertionSort (· ≥ ·) ++ others.insertionSort (· ≥ ·) := by
    have hanti (a b : ℕ) (_ : a ∈ all.insertionSort (· ≥ ·))
        (_ : b ∈ kept.insertionSort (· ≥ ·) ++ others.insertionSort (· ≥ ·)) (h₁ : a ≥ b)
        (h₂ : b ≥ a) : a = b := le_antisymm h₂ h₁
    refine List.Perm.eq_of_pairwise hanti (List.pairwise_insertionSort _ _) ?_ ?_
    · refine List.pairwise_append.mpr ⟨List.pairwise_insertionSort _ _,
        List.pairwise_insertionSort _ _, fun a ha b hb => ?_⟩
      exact htop a ((List.mem_insertionSort _).mp ha) b ((List.mem_insertionSort _).mp hb)
    · refine (List.perm_insertionSort _ _).trans (hperm.trans (List.Perm.append ?_ ?_))
      · exact (List.perm_insertionSort _ _).symm
      · exact (List.perm_insertionSort _ _).symm
  have hsum := hperm.length_eq
  rw [List.length_append] at hsum
  rw [hsorted]
  rcases Nat.le_total n all.length with hle | hle
  · rw [List.take_left' (by rw [List.length_insertionSort, hlength, Nat.min_eq_left hle])]
    exact (List.perm_insertionSort _ _).symm
  · have hnone : others = [] := List.length_eq_zero_iff.mp (by omega)
    subst hnone
    rw [List.insertionSort_nil, List.append_nil, List.take_of_length_le]
    · exact (List.perm_insertionSort _ _).symm
    · rw [List.length_insertionSort, hlength]
      exact Nat.min_le_left _ _

/-- What a buffer keeps of everything it is offered are the highest ranks. -/
theorem Offer.isTop {all : List ℕ} (h : Offer rank capacity x held held')
    (htop : IsTop capacity all (held.map rank)) :
    IsTop capacity (all ++ [rank x]) (held'.map rank) := by
  obtain ⟨hlength, others, hperm, hothers⟩ := htop
  have hsum := hperm.length_eq
  simp only [List.length_append, List.length_map] at hlength hsum
  cases h with
  | room hroom =>
    have hnone : others = [] := List.length_eq_zero_iff.mp (by omega)
    subst hnone
    refine ⟨?_, [], ?_, by simp⟩
    · simp only [List.length_map, List.length_append, List.length_singleton]
      omega
    · rw [List.append_nil] at hperm ⊢
      rw [List.map_append]
      exact hperm.append_right _
  | refused hfull hlow =>
    refine ⟨?_, others ++ [rank x], ?_, ?_⟩
    · simp only [List.length_map, List.length_append, List.length_singleton]
      omega
    · rw [← List.append_assoc]
      exact hperm.append_right _
    · intro a ha b hb
      rcases List.mem_append.mp hb with hb | hb
      · exact hothers a ha b hb
      · obtain ⟨y, hy, rfl⟩ := List.mem_map.mp ha
        rw [List.mem_singleton.mp hb]
        exact hlow y hy
  | evicted hfull hlower hbefore hafter =>
    rename_i before after lost
    refine ⟨?_, rank lost :: others, ?_, ?_⟩
    · simp only [List.length_map, List.length_append, List.length_cons, List.length_nil] at *
      omega
    · simp only [List.map_append, List.map_cons, List.map_nil] at hperm ⊢
      refine (hperm.append_right _).trans ?_
      rw [List.perm_iff_count]
      intro a
      simp only [List.count_append, List.count_cons, List.count_nil]
      omega
    · intro a ha b hb
      have hlost : ∀ b ∈ others, b ≤ rank lost := fun b hb =>
        hothers (rank lost) (by simp) b hb
      obtain ⟨y, hy, rfl⟩ := List.mem_map.mp ha
      rw [List.append_assoc] at hy
      rcases List.mem_cons.mp hb with rfl | hb
      · rcases List.mem_append.mp hy with hy | hy
        · exact (hbefore y hy).le
        · rcases List.mem_append.mp hy with hy | hy
          · exact hafter y hy
          · rw [List.mem_singleton.mp hy]
            exact hlower.le
      · rcases List.mem_append.mp hy with hy | hy
        · exact hothers _ (List.mem_map_of_mem (List.mem_append_left _ hy)) b hb
        · rcases List.mem_append.mp hy with hy | hy
          · exact hothers _ (List.mem_map_of_mem (List.mem_append_right _
              (List.mem_cons_of_mem _ hy))) b hb
          · rw [List.mem_singleton.mp hy]
            exact (hlost b hb).trans hlower.le

end BoundedBuffer

end Foundation
