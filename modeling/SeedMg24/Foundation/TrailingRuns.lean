import Mathlib.Data.List.Infix
import Mathlib.Tactic

/-!
# How often the last member is repeated

The number of times a list ends with the same member.  It is counted up by one more of the same and
starts again with any other, which is all a machine has to remember that waits for several equal
observations in a row.
-/

set_option autoImplicit false

namespace Foundation

variable {α : Type} [DecidableEq α]

/-- How many of a member a list ends with. -/
def trailing (a : α) (xs : List α) : ℕ := (xs.reverse.takeWhile (· = a)).length

@[simp] theorem trailing_nil (a : α) : trailing a [] = 0 := rfl

theorem trailing_snoc (a b : α) (xs : List α) :
    trailing a (xs ++ [b]) = if b = a then trailing a xs + 1 else 0 := by
  unfold trailing
  rw [List.reverse_append, List.reverse_singleton, List.singleton_append, List.takeWhile_cons]
  by_cases h : b = a
  · simp [h]
  · simp [h]

/-- A list that ends with one more of a member ended with as many before. -/
theorem replicate_succ_suffix_snoc {n : ℕ} {a b : α} {xs : List α} :
    List.replicate (n + 1) a <:+ xs ++ [b] ↔ b = a ∧ List.replicate n a <:+ xs := by
  rw [List.replicate_succ', List.suffix_concat_iff]
  constructor
  · rintro (h | ⟨t, ht, hsuffix⟩)
    · simp at h
    · obtain ⟨hxs, hb⟩ := List.append_inj' ht rfl
      exact ⟨(List.singleton_inj.mp hb).symm, hxs ▸ hsuffix⟩
  · rintro ⟨rfl, h⟩
    exact .inr ⟨_, rfl, h⟩

/-- A list ends with a number of a member if it is no more than it ends with. -/
theorem le_trailing_iff {n : ℕ} {a : α} {xs : List α} :
    n ≤ trailing a xs ↔ List.replicate n a <:+ xs := by
  induction xs using List.reverseRecOn generalizing n with
  | nil =>
    rw [trailing_nil, List.suffix_nil, List.replicate_eq_nil_iff]
    omega
  | append_singleton xs b ih =>
    cases n with
    | zero => simp
    | succ n =>
      rw [trailing_snoc, replicate_succ_suffix_snoc, ← ih]
      split
      · rename_i h
        simp [h]
      · rename_i h
        simp [h]

end Foundation
