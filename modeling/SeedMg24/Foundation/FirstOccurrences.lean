import Mathlib.Data.List.Induction
import Mathlib.Data.List.Nodup

/-!
# First occurrences

The members of a list with a key that no member before has.  Their keys are those of the list, each
once, and they stay the first ones when the members with a key change.
-/

set_option autoImplicit false

namespace Foundation

variable {α κ : Type} [DecidableEq κ] (key : α → κ)

/-- The members with a key that no member before has, in their order. -/
def firstOccurrences (xs : List α) : List α :=
  xs.foldl (fun firsts x => if key x ∈ firsts.map key then firsts else firsts ++ [x]) []

@[simp] theorem firstOccurrences_nil : firstOccurrences key [] = [] := rfl

/-- One more member, in terms of the keys that are kept. -/
theorem firstOccurrences_concat (xs : List α) (x : α) :
    firstOccurrences key (xs ++ [x]) =
      if key x ∈ (firstOccurrences key xs).map key then firstOccurrences key xs
      else firstOccurrences key xs ++ [x] := by
  unfold firstOccurrences
  rw [List.foldl_append]
  rfl

/-- One more member with a key there is already. -/
theorem firstOccurrences_of_mem {xs : List α} {x : α}
    (h : key x ∈ (firstOccurrences key xs).map key) :
    firstOccurrences key (xs ++ [x]) = firstOccurrences key xs := by
  rw [firstOccurrences_concat, if_pos h]

/-- One more member with another key. -/
theorem firstOccurrences_of_notMem {xs : List α} {x : α}
    (h : key x ∉ (firstOccurrences key xs).map key) :
    firstOccurrences key (xs ++ [x]) = firstOccurrences key xs ++ [x] := by
  rw [firstOccurrences_concat, if_neg h]

/-- The members with a key are the first one with it, if there is one. -/
theorem filter_firstOccurrences (k : κ) (xs : List α) :
    (firstOccurrences key xs).filter (fun x => key x = k) = (xs.find? fun x => key x = k).toList := by
  induction xs using List.reverseRecOn with
  | nil => rfl
  | append_singleton xs x ih =>
    by_cases hkey : key x = k
    · subst hkey
      cases hfound : xs.find? fun y => key y = key x with
      | none =>
        rw [hfound] at ih
        have hnew : key x ∉ (firstOccurrences key xs).map key := by
          intro hmem
          obtain ⟨y, hy, hkey⟩ := List.mem_map.mp hmem
          have hfilter : y ∈ (firstOccurrences key xs).filter fun y => key y = key x :=
            List.mem_filter.mpr ⟨hy, decide_eq_true hkey⟩
          rw [ih] at hfilter
          cases hfilter
        rw [firstOccurrences_of_notMem key hnew, List.filter_append, ih, List.find?_append, hfound]
        simp
      | some y =>
        rw [hfound] at ih
        have hmem : y ∈ (firstOccurrences key xs).filter fun y => key y = key x := by
          rw [ih]
          simp
        obtain ⟨hy, hsame⟩ := List.mem_filter.mp hmem
        have hold : key x ∈ (firstOccurrences key xs).map key :=
          List.mem_map.mpr ⟨y, hy, of_decide_eq_true hsame⟩
        rw [firstOccurrences_of_mem key hold, ih, List.find?_append, hfound]
        rfl
    · have hsame : (firstOccurrences key (xs ++ [x])).filter (fun y => key y = k) =
          (firstOccurrences key xs).filter fun y => key y = k := by
        rw [firstOccurrences_concat]
        split
        · rfl
        · rw [List.filter_append]
          simp [hkey]
      rw [hsame, ih, List.find?_append]
      simp [hkey]

/-- The first member with a key, when the members with one key change and keep it. -/
theorem find?_update {f : α → α} (hf : ∀ x, key (f x) = key x) (changed k : κ) (xs : List α) :
    (xs.map fun x => if key x = changed then f x else x).find? (fun x => key x = k) =
      if k = changed then (xs.find? fun x => key x = k).map f
      else xs.find? fun x => key x = k := by
  rw [List.find?_map]
  have hsame : ((fun x => decide (key x = k)) ∘ fun x => if key x = changed then f x else x) =
      fun x => decide (key x = k) := by
    funext x
    rw [Function.comp_apply]
    split
    · rw [hf]
    · rfl
  rw [hsame]
  cases hfind : xs.find? fun x => key x = k with
  | none => simp
  | some x =>
    have hkey : key x = k := by simpa using List.find?_some hfind
    rw [Option.map_some, Option.map_some, hkey]
    split <;> rfl

end Foundation
