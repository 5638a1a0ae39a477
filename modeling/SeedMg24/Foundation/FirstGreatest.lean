import Mathlib.Algebra.Order.Ring.Defs
import Mathlib.Tactic

/-!
# The first greatest value

A scan for the greatest positive value of a list from an index on, which keeps the first of several.
-/

set_option autoImplicit false

namespace Foundation

variable {K : Type} [Zero K] [LinearOrder K]

/-- The greatest value from an index on, and its own index; zero, if no value is positive. -/
def firstGreatest (first : ℕ) (values : List K) : K × ℕ :=
  values.zipIdx.foldl (fun found value =>
    if first ≤ value.2 ∧ found.1 < value.1 then value else found) (0, 0)

/-- What a scan of the values up to a number may find. -/
inductive IsFirstGreatest (first count : ℕ) (f : ℕ → K) : K × ℕ → Prop where
  | nothing (h : ∀ i, first ≤ i → i < count → f i ≤ 0) : IsFirstGreatest first count f (0, 0)
  | found (index : ℕ) (hfirst : first ≤ index) (hcount : index < count) (hpos : 0 < f index)
      (hgreatest : ∀ i, first ≤ i → i < count → f i ≤ f index)
      (hearlier : ∀ i, first ≤ i → i < index → f i < f index) :
      IsFirstGreatest first count f (f index, index)

omit [Zero K] [LinearOrder K] in
theorem zipIdx_range_succ (f : ℕ → K) (count : ℕ) :
    ((List.range (count + 1)).map f).zipIdx =
      ((List.range count).map f).zipIdx ++ [(f count, count)] := by
  rw [List.range_succ, List.map_append, List.zipIdx_append, List.length_map, List.length_range,
    Nat.zero_add]
  rfl

/-- What has been found so far is not negative. -/
theorem IsFirstGreatest.fst_nonneg {first count : ℕ} {f : ℕ → K} {found : K × ℕ}
    (h : IsFirstGreatest first count f found) : 0 ≤ found.1 := by
  cases h with
  | nothing _ => exact le_rfl
  | found _ _ _ hpos _ _ => exact hpos.le

/-- What has been found so far is not exceeded. -/
theorem IsFirstGreatest.le_fst {first count : ℕ} {f : ℕ → K} {found : K × ℕ}
    (h : IsFirstGreatest first count f found) (i : ℕ) (hfirst : first ≤ i) (hcount : i < count) :
    f i ≤ found.1 := by
  cases h with
  | nothing hall => exact hall i hfirst hcount
  | found _ _ _ _ hgreatest _ => exact hgreatest i hfirst hcount

/-- **A scan finds the first greatest value.** -/
theorem isFirstGreatest_firstGreatest (first count : ℕ) (f : ℕ → K) :
    IsFirstGreatest first count f (firstGreatest first ((List.range count).map f)) := by
  induction count with
  | zero => exact .nothing fun i _ hi => absurd hi (Nat.not_lt_zero i)
  | succ count ih =>
    have hstep : firstGreatest first ((List.range (count + 1)).map f) =
        if first ≤ count ∧ (firstGreatest first ((List.range count).map f)).1 < f count then
          (f count, count) else firstGreatest first ((List.range count).map f) := by
      unfold firstGreatest
      rw [zipIdx_range_succ, List.foldl_concat]
    rw [hstep]
    generalize firstGreatest first ((List.range count).map f) = found at ih
    by_cases hnew : first ≤ count ∧ found.1 < f count
    · rw [if_pos hnew]
      have hbelow := fun i hfirst hi => (ih.le_fst i hfirst hi).trans_lt hnew.2
      refine .found count hnew.1 count.lt_succ_self (ih.fst_nonneg.trans_lt hnew.2)
        (fun i hfirst hi => ?_) hbelow
      obtain hlt | rfl := Nat.lt_succ_iff_lt_or_eq.mp hi
      · exact (hbelow i hfirst hlt).le
      · exact le_rfl
    · rw [if_neg hnew]
      have hlast : ∀ i, first ≤ i → i < count + 1 → f i ≤ found.1 := by
        intro i hfirst hi
        obtain hlt | rfl := Nat.lt_succ_iff_lt_or_eq.mp hi
        · exact ih.le_fst i hfirst hlt
        · exact not_lt.mp fun hgt => hnew ⟨hfirst, hgt⟩
      cases ih with
      | nothing _ => exact .nothing hlast
      | found index hfirst hcount hpos _ hearlier =>
        exact .found index hfirst (hcount.trans count.lt_succ_self) hpos hlast hearlier

end Foundation
