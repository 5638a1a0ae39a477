import Mathlib.Algebra.Order.Field.Basic
import Mathlib.Tactic

/-!
# Piecewise linear functions

The lines through neighbouring points whose inputs increase.  Between two inputs the value is that
of their line, beyond the ends that of the first and of the last line.
-/

set_option autoImplicit false

namespace Foundation

variable {F : Type} [Field F]

/-- The line through two points. -/
def lineThrough (p q : F × F) (x : F) : F := p.2 + (x - p.1) / (q.1 - p.1) * (q.2 - p.2)

@[simp] theorem lineThrough_left (p q : F × F) : lineThrough p q p.1 = p.2 := by
  simp [lineThrough]

theorem lineThrough_right {p q : F × F} (h : q.1 - p.1 ≠ 0) : lineThrough p q q.1 = q.2 := by
  rw [lineThrough, div_self h]
  ring

/-- The line through two points turned upside down. -/
theorem lineThrough_neg (p q : F × F) (x : F) :
    lineThrough (p.1, -p.2) (q.1, -q.2) x = -lineThrough p q x := by
  unfold lineThrough
  ring

variable [LinearOrder F]

/-- Segment `k` of `n + 2` points is the one to take for an input. -/
structure Selects (points : ℕ → F × F) (n : ℕ) (x : F) (k : ℕ) : Prop where
  le : k ≤ n
  left : 0 < k → (points k).1 ≤ x
  right : k < n → x < (points (k + 1)).1

/-- The inputs of the points increase. -/
def IncreasingInputs (points : ℕ → F × F) (n : ℕ) : Prop :=
  ∀ i j, i < j → j ≤ n + 1 → (points i).1 < (points j).1

section Values

variable {points : ℕ → F × F} {n k i : ℕ} {x : F}

omit [Field F] in
theorem IncreasingInputs.le (h : IncreasingInputs points n) {j : ℕ} (hij : i ≤ j) (hj : j ≤ n + 1) :
    (points i).1 ≤ (points j).1 := by
  rcases Nat.lt_or_eq_of_le hij with hlt | rfl
  · exact (h i j hlt hj).le
  · exact le_refl _

/-- Between two neighbouring inputs their line gives the value, whichever segment is selected. -/
theorem Selects.eq_between (hsel : Selects points n x k) (h : IncreasingInputs points n) (hi : i ≤ n)
    (hleft : (points i).1 ≤ x) (hright : x ≤ (points (i + 1)).1) :
    lineThrough (points k) (points (k + 1)) x = lineThrough (points i) (points (i + 1)) x := by
  have hk := hsel.le
  rcases lt_trichotomy k i with hlt | rfl | hgt
  · have hbefore := hsel.right (by omega)
    have hle := h.le (show k + 1 ≤ i by omega) (by omega)
    exact absurd (hbefore.trans_le (hle.trans hleft)) (lt_irrefl x)
  · rfl
  · -- the input is that of the point between the two segments
    have hafter := hsel.left (by omega)
    rcases Nat.lt_or_eq_of_le (show i + 1 ≤ k by omega) with hfar | rfl
    · have hlt := h (i + 1) k hfar (by omega)
      exact absurd (hlt.trans_le (hafter.trans hright)) (lt_irrefl _)
    · obtain rfl : x = (points (i + 1)).1 := le_antisymm hright hafter
      have hwidth : (points (i + 1)).1 - (points i).1 ≠ 0 :=
        sub_ne_zero.mpr (h i (i + 1) (by omega) (by omega)).ne'
      rw [lineThrough_left, lineThrough_right hwidth]

omit [Field F] in
/-- Before the first input the first segment is selected. -/
theorem Selects.eq_first (hsel : Selects points n x k) (h : IncreasingInputs points n)
    (hx : x ≤ (points 0).1) : k = 0 := by
  have hk := hsel.le
  by_contra hne
  have hpos : 0 < k := Nat.pos_of_ne_zero hne
  exact absurd ((h 0 k hpos (by omega)).trans_le ((hsel.left hpos).trans hx)) (lt_irrefl _)

omit [Field F] in
/-- Beyond the last input the last segment is. -/
theorem Selects.eq_last (hsel : Selects points n x k) (h : IncreasingInputs points n)
    (hx : (points (n + 1)).1 ≤ x) : k = n := by
  have hk := hsel.le
  by_contra hne
  have hlt : k < n := by omega
  have hle := h.le (show k + 1 ≤ n + 1 by omega) (le_refl _)
  exact absurd ((hsel.right hlt).trans_le (hle.trans hx)) (lt_irrefl _)

/-- **The function passes through every point.** -/
theorem Selects.eq_point (hsel : Selects points n x k) (h : IncreasingInputs points n)
    (hi : i ≤ n + 1) (hx : x = (points i).1) :
    lineThrough (points k) (points (k + 1)) x = (points i).2 := by
  rcases Nat.lt_or_eq_of_le hi with hlt | rfl
  · rw [hsel.eq_between h (show i ≤ n by omega) hx.ge (hx.le.trans (h.le (by omega) (by omega))), hx,
      lineThrough_left]
  · have hwidth : (points (n + 1)).1 - (points n).1 ≠ 0 :=
      sub_ne_zero.mpr (h n (n + 1) (by omega) (by omega)).ne'
    rw [hsel.eq_last h hx.ge, hx, lineThrough_right hwidth]

end Values

section Monotone

variable [IsStrictOrderedRing F] {points : ℕ → F × F} {n k l : ℕ} {x y : F}

/-- A line between two points in order does not fall. -/
theorem lineThrough_mono {p q : F × F} (hinputs : p.1 < q.1) (houtputs : p.2 ≤ q.2) (hxy : x ≤ y) :
    lineThrough p q x ≤ lineThrough p q y := by
  have hwidth : 0 ≤ q.1 - p.1 := (sub_pos.mpr hinputs).le
  have hrise : 0 ≤ q.2 - p.2 := sub_nonneg.mpr houtputs
  unfold lineThrough
  gcongr

/-- **The function does not fall if the outputs do not.** -/
theorem Selects.monotone (hx : Selects points n x k) (hy : Selects points n y l)
    (h : IncreasingInputs points n) (houtputs : ∀ i ≤ n, (points i).2 ≤ (points (i + 1)).2)
    (hxy : x ≤ y) :
    lineThrough (points k) (points (k + 1)) x ≤ lineThrough (points l) (points (l + 1)) y := by
  have hk := hx.le
  have hl := hy.le
  have hline (i : ℕ) (hi : i ≤ n) {a b : F} (hab : a ≤ b) :
      lineThrough (points i) (points (i + 1)) a ≤ lineThrough (points i) (points (i + 1)) b :=
    lineThrough_mono (h i (i + 1) (by omega) (by omega)) (houtputs i hi) hab
  rcases lt_trichotomy k l with hlt | rfl | hgt
  · have hwidth : (points (k + 1)).1 - (points k).1 ≠ 0 :=
      sub_ne_zero.mpr (h k (k + 1) (by omega) (by omega)).ne'
    have hrise : (points (k + 1)).2 ≤ (points l).2 := by
      have hmono (j : ℕ) (hj : k + 1 ≤ j) (hjl : j ≤ l) : (points (k + 1)).2 ≤ (points j).2 := by
        induction j, hj using Nat.le_induction with
        | base => exact le_refl _
        | succ j hj ih => exact (ih (by omega)).trans (houtputs j (by omega))
      exact hmono l (by omega) (le_refl l)
    calc lineThrough (points k) (points (k + 1)) x
        ≤ lineThrough (points k) (points (k + 1)) (points (k + 1)).1 :=
          hline k hk (hx.right (by omega)).le
      _ = (points (k + 1)).2 := lineThrough_right hwidth
      _ ≤ (points l).2 := hrise
      _ = lineThrough (points l) (points (l + 1)) (points l).1 := (lineThrough_left _ _).symm
      _ ≤ lineThrough (points l) (points (l + 1)) y := hline l hl (hy.left (by omega))
  · exact hline k hk hxy
  · -- the segments are selected in the order of the inputs
    have hle := h.le (show l + 1 ≤ k by omega) (by omega)
    have hfalse := (hy.right (by omega)).trans_le (hle.trans ((hx.left (by omega)).trans hxy))
    exact absurd hfalse (lt_irrefl y)

/-- It does not rise if the outputs do not. -/
theorem Selects.antitone (hx : Selects points n x k) (hy : Selects points n y l)
    (h : IncreasingInputs points n) (houtputs : ∀ i ≤ n, (points (i + 1)).2 ≤ (points i).2)
    (hxy : x ≤ y) :
    lineThrough (points l) (points (l + 1)) y ≤ lineThrough (points k) (points (k + 1)) x := by
  let turned (i : ℕ) : F × F := ((points i).1, -(points i).2)
  have hturned (i : ℕ) (z : F) : lineThrough (turned i) (turned (i + 1)) z =
      -lineThrough (points i) (points (i + 1)) z := lineThrough_neg _ _ z
  have hmono := Selects.monotone (n := n) (k := k) (l := l) (show Selects turned n x k from ⟨hx.le, hx.left, hx.right⟩)
    ⟨hy.le, hy.left, hy.right⟩ h (fun i hi => neg_le_neg (houtputs i hi)) hxy
  rw [hturned, hturned] at hmono
  exact neg_le_neg_iff.mp hmono

end Monotone

end Foundation
