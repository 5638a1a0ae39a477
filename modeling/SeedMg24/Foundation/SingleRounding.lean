import SeedMg24.Foundation.SingleArithmetic

/-!
# Rounding to a 32-bit float is monotone

Products, quotients and comparisons of 32-bit floats, and the order rounding keeps: what lies between
two floats is rounded to something between them.
-/

set_option autoImplicit false

namespace Foundation

/-- The nearest integers are in the order of the numbers. -/
theorem roundEven_mono {q r : ℚ} (h : q ≤ r) : roundEven q ≤ roundEven r := by
  by_contra hlt
  have hstep : (roundEven r : ℚ) + 1 ≤ roundEven q := by exact_mod_cast not_le.mp hlt
  have hq := abs_le.mp (abs_roundEven_sub_le q)
  have hr := abs_le.mp (abs_roundEven_sub_le r)
  have heq : q = r := by linarith
  subst heq
  exact hlt (le_refl _)

namespace Single

/-! ## Operations -/

/-- The product of two floats. -/
def mul : Single → Single → Single
  | nan, _ => nan
  | _, nan => nan
  | infinite a, infinite b => infinite (a != b)
  | infinite a, finite b n _ => if n = 0 then nan else infinite (a != b)
  | finite a m _, infinite b => if m = 0 then nan else infinite (a != b)
  | finite a m e, finite b n f => nearest ((finite a m e).value * (finite b n f).value)

/-- The quotient of two floats. -/
def div : Single → Single → Single
  | nan, _ => nan
  | _, nan => nan
  | infinite _, infinite _ => nan
  | infinite a, finite b _ _ => infinite (a != b)
  | finite _ _ _, infinite _ => zero
  | finite a m e, finite b n f =>
    if n = 0 then (if m = 0 then nan else infinite (a != b))
    else nearest ((finite a m e).value / (finite b n f).value)

/-- The absolute value of a float. -/
def abs : Single → Single
  | nan => nan
  | infinite _ => infinite false
  | finite _ mantissa exponent => finite false mantissa exponent

/-- A whole number as a float. -/
def ofNat (n : ℕ) : Single := nearest n

/-- A whole number as a float. -/
def ofInt (n : ℤ) : Single := nearest n

/-- Whether a float is less than another one. -/
def lt (x y : Single) : Bool := x.le y && !y.le x

/-- A float that is not negative, without its fraction. -/
def toNat (x : Single) : ℕ := ⌊x.value⌋.toNat

/-! ## Order -/

theorem mantissaAt_mono {q r : ℚ} (hq : 0 ≤ q) (h : q ≤ r) (exponent : Fin 254) :
    mantissaAt q exponent ≤ mantissaAt r exponent := by
  unfold mantissaAt
  rw [abs_of_nonneg hq, abs_of_nonneg (hq.trans h)]
  apply Int.toNat_le_toNat
  apply roundEven_mono
  gcongr

/-- What a number is rounded to, if it is finite: the exponent is the first at which the mantissa
fits. -/
theorem nearest_spec {q : ℚ} (hq : 0 ≤ q) (h : (nearest q).isFinite = true) :
    ∃ e : Fin 254, mantissaAt q e < 2 ^ 24 ∧ (∀ e' < e, 2 ^ 24 ≤ mantissaAt q e') ∧
      (nearest q).value = mantissaAt q e * 2 ^ ((e.val : ℤ) - 149) := by
  unfold nearest at h ⊢
  cases hfind : (List.finRange 254).find? fun e => mantissaAt q e < 2 ^ 24 with
  | none =>
    rw [hfind] at h
    cases h
  | some e =>
    obtain ⟨hfits, before, after, hsplit, hbefore⟩ := List.find?_eq_some_iff_append.mp hfind
    have hlt : mantissaAt q e < 2 ^ 24 := by simpa using hfits
    refine ⟨e, hlt, fun e' he' => ?_, ?_⟩
    · have hmem := List.mem_finRange e'
      have hsorted := List.pairwise_lt_finRange 254
      rw [hsplit] at hmem hsorted
      rcases List.mem_append.mp hmem with hearlier | hlater
      · simpa using hbefore e' hearlier
      · rcases List.mem_cons.mp hlater with rfl | hrest
        · exact absurd he' (lt_irrefl _)
        · have hge := List.rel_of_pairwise_cons (List.pairwise_append.mp hsorted).2.1 hrest
          exact absurd he' (not_lt.mpr hge.le)
    · have hneg : decide (q < 0) = false := decide_eq_false (not_lt.mpr hq)
      show (if decide (q < 0) = true then _ else _) = _
      rw [hneg, if_neg (by simp)]
      show ((mantissaAt q e % 2 ^ 24 : ℕ) : ℚ) * _ = _
      rw [Nat.mod_eq_of_lt hlt]

/-- A number with a smaller one below it that does not fit has a mantissa of full length. -/
theorem le_mantissaAt {q : ℚ} {e e' : Fin 254} (hsucc : e.val = e'.val + 1)
    (h : 2 ^ 24 ≤ mantissaAt q e') : 2 ^ 23 ≤ mantissaAt q e := by
  have hpow : (2 : ℚ) ^ ((e.val : ℤ) - 149) = 2 * 2 ^ ((e'.val : ℤ) - 149) := by
    rw [show ((e.val : ℤ) - 149) = 1 + ((e'.val : ℤ) - 149) by omega,
      zpow_add₀ (by norm_num), zpow_one]
  unfold mantissaAt at h ⊢
  have hround : ((2 ^ 24 : ℤ) : ℚ) ≤ roundEven (|q| / 2 ^ ((e'.val : ℤ) - 149)) := by
    exact_mod_cast (by omega : (2 : ℤ) ^ 24 ≤ roundEven (|q| / 2 ^ ((e'.val : ℤ) - 149)))
  have hnear := abs_le.mp (abs_roundEven_sub_le (|q| / 2 ^ ((e'.val : ℤ) - 149)))
  have hhalf : |q| / 2 ^ ((e.val : ℤ) - 149) = |q| / 2 ^ ((e'.val : ℤ) - 149) / 2 := by
    rw [hpow, div_div, mul_comm]
  have hnear' := abs_le.mp (abs_roundEven_sub_le (|q| / 2 ^ ((e.val : ℤ) - 149)))
  rw [hhalf] at hnear' ⊢
  have hlow : ((2 ^ 23 : ℤ) : ℚ) - 1 < roundEven (|q| / 2 ^ ((e'.val : ℤ) - 149) / 2) := by
    push_cast at hround ⊢
    linarith
  have hint : (2 ^ 23 : ℤ) - 1 < roundEven (|q| / 2 ^ ((e'.val : ℤ) - 149) / 2) := by
    exact_mod_cast hlow
  omega

/-- **Rounding is monotone.** -/
theorem nearest_mono {q r : ℚ} (hq : 0 ≤ q) (h : q ≤ r) (hr : (nearest r).isFinite = true) :
    (nearest q).isFinite = true ∧ (nearest q).value ≤ (nearest r).value := by
  obtain ⟨f, hf, hbelow, hvalue⟩ := nearest_spec (hq.trans h) hr
  have hfits : mantissaAt q f < 2 ^ 24 := lt_of_le_of_lt (mantissaAt_mono hq h f) hf
  have hfinite : (nearest q).isFinite = true := by
    unfold nearest
    cases hfind : (List.finRange 254).find? fun e => mantissaAt q e < 2 ^ 24 with
    | none =>
      have hnone := List.find?_eq_none.mp hfind f (List.mem_finRange f)
      exact absurd hfits (by simpa using hnone)
    | some e => rfl
  refine ⟨hfinite, ?_⟩
  obtain ⟨e, he, hfirst, hvalue'⟩ := nearest_spec hq hfinite
  rw [hvalue, hvalue']
  rcases lt_trichotomy e f with hlt | rfl | hgt
  · -- the larger number needs the larger exponent, so its mantissa is full
    have hpos : 0 < f.val := lt_of_le_of_lt (Nat.zero_le _) hlt
    obtain ⟨f', hf'⟩ : ∃ f' : Fin 254, f.val = f'.val + 1 :=
      ⟨⟨f.val - 1, by omega⟩, by show f.val = f.val - 1 + 1; omega⟩
    have hfull := le_mantissaAt hf' (hbelow f' (by rw [Fin.lt_def]; omega))
    have hexponent : (1 : ℤ) + (e.val - 149) ≤ f.val - 149 := by
      have hval : e.val < f.val := hlt
      omega
    have hpow : (2 : ℚ) * 2 ^ ((e.val : ℤ) - 149) ≤ 2 ^ ((f.val : ℤ) - 149) := by
      rw [← zpow_one_add₀ (by norm_num)]
      exact zpow_le_zpow_right₀ (by norm_num) hexponent
    have he' : (mantissaAt q e : ℚ) ≤ 2 ^ 24 := by exact_mod_cast he.le
    have hfull' : (2 : ℚ) ^ 23 ≤ mantissaAt r f := by exact_mod_cast hfull
    have hnonneg : (0 : ℚ) ≤ 2 ^ ((e.val : ℤ) - 149) := zpow_nonneg (by norm_num) _
    calc (mantissaAt q e : ℚ) * 2 ^ ((e.val : ℤ) - 149)
        ≤ 2 ^ 24 * 2 ^ ((e.val : ℤ) - 149) := by gcongr
      _ = 2 ^ 23 * (2 * 2 ^ ((e.val : ℤ) - 149)) := by ring
      _ ≤ mantissaAt r f * 2 ^ ((f.val : ℤ) - 149) := by gcongr
  · have hle : (mantissaAt q e : ℚ) ≤ mantissaAt r e := by exact_mod_cast mantissaAt_mono hq h e
    gcongr
  · exact absurd (hfirst f hgt) (not_le.mpr hfits)

theorem nearest_nonneg {q : ℚ} (hq : 0 ≤ q) (h : (nearest q).isFinite = true) :
    0 ≤ (nearest q).value := by
  obtain ⟨e, -, -, hvalue⟩ := nearest_spec hq h
  rw [hvalue]
  positivity

/-! ## Operations keep the order -/

theorem add_of_isFinite {x y : Single} (hx : x.isFinite = true) (hy : y.isFinite = true) :
    x.add y = nearest (x.value + y.value) := by
  cases x with
  | nan => cases hx
  | infinite negative => cases hx
  | finite a m e =>
    cases y with
    | nan => cases hy
    | infinite negative => cases hy
    | finite b n f => rfl

theorem mul_of_isFinite {x y : Single} (hx : x.isFinite = true) (hy : y.isFinite = true) :
    x.mul y = nearest (x.value * y.value) := by
  cases x with
  | nan => cases hx
  | infinite negative => cases hx
  | finite a m e =>
    cases y with
    | nan => cases hy
    | infinite negative => cases hy
    | finite b n f => rfl

theorem div_of_isFinite {x y : Single} (hx : x.isFinite = true) (hy : y.isFinite = true)
    (hpos : 0 < y.value) : x.div y = nearest (x.value / y.value) := by
  cases x with
  | nan => cases hx
  | infinite negative => cases hx
  | finite a m e =>
    cases y with
    | nan => cases hy
    | infinite negative => cases hy
    | finite b n f =>
      refine if_neg fun hzero => ?_
      have hvalue : (finite b n f).value = 0 := by
        unfold value magnitude
        dsimp only
        rw [hzero, Fin.val_zero, Nat.cast_zero, zero_mul, neg_zero, ite_self]
      exact absurd hvalue hpos.ne'

/-- Floats are compared by their values. -/
theorem lt_of_isFinite {x y : Single} (hx : x.isFinite = true) (hy : y.isFinite = true) :
    x.lt y = decide (x.value < y.value) := by
  cases x with
  | nan => cases hx
  | infinite negative => cases hx
  | finite a m e =>
    cases y with
    | nan => cases hy
    | infinite negative => cases hy
    | finite b n f =>
      show (decide (_ ≤ _) && !decide (_ ≤ _)) = decide (_ < _)
      rw [← decide_not, ← Bool.decide_and]
      exact decide_eq_decide.mpr ⟨fun h => not_le.mp h.2, fun h => ⟨h.le, not_le.mpr h⟩⟩

/-- What lies between two finite floats is finite. -/
theorem isFinite_of_lt {x y z : Single} (hx : x.isFinite = true) (hz : z.isFinite = true)
    (hlow : x.lt y = true) (hhigh : y.lt z = true) : y.isFinite = true := by
  cases y with
  | finite a m e => rfl
  | nan =>
    cases z with
    | finite b n f => cases hhigh
    | nan => cases hz
    | infinite negative => cases hz
  | infinite negative =>
    cases x with
    | nan => cases hx
    | infinite other => cases hx
    | finite b n f =>
      cases z with
      | nan => cases hz
      | infinite other => cases hz
      | finite c p g =>
        cases negative with
        | true => cases hlow
        | false => cases hhigh

theorem value_mul_nonneg {x y : Single} (hx : x.isFinite = true) (hy : y.isFinite = true)
    (hxn : 0 ≤ x.value) (hyn : 0 ≤ y.value) (h : (x.mul y).isFinite = true) :
    0 ≤ (x.mul y).value := by
  rw [mul_of_isFinite hx hy] at h ⊢
  exact nearest_nonneg (mul_nonneg hxn hyn) h

theorem value_div_nonneg {x y : Single} (hx : x.isFinite = true) (hy : y.isFinite = true)
    (hxn : 0 ≤ x.value) (hpos : 0 < y.value) (h : (x.div y).isFinite = true) :
    0 ≤ (x.div y).value := by
  rw [div_of_isFinite hx hy hpos] at h ⊢
  exact nearest_nonneg (div_nonneg hxn hpos.le) h

theorem mul_mono {a x y : Single} (hfinite : a.isFinite = true ∧ x.isFinite = true ∧
      y.isFinite = true) (ha : 0 ≤ a.value) (hx : 0 ≤ x.value) (h : x.value ≤ y.value)
    (hy : (a.mul y).isFinite = true) :
    (a.mul x).isFinite = true ∧ (a.mul x).value ≤ (a.mul y).value := by
  obtain ⟨hfa, hfx, hfy⟩ := hfinite
  rw [mul_of_isFinite hfa hfy] at hy ⊢
  rw [mul_of_isFinite hfa hfx]
  apply nearest_mono (mul_nonneg ha hx) _ hy
  gcongr

theorem div_anti {a x y : Single} (hfinite : a.isFinite = true ∧ x.isFinite = true ∧
      y.isFinite = true) (ha : 0 ≤ a.value) (hx : 0 < x.value) (h : x.value ≤ y.value)
    (hquotient : (a.div x).isFinite = true) :
    (a.div y).isFinite = true ∧ (a.div y).value ≤ (a.div x).value := by
  obtain ⟨hfa, hfx, hfy⟩ := hfinite
  have hy := lt_of_lt_of_le hx h
  rw [div_of_isFinite hfa hfx hx] at hquotient ⊢
  rw [div_of_isFinite hfa hfy hy]
  apply nearest_mono (div_nonneg ha hy.le) _ hquotient
  gcongr

theorem add_mono {x x' y y' : Single} (hx : x.isFinite = true) (hx' : x'.isFinite = true)
    (hy : y.isFinite = true) (hy' : y'.isFinite = true) (hnonneg : 0 ≤ x.value + y.value)
    (hle : x.value ≤ x'.value) (hle' : y.value ≤ y'.value)
    (hfinite : (x'.add y').isFinite = true) :
    (x.add y).isFinite = true ∧ (x.add y).value ≤ (x'.add y').value := by
  rw [add_of_isFinite hx' hy'] at hfinite ⊢
  rw [add_of_isFinite hx hy]
  exact nearest_mono hnonneg (add_le_add hle hle') hfinite

theorem toNat_mono {x y : Single} (h : x.value ≤ y.value) : x.toNat ≤ y.toNat :=
  Int.toNat_le_toNat (Int.floor_mono h)

end Single

end Foundation
