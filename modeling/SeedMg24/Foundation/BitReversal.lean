import Mathlib.Algebra.Order.Ring.Nat
import Mathlib.Data.List.GetD
import Mathlib.Data.Nat.Bitwise
import Mathlib.Tactic

/-!
# Bits in reverse order

The numbers below a power of two with their bits in reverse order, a counter that counts in this
order, and the exchanges that put an array into it.
-/

set_option autoImplicit false

namespace Foundation

/-- The lowest bits of a number in reverse order. -/
def reverseBits : ℕ → ℕ → ℕ
  | 0, _ => 0
  | width + 1, n => n % 2 * 2 ^ width + reverseBits width (n / 2)

theorem reverseBits_succ (width n : ℕ) :
    reverseBits (width + 1) n = n % 2 * 2 ^ width + reverseBits width (n / 2) := rfl

theorem reverseBits_lt (width n : ℕ) : reverseBits width n < 2 ^ width := by
  induction width generalizing n with
  | zero => exact Nat.one_pos
  | succ width ih =>
    have hrest := ih (n / 2)
    rw [reverseBits_succ, pow_succ]
    obtain hbit | hbit := Nat.mod_two_eq_zero_or_one n
    · rw [hbit]
      omega
    · rw [hbit]
      omega

@[simp] theorem reverseBits_zero (width : ℕ) : reverseBits width 0 = 0 := by
  induction width with
  | zero => rfl
  | succ width ih => rw [reverseBits_succ, Nat.zero_div, ih, Nat.zero_mod, Nat.zero_mul]

/-- An even number loses its lowest bit, which was the highest of the reversed one. -/
theorem reverseBits_even (width n : ℕ) :
    reverseBits (width + 1) (2 * n) = reverseBits width n := by
  rw [reverseBits_succ, Nat.mul_mod_right, Nat.zero_mul, Nat.zero_add,
    Nat.mul_div_cancel_left _ Nat.two_pos]

theorem reverseBits_odd (width n : ℕ) :
    reverseBits (width + 1) (2 * n + 1) = 2 ^ width + reverseBits width n := by
  rw [reverseBits_succ, Nat.mul_add_mod, Nat.mod_eq_of_lt Nat.one_lt_two, Nat.one_mul,
    Nat.mul_add_div Nat.two_pos, Nat.div_eq_of_lt Nat.one_lt_two, Nat.add_zero]

/-- The highest bit of a number is the lowest of the reversed one. -/
theorem reverseBits_add_mul (width low high : ℕ) (hlow : low < 2 ^ width) (hhigh : high < 2) :
    reverseBits (width + 1) (low + high * 2 ^ width) = 2 * reverseBits width low + high := by
  induction width generalizing low with
  | zero =>
    obtain rfl : low = 0 := by omega
    rw [pow_zero, Nat.mul_one, reverseBits_succ, Nat.zero_add, Nat.mod_eq_of_lt hhigh]
    simp [reverseBits]
  | succ width ih =>
    have hhalf : low / 2 < 2 ^ width := by
      rw [pow_succ] at hlow
      omega
    have hmod : (low + high * 2 ^ (width + 1)) % 2 = low % 2 := by
      rw [pow_succ, ← Nat.mul_assoc]
      omega
    have hdiv : (low + high * 2 ^ (width + 1)) / 2 = low / 2 + high * 2 ^ width := by
      rw [pow_succ, ← Nat.mul_assoc]
      omega
    rw [reverseBits_succ, hmod, hdiv, ih _ hhalf, reverseBits_succ width low, pow_succ]
    ring

/-- **Reversing twice gives the number back.** -/
theorem reverseBits_reverseBits (width n : ℕ) (h : n < 2 ^ width) :
    reverseBits width (reverseBits width n) = n := by
  induction width generalizing n with
  | zero =>
    rw [pow_zero] at h
    exact (Nat.lt_one_iff.mp h).symm
  | succ width ih =>
    have hhalf : n / 2 < 2 ^ width := by
      rw [pow_succ] at h
      omega
    rw [reverseBits_succ width n, Nat.add_comm (n % 2 * 2 ^ width),
      reverseBits_add_mul width _ _ (reverseBits_lt width _) (Nat.mod_lt _ Nat.two_pos),
      ih _ hhalf]
    omega

/-! ## Counting in reverse order -/

/-- One more, where the carry goes from the highest bit down. -/
def reverseNext : ℕ → ℕ → ℕ
  | 0, reversed => reversed
  | width + 1, reversed =>
    if reversed.testBit width then reverseNext width (reversed ^^^ 2 ^ width)
    else reversed ^^^ 2 ^ width

/-- A bit above all others is taken away. -/
theorem xor_two_pow_of_lt {width low : ℕ} (h : low < 2 ^ width) :
    (2 ^ width + low) ^^^ 2 ^ width = low := by
  refine Nat.eq_of_testBit_eq fun i => ?_
  rw [Nat.testBit_xor, Nat.testBit_two_pow]
  obtain hi | rfl | hi := Nat.lt_trichotomy i width
  · rw [Nat.testBit_two_pow_add_gt hi, decide_eq_false (by omega), Bool.xor_false]
  · rw [Nat.testBit_two_pow_add_eq, decide_eq_true rfl, Nat.testBit_lt_two_pow h]
    rfl
  · have hpow : 2 ^ (width + 1) ≤ 2 ^ i := Nat.pow_le_pow_right Nat.two_pos hi
    rw [pow_succ] at hpow
    rw [Nat.testBit_lt_two_pow (by omega), Nat.testBit_lt_two_pow (by omega),
      decide_eq_false (by omega)]
    rfl

/-- A bit above all others is put in. -/
theorem xor_two_pow_of_lt' {width low : ℕ} (h : low < 2 ^ width) :
    low ^^^ 2 ^ width = 2 ^ width + low := by
  rw [← xor_two_pow_of_lt h, Nat.xor_assoc, Nat.xor_self, Nat.xor_zero, xor_two_pow_of_lt h]

/-- **The counter shows the next number with its bits reversed.** -/
theorem reverseNext_reverseBits (width n : ℕ) (h : n + 1 < 2 ^ width) :
    reverseNext width (reverseBits width n) = reverseBits width (n + 1) := by
  induction width generalizing n with
  | zero =>
    rw [pow_zero] at h
    omega
  | succ width ih =>
    have hlow := reverseBits_lt width (n / 2)
    unfold reverseNext
    obtain hbit | hbit := Nat.mod_two_eq_zero_or_one n
    · have hcurrent : reverseBits (width + 1) n = reverseBits width (n / 2) := by
        rw [reverseBits_succ, hbit, Nat.zero_mul, Nat.zero_add]
      rw [hcurrent, Nat.testBit_lt_two_pow hlow, if_neg (by decide), xor_two_pow_of_lt' hlow]
      have hodd : n + 1 = 2 * (n / 2) + 1 := by omega
      rw [hodd, reverseBits_odd]
    · have hcurrent : reverseBits (width + 1) n = 2 ^ width + reverseBits width (n / 2) := by
        rw [reverseBits_succ, hbit, Nat.one_mul]
      have hnext : n / 2 + 1 < 2 ^ width := by
        rw [pow_succ] at h
        omega
      rw [hcurrent, Nat.testBit_two_pow_add_eq, Nat.testBit_lt_two_pow hlow,
        if_pos (by decide), xor_two_pow_of_lt hlow, ih _ hnext]
      have heven : n + 1 = 2 * (n / 2 + 1) := by omega
      rw [heven, reverseBits_even]

/-! ## Putting an array into reverse order -/

variable {α : Type}

/-- An array with two entries exchanged. -/
def exchanged (f : ℕ → α) (i j : ℕ) : ℕ → α := Function.update (Function.update f i (f j)) j (f i)

/-- The entries up to an index, each exchanged with its partner when the partner comes later. -/
def exchangedUpTo (partner : ℕ → ℕ) (f : ℕ → α) : ℕ → ℕ → α
  | 0 => f
  | n + 1 =>
    if n < partner n then exchanged (exchangedUpTo partner f n) n (partner n)
    else exchangedUpTo partner f n

/-- **Exchanging along an involution rearranges the array by it.**  The entry at an index is the
partner's as soon as the earlier of the two has been passed. -/
theorem exchangedUpTo_apply (partner : ℕ → ℕ) (f : ℕ → α)
    (bound : ℕ) (hpartner : ∀ i < bound, partner i < bound ∧ partner (partner i) = i)
    (n : ℕ) (hn : n ≤ bound) (i : ℕ) (hi : i < bound) :
    exchangedUpTo partner f n i = if min i (partner i) < n then f (partner i) else f i := by
  induction n generalizing i with
  | zero => rw [if_neg (Nat.not_lt_zero _)]; rfl
  | succ n ih =>
    have hstep := fun i hi => ih (by omega) i hi
    obtain ⟨hbound, hback⟩ := hpartner n (by omega)
    obtain ⟨hibound, hiback⟩ := hpartner i hi
    unfold exchangedUpTo
    by_cases hlater : n < partner n
    · rw [if_pos hlater]
      unfold exchanged
      by_cases hlast : i = partner n
      · subst hlast
        rw [Function.update_self, hstep n (by omega), hback, if_neg (by omega), if_pos (by omega)]
      · rw [Function.update_of_ne hlast]
        by_cases hthis : i = n
        · subst hthis
          rw [Function.update_self, hstep _ hbound, hback, if_neg (by omega), if_pos (by omega)]
        · rw [Function.update_of_ne hthis, hstep i hi]
          have hne : partner i ≠ n := fun h => hlast (by rw [← h, hiback])
          by_cases hless : min i (partner i) < n
          · rw [if_pos hless, if_pos (by omega)]
          · rw [if_neg hless, if_neg (by omega)]
    · rw [if_neg hlater, hstep i hi]
      by_cases hless : min i (partner i) < n
      · rw [if_pos hless, if_pos (by omega)]
      · rw [if_neg hless]
        by_cases hthis : min i (partner i) < n + 1
        · rw [if_pos hthis]
          -- the index or its partner is the one passed, and not the earlier of two: both are one
          have hsame : partner i = i := by
            by_cases hin : i = n
            · subst hin
              omega
            · have hpn : partner i = n := by omega
              rw [← hpn, hiback] at hlater
              omega
          rw [hsame]
        · rw [if_neg hthis]

end Foundation
