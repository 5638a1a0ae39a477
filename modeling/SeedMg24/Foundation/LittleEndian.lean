import Mathlib.Tactic

/-!
# Little-endian words

A natural number as a fixed number of bytes, least significant first, and back.  The two maps
are inverse to each other on numbers that fit and on byte strings of the right length; the
rest of a longer byte string is never looked at.
-/

set_option autoImplicit false

namespace Foundation.LittleEndian

/-- The `w` low bytes of `n`, least significant first. -/
def bytes : ℕ → ℕ → List UInt8
  | 0, _ => []
  | w + 1, n => UInt8.ofNat n :: bytes w (n / 256)

/-- The number whose bytes, least significant first, are given. -/
def value : List UInt8 → ℕ
  | [] => 0
  | b :: bs => b.toNat + 256 * value bs

@[simp] theorem length_bytes (w n : ℕ) : (bytes w n).length = w := by
  induction w generalizing n with
  | zero => rfl
  | succ w ih => simp only [bytes, List.length_cons, ih]

theorem value_bytes_mod (w n : ℕ) : value (bytes w n) = n % 256 ^ w := by
  induction w generalizing n with
  | zero => simp [bytes, value, Nat.mod_one]
  | succ w ih =>
    have hbyte : (UInt8.ofNat n).toNat = n % 256 := by simp
    rw [bytes, value, ih, hbyte, pow_succ', Nat.mod_mul]

/-- Reading back a number that fits its width. -/
theorem value_bytes {w n : ℕ} (h : n < 256 ^ w) : value (bytes w n) = n := by
  rw [value_bytes_mod, Nat.mod_eq_of_lt h]

theorem value_lt (bs : List UInt8) : value bs < 256 ^ bs.length := by
  induction bs with
  | nil => simp [value]
  | cons b bs ih =>
    have hb := b.toNat_lt
    rw [value, List.length_cons, pow_succ']
    omega

/-- Writing back the number some bytes stand for. -/
theorem bytes_value (bs : List UInt8) : bytes bs.length (value bs) = bs := by
  induction bs with
  | nil => rfl
  | cons b bs ih =>
    have hb : b.toNat < 256 := b.toNat_lt
    have hdiv : (b.toNat + 256 * value bs) / 256 = value bs := by omega
    have hlow : UInt8.ofNat (b.toNat + 256 * value bs) = b := by
      rw [← UInt8.toNat_inj]
      simp
    rw [List.length_cons, value, bytes, hlow, hdiv, ih]

/-- The first bytes of a byte string that starts with a written word are that word. -/
theorem value_take_bytes {w n : ℕ} (h : n < 256 ^ w) (rest : List UInt8) :
    value ((bytes w n ++ rest).take w) = n := by
  rw [List.take_left' (length_bytes w n), value_bytes h]

end Foundation.LittleEndian
