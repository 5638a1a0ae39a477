import Mathlib.Data.Nat.Digits.Lemmas
import SeedMg24.Foundation.Json

/-!
# Hexadecimal numbers

Numbers in capital hexadecimal digits, and what reading them back digit by digit leads to.
-/

set_option autoImplicit false

namespace Foundation

namespace HexNumbers

/-- A hexadecimal digit, in capitals. -/
def digitUpper (n : ℕ) : Char := (Nat.digitChar n).toUpper

/-- A number in capital digits, filled up to the width with zeros. -/
def padded (width n : ℕ) : Text := ((Nat.digits 16 n).reverse.map digitUpper).leftpad width '0'

/-- The value of digits that follow a number. -/
def valueFrom (n : ℕ) (digits : List ℕ) : ℕ := digits.foldl (fun n digit => 16 * n + digit) n

theorem valueFrom_reverse_digits (n : ℕ) : valueFrom 0 (Nat.digits 16 n).reverse = n := by
  have hfold := Nat.ofDigits_digits 16 n
  rw [Nat.ofDigits_eq_foldr] at hfold
  unfold valueFrom
  rw [List.foldl_reverse]
  refine Eq.trans ?_ hfold
  congr 1
  funext digit value
  rw [Nat.cast_id, Nat.add_comm]

theorem valueFrom_zeros (count : ℕ) (digits : List ℕ) :
    valueFrom 0 (List.replicate count 0 ++ digits) = valueFrom 0 digits := by
  induction count with
  | zero => rfl
  | succ count ih => exact ih

/-- The digits that are written, those that fill up included. -/
def paddedDigits (width n : ℕ) : List ℕ := (Nat.digits 16 n).reverse.leftpad width 0

theorem padded_eq_map (width n : ℕ) : padded width n = (paddedDigits width n).map digitUpper := by
  unfold padded paddedDigits List.leftpad
  rw [List.map_append, List.map_replicate, List.length_map]
  rfl

theorem valueFrom_paddedDigits (width n : ℕ) : valueFrom 0 (paddedDigits width n) = n := by
  unfold paddedDigits List.leftpad
  rw [valueFrom_zeros, valueFrom_reverse_digits]

theorem lt_of_mem_paddedDigits {width n digit : ℕ} (h : digit ∈ paddedDigits width n) :
    digit < 16 := by
  unfold paddedDigits List.leftpad at h
  rcases List.mem_append.mp h with hzero | hdigit
  · rw [List.eq_of_mem_replicate hzero]
    decide
  · exact Nat.digits_lt_base (by decide) (List.mem_reverse.mp hdigit)

theorem length_paddedDigits (width n : ℕ) : width ≤ (paddedDigits width n).length := by
  unfold paddedDigits
  rw [List.length_leftpad]
  exact le_max_left _ _

/-- A digit is read back. -/
theorem hexDigit_digitUpper {n : ℕ} (h : n < 16) : Json.hexDigit (digitUpper n) = some n := by
  interval_cases n <;> rfl

/-- Capitals stay as they are. -/
theorem toUpper_digitUpper {n : ℕ} (h : n < 16) : (digitUpper n).toUpper = digitUpper n := by
  interval_cases n <;> rfl

/-- The digits are no space, and not the mark between digits. -/
theorem isSpaceUnicode_digitUpper {n : ℕ} (h : n < 16) :
    Text.isSpaceUnicode (digitUpper n) = false := by
  interval_cases n <;> rfl

theorem digitUpper_ne_underscore {n : ℕ} (h : n < 16) : digitUpper n ≠ '_' := by
  interval_cases n <;> decide

end HexNumbers

end Foundation
