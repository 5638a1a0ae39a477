import SeedMg24.Foundation.LittleEndian

/-!
# Reflected cyclic redundancy checks

A remainder register of `w` bits is shifted down one bit at a time, and the polynomial is added
whenever a one falls out.  The shift is linear and, when the polynomial has its top coefficient,
injective; so bytes that fit the register are told apart by the remainder, whatever comes before and
after them.  Such a check sees every burst of errors that is no longer than the register.
-/

set_option autoImplicit false

namespace Foundation

/-! ## Bursts -/

/-- The two lists differ within some `n` consecutive places at most. -/
def DiffersWithin {α : Type} (n : ℕ) (xs ys : List α) : Prop :=
  ∃ start, ∀ i, xs[i]? ≠ ys[i]? → start ≤ i ∧ i < start + n

section Bursts

variable {α : Type} {n : ℕ} {xs ys : List α}

theorem DiffersWithin.take (h : DiffersWithin n xs ys) (k : ℕ) :
    DiffersWithin n (xs.take k) (ys.take k) := by
  obtain ⟨start, hsame⟩ := h
  refine ⟨start, fun i hi => hsame i fun heq => hi ?_⟩
  rw [List.getElem?_take, List.getElem?_take, heq]

theorem DiffersWithin.drop (h : DiffersWithin n xs ys) (k : ℕ) :
    DiffersWithin n (xs.drop k) (ys.drop k) := by
  obtain ⟨start, hsame⟩ := h
  refine ⟨start - k, fun i hi => ?_⟩
  rw [List.getElem?_drop, List.getElem?_drop] at hi
  have hwithin := hsame (k + i) hi
  omega

/-- What stands before and after the burst is the same. -/
theorem DiffersWithin.exists_split (h : DiffersWithin n xs ys) (hlength : xs.length = ys.length) :
    ∃ front rest x y, xs = front ++ (x ++ rest) ∧ ys = front ++ (y ++ rest) ∧
      x.length = y.length ∧ x.length ≤ n := by
  obtain ⟨start, hsame⟩ := h
  have hfront : xs.take start = ys.take start := by
    apply List.ext_getElem?
    intro i
    rw [List.getElem?_take, List.getElem?_take]
    split
    · by_contra hi
      have hwithin := hsame i hi
      omega
    · rfl
  have hrest : (xs.drop start).drop n = (ys.drop start).drop n := by
    apply List.ext_getElem?
    intro i
    rw [List.drop_drop, List.drop_drop, List.getElem?_drop, List.getElem?_drop]
    by_contra hi
    have hwithin := hsame _ hi
    omega
  refine ⟨xs.take start, (xs.drop start).drop n, (xs.drop start).take n, (ys.drop start).take n,
    ?_, ?_, ?_, ?_⟩
  · rw [List.take_append_drop, List.take_append_drop]
  · rw [hfront, hrest, List.take_append_drop, List.take_append_drop]
  · simp only [List.length_take, List.length_drop, hlength]
  · exact List.length_take_le _ _

end Bursts

namespace Crc

variable {w : ℕ} (p : BitVec w)

/-- One shift of the remainder. -/
def bit (x : BitVec w) : BitVec w := (x >>> 1) ^^^ (if x.getLsbD 0 then p else 0#w)

/-- A byte, in the low places of a register. -/
def ofByte (b : UInt8) : BitVec w := BitVec.ofNat w b.toNat

/-- The remainder after some bytes. -/
def update (x : BitVec w) (data : List UInt8) : BitVec w :=
  data.foldl (fun x b => (bit p)^[8] (x ^^^ ofByte b)) x

/-! ## One shift -/

theorem bit_xor (x y : BitVec w) : bit p (x ^^^ y) = bit p x ^^^ bit p y := by
  unfold bit
  rw [BitVec.ushiftRight_xor_distrib, BitVec.getLsbD_xor]
  cases x.getLsbD 0 <;> cases y.getLsbD 0 <;>
    simp only [bne_self_eq_false, Bool.xor_false, Bool.xor_true, Bool.not_false,
      Bool.false_eq_true, if_true, if_false, BitVec.xor_zero]
  · ac_rfl
  · ac_rfl
  · have hcancel : (x >>> 1 ^^^ p) ^^^ (y >>> 1 ^^^ p) = (x >>> 1 ^^^ y >>> 1) ^^^ (p ^^^ p) := by
      ac_rfl
    rw [hcancel, BitVec.xor_self, BitVec.xor_zero]

/-- A register whose lowest bit is clear only moves down. -/
theorem bit_double {n : ℕ} (h : 2 * n < 2 ^ w) : bit p (BitVec.ofNat w (2 * n)) = BitVec.ofNat w n := by
  have hlow : (BitVec.ofNat w (2 * n)).getLsbD 0 = false := by
    simp [BitVec.getLsbD_ofNat]
  unfold bit
  rw [hlow, if_neg Bool.false_ne_true, BitVec.xor_zero]
  apply BitVec.eq_of_toNat_eq
  rw [BitVec.toNat_ushiftRight, BitVec.toNat_ofNat, BitVec.toNat_ofNat, Nat.mod_eq_of_lt h,
    Nat.mod_eq_of_lt (by omega), Nat.shiftRight_one]
  omega

/-- Only zero is shifted to zero: the polynomial would leave its top bit. -/
theorem eq_zero_of_bit (hp : p.msb = true) {x : BitVec w} (h : bit p x = 0#w) : x = 0#w := by
  unfold bit at h
  have hlow : x.getLsbD 0 = false := by
    by_contra hone
    rw [Bool.not_eq_false] at hone
    have hmsb := congrArg BitVec.msb h
    rw [if_pos hone, BitVec.msb_xor, hp, BitVec.msb_zero, BitVec.msb_ushiftRight] at hmsb
    simp at hmsb
  rw [hlow, if_neg Bool.false_ne_true, BitVec.xor_zero] at h
  apply BitVec.eq_of_getLsbD_eq
  intro i _
  rw [BitVec.getLsbD_zero]
  cases i with
  | zero => exact hlow
  | succ i =>
    have hbit := congrArg (fun y => y.getLsbD i) h
    rwa [BitVec.getLsbD_ushiftRight, BitVec.getLsbD_zero, Nat.add_comm] at hbit

theorem bit_injective (hp : p.msb = true) : Function.Injective (bit p) := by
  intro x y h
  have hzero : x ^^^ y = 0#w := by
    apply eq_zero_of_bit p hp
    rw [bit_xor, h, BitVec.xor_self]
  exact BitVec.xor_eq_zero_iff.mp hzero

/-! ## Bytes -/

theorem iterate_bit_xor (n : ℕ) (x y : BitVec w) :
    (bit p)^[n] (x ^^^ y) = (bit p)^[n] x ^^^ (bit p)^[n] y := by
  induction n generalizing x y with
  | zero => rfl
  | succ n ih =>
    rw [Function.iterate_succ_apply, Function.iterate_succ_apply, Function.iterate_succ_apply,
      bit_xor, ih]

theorem iterate_bit_double {n m : ℕ} (h : 2 ^ n * m < 2 ^ w) :
    (bit p)^[n] (BitVec.ofNat w (2 ^ n * m)) = BitVec.ofNat w m := by
  induction n with
  | zero => rw [Function.iterate_zero_apply, pow_zero, one_mul]
  | succ n ih =>
    have hdouble : 2 ^ (n + 1) * m = 2 * (2 ^ n * m) := by ring
    rw [hdouble] at h
    rw [Function.iterate_succ_apply, hdouble, bit_double p h, ih (by omega)]

/-- The lowest byte of a number and the others. -/
theorem ofNat_value_cons (b : UInt8) (bs : List UInt8) :
    BitVec.ofNat w (LittleEndian.value (b :: bs)) =
      ofByte b ^^^ BitVec.ofNat w (2 ^ 8 * LittleEndian.value bs) := by
  rw [ofByte, ← BitVec.ofNat_xor]
  congr 1
  apply Nat.eq_of_testBit_eq
  intro j
  have hb : b.toNat < 2 ^ 8 := b.toNat_lt
  have hvalue : LittleEndian.value (b :: bs) = 2 ^ 8 * LittleEndian.value bs + b.toNat := by
    rw [LittleEndian.value]
    omega
  rw [hvalue, Nat.testBit_two_pow_mul_add _ hb, Nat.testBit_xor, Nat.testBit_two_pow_mul]
  by_cases hj : j < 8
  · rw [if_pos hj, decide_eq_false (by omega), Bool.false_and, Bool.xor_false]
  · have hhigh : b.toNat.testBit j = false :=
      Nat.testBit_lt_two_pow (hb.trans_le (Nat.pow_le_pow_right (by decide) (by omega)))
    rw [if_neg hj, hhigh, decide_eq_true (by omega), Bool.true_and, Bool.false_xor]

theorem update_append (x : BitVec w) (xs ys : List UInt8) :
    update p x (xs ++ ys) = update p (update p x xs) ys := List.foldl_append

/-- Bytes that fit the register are added to it at once: those that come later only move down while
the earlier ones are shifted out. -/
theorem update_eq {data : List UInt8} (h : 8 * data.length ≤ w) (x : BitVec w) :
    update p x data = (bit p)^[8 * data.length] (x ^^^ BitVec.ofNat w (LittleEndian.value data)) := by
  induction data generalizing x with
  | nil => simp [update, LittleEndian.value]
  | cons b bs ih =>
    rw [List.length_cons] at h ⊢
    have hfits : 2 ^ 8 * LittleEndian.value bs < 2 ^ w := by
      have hvalue := LittleEndian.value_lt bs
      have hpow : 2 ^ 8 * 256 ^ bs.length ≤ 2 ^ w := by
        rw [show (256 : ℕ) = 2 ^ 8 by rfl, ← pow_mul, ← pow_add]
        exact Nat.pow_le_pow_right (by decide) (by omega)
      omega
    calc update p x (b :: bs)
        = update p ((bit p)^[8] (x ^^^ ofByte b)) bs := rfl
      _ = (bit p)^[8 * bs.length] ((bit p)^[8] (x ^^^ ofByte b) ^^^
            BitVec.ofNat w (LittleEndian.value bs)) := ih (by omega) _
      _ = (bit p)^[8 * bs.length] ((bit p)^[8] (x ^^^ ofByte b) ^^^
            (bit p)^[8] (BitVec.ofNat w (2 ^ 8 * LittleEndian.value bs))) := by
          rw [iterate_bit_double p hfits]
      _ = (bit p)^[8 * bs.length + 8] (x ^^^ BitVec.ofNat w (LittleEndian.value (b :: bs))) := by
          rw [← iterate_bit_xor, ← Function.iterate_add_apply, ofNat_value_cons, BitVec.xor_assoc]
      _ = _ := by rw [Nat.mul_succ]

/-! ## Bursts and code words -/

/-- The remainder after the same bytes tells where it started. -/
theorem update_injective (hp : p.msb = true) (data : List UInt8) :
    Function.Injective fun x => update p x data := by
  induction data with
  | nil => exact fun _ _ h => h
  | cons b bs ih =>
    intro x y h
    have hbyte : (bit p)^[8] (x ^^^ ofByte b) = (bit p)^[8] (y ^^^ ofByte b) := ih h
    exact (BitVec.xor_left_inj _).mp ((bit_injective p hp).iterate 8 hbyte)

/-- Bytes that fit the register are told apart. -/
theorem eq_of_update (hp : p.msb = true) {x : BitVec w} {xs ys : List UInt8}
    (hlength : xs.length = ys.length) (hfits : 8 * xs.length ≤ w)
    (h : update p x xs = update p x ys) : xs = ys := by
  rw [update_eq p hfits, update_eq p (hlength ▸ hfits), hlength] at h
  have hvalue := (BitVec.xor_right_inj _).mp ((bit_injective p hp).iterate _ h)
  have hnat := congrArg BitVec.toNat hvalue
  have hlt (bs : List UInt8) (hbs : 8 * bs.length ≤ w) : LittleEndian.value bs < 2 ^ w := by
    refine (LittleEndian.value_lt bs).trans_le ?_
    rw [show (256 : ℕ) = 2 ^ 8 by rfl, ← pow_mul]
    exact Nat.pow_le_pow_right (by decide) hbs
  rw [BitVec.toNat_ofNat, BitVec.toNat_ofNat, Nat.mod_eq_of_lt (hlt xs hfits),
    Nat.mod_eq_of_lt (hlt ys (hlength ▸ hfits))] at hnat
  rw [← LittleEndian.bytes_value xs, ← LittleEndian.bytes_value ys, hnat, hlength]

/-- **A burst that fits the register changes the remainder.** -/
theorem eq_of_differsWithin (hp : p.msb = true) {n : ℕ} (hfits : 8 * n ≤ w) {x : BitVec w}
    {xs ys : List UInt8} (hlength : xs.length = ys.length) (hburst : DiffersWithin n xs ys)
    (h : update p x xs = update p x ys) : xs = ys := by
  obtain ⟨front, rest, a, b, rfl, rfl, hab, ha⟩ := hburst.exists_split hlength
  rw [update_append, update_append, update_append, update_append] at h
  have hwindow := update_injective p hp rest h
  rw [eq_of_update p hp hab (by omega) hwindow]

/-- A message that ends in its own check leaves a remainder that depends on nothing else.  The check
is the complement `mask` of the remainder. -/
theorem update_residue {x mask : BitVec w} {data check : List UInt8} (hwidth : 8 * check.length = w)
    (hcheck : BitVec.ofNat w (LittleEndian.value check) = update p x data ^^^ mask) :
    update p x (data ++ check) = (bit p)^[w] mask := by
  rw [update_append, update_eq p hwidth.le, hcheck, ← BitVec.xor_assoc, BitVec.xor_self,
    BitVec.zero_xor, hwidth]

end Crc

end Foundation
