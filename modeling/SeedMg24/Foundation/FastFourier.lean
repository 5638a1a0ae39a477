import Mathlib.Algebra.BigOperators.Ring.Finset
import SeedMg24.Foundation.BitReversal

/-!
# The fast Fourier transform

The sums of a sequence with the powers of a root of unity, and how they are obtained in stages from
a sequence in reversed bit order: in each stage two entries of a block are replaced by their sum and
their difference, the second one turned by a power of the stage's root.
-/

set_option autoImplicit false

namespace Foundation

variable {R : Type} [CommRing R]

open Finset (range)

/-- The entry of the transform of a sequence at an index, for a root of unity. -/
def fourierSum (root : R) (count : ℕ) (x : ℕ → R) (index : ℕ) : R :=
  ∑ j ∈ range count, x j * root ^ (j * index)

/-! ## Butterflies -/

/-- Two entries are replaced by their sum and their difference, the second one turned. -/
def butterfly (twiddle : R) (even odd : ℕ) (f : ℕ → R) : ℕ → R :=
  Function.update (Function.update f odd (f even - f odd * twiddle)) even
    (f even + f odd * twiddle)

/-- The butterflies of a block, up to an offset: the pairs are half a block apart, and the second
ones are turned by the powers of a root. -/
def blockUpTo (root : R) (half base : ℕ) (f : ℕ → R) : ℕ → ℕ → R
  | 0 => f
  | offset + 1 =>
    butterfly (root ^ offset) (base + offset) (base + offset + half)
      (blockUpTo root half base f offset)

/-- The butterflies of the blocks up to a number. -/
def stageUpTo (root : R) (half : ℕ) (f : ℕ → R) : ℕ → ℕ → R
  | 0 => f
  | block + 1 => blockUpTo root half (block * (2 * half)) (stageUpTo root half f block) half

/-- A block's pairs do not meet: each entry is calculated from what the block held before. -/
theorem blockUpTo_apply (root : R) (half base : ℕ) (f : ℕ → R) (offset : ℕ) (h : offset ≤ half)
    (i : ℕ) :
    blockUpTo root half base f offset i =
      if base ≤ i ∧ i < base + offset then f i + f (i + half) * root ^ (i - base)
      else if base + half ≤ i ∧ i < base + half + offset then
        f (i - half) - f i * root ^ (i - half - base)
      else f i := by
  induction offset generalizing i with
  | zero =>
    rw [if_neg (by omega), if_neg (by omega)]
    rfl
  | succ offset ih =>
    have heven := ih (by omega) (base + offset)
    have hodd := ih (by omega) (base + offset + half)
    rw [if_neg (by omega), if_neg (by omega)] at heven hodd
    unfold blockUpTo butterfly
    rw [heven, hodd]
    by_cases hie : i = base + offset
    · subst hie
      rw [Function.update_self, if_pos (by omega), Nat.add_sub_cancel_left]
    · rw [Function.update_of_ne hie]
      by_cases hio : i = base + offset + half
      · subst hio
        rw [Function.update_self, if_neg (by omega), if_pos (by omega), Nat.add_sub_cancel,
          Nat.add_sub_cancel_left]
      · rw [Function.update_of_ne hio, ih (by omega) i]
        by_cases hleft : base ≤ i ∧ i < base + offset
        · rw [if_pos hleft, if_pos (by omega)]
        · rw [if_neg hleft, if_neg (c := base ≤ i ∧ i < base + (offset + 1)) (by omega)]
          by_cases hright : base + half ≤ i ∧ i < base + half + offset
          · rw [if_pos hright, if_pos (by omega)]
          · rw [if_neg hright, if_neg (by omega)]

/-- The blocks that follow are not touched. -/
theorem stageUpTo_of_le (root : R) (half : ℕ) (f : ℕ → R) (blocks i : ℕ)
    (h : blocks * (2 * half) ≤ i) : stageUpTo root half f blocks i = f i := by
  induction blocks with
  | zero => rfl
  | succ blocks ih =>
    rw [Nat.succ_mul] at h
    unfold stageUpTo
    rw [blockUpTo_apply _ _ _ _ _ le_rfl, if_neg (by omega), if_neg (by omega)]
    exact ih (by omega)

/-- The block an entry of a stage is calculated in. -/
theorem stageUpTo_of_lt (root : R) (half : ℕ) (f : ℕ → R) (blocks block offset : ℕ)
    (hblock : block < blocks) (hoffset : offset < 2 * half) :
    stageUpTo root half f blocks (block * (2 * half) + offset) =
      blockUpTo root half (block * (2 * half)) (stageUpTo root half f block) half
        (block * (2 * half) + offset) := by
  induction blocks with
  | zero => omega
  | succ blocks ih =>
    obtain hlast | rfl := Nat.lt_succ_iff_lt_or_eq.mp hblock
    · have hbefore : (block + 1) * (2 * half) ≤ blocks * (2 * half) :=
        Nat.mul_le_mul_right _ hlast
      rw [Nat.succ_mul] at hbefore
      show blockUpTo root half (blocks * (2 * half)) (stageUpTo root half f blocks) half _ = _
      rw [blockUpTo_apply _ _ _ _ _ le_rfl, if_neg (by omega), if_neg (by omega)]
      exact ih hlast
    · rfl

/-- The first half of a block after a stage. -/
theorem stageUpTo_even (root : R) (half : ℕ) (f : ℕ → R) (blocks block offset : ℕ)
    (hblock : block < blocks) (hoffset : offset < half) :
    stageUpTo root half f blocks (block * (2 * half) + offset) =
      f (block * (2 * half) + offset) +
        f (block * (2 * half) + offset + half) * root ^ offset := by
  rw [stageUpTo_of_lt _ _ _ _ _ _ hblock (by omega), blockUpTo_apply _ _ _ _ _ le_rfl,
    if_pos (by omega), stageUpTo_of_le _ _ _ _ _ (by omega), stageUpTo_of_le _ _ _ _ _ (by omega),
    Nat.add_sub_cancel_left]

/-- The second half of a block after a stage. -/
theorem stageUpTo_odd (root : R) (half : ℕ) (f : ℕ → R) (blocks block offset : ℕ)
    (hblock : block < blocks) (hoffset : offset < half) :
    stageUpTo root half f blocks (block * (2 * half) + (offset + half)) =
      f (block * (2 * half) + offset) -
        f (block * (2 * half) + offset + half) * root ^ offset := by
  rw [stageUpTo_of_lt _ _ _ _ _ _ hblock (by omega), blockUpTo_apply _ _ _ _ _ le_rfl,
    if_neg (by omega), if_pos (by omega), stageUpTo_of_le _ _ _ _ _ (by omega),
    stageUpTo_of_le _ _ _ _ _ (by omega), ← Nat.add_assoc, Nat.add_sub_cancel,
    Nat.add_sub_cancel_left]

/-! ## Stages -/

/-- The roots of the stages: each is a square root of the one before, and the last power that
belongs to a stage is minus one. -/
structure IsRootTower (root : ℕ → R) : Prop where
  zero : root 0 = 1
  square : ∀ stage, root (stage + 1) ^ 2 = root stage
  half : ∀ stage, root (stage + 1) ^ 2 ^ stage = -1

/-- The stages up to a number, for an array of `2 ^ width` entries. -/
def stagesUpTo (root : ℕ → R) (width : ℕ) (f : ℕ → R) : ℕ → ℕ → R
  | 0 => f
  | stage + 1 =>
    stageUpTo (root (stage + 1)) (2 ^ stage) (stagesUpTo root width f stage)
      (2 ^ width / 2 ^ (stage + 1))

namespace IsRootTower

variable {root : ℕ → R}

theorem pow_length (h : IsRootTower root) (stage : ℕ) : root stage ^ 2 ^ stage = 1 := by
  cases stage with
  | zero => rw [h.zero, one_pow]
  | succ stage => rw [pow_succ 2, pow_mul, h.half, neg_one_sq]

/-- A power of a stage's root at an even index is one of the stage before. -/
theorem pow_even (h : IsRootTower root) (stage j k : ℕ) :
    root (stage + 1) ^ (2 * j * k) = root stage ^ (j * k) := by
  rw [Nat.mul_assoc, pow_mul, h.square]

theorem pow_odd (h : IsRootTower root) (stage j k : ℕ) :
    root (stage + 1) ^ ((2 * j + 1) * k) = root stage ^ (j * k) * root (stage + 1) ^ k := by
  rw [Nat.add_mul, Nat.one_mul, pow_add, h.pow_even]

theorem pow_shifted (h : IsRootTower root) (stage j k : ℕ) :
    root stage ^ (j * (k + 2 ^ stage)) = root stage ^ (j * k) := by
  rw [Nat.mul_add, pow_add, Nat.mul_comm j (2 ^ stage), pow_mul _ (2 ^ stage), h.pow_length,
    one_pow, mul_one]

theorem pow_add_half (h : IsRootTower root) (stage k : ℕ) :
    root (stage + 1) ^ (k + 2 ^ stage) = -root (stage + 1) ^ k := by
  rw [pow_add, h.half, mul_neg_one]

end IsRootTower

/-- A sum over twice as many indices, by even and odd ones. -/
theorem sum_range_two_mul (g : ℕ → R) (n : ℕ) :
    ∑ j ∈ range (2 * n), g j = ∑ j ∈ range n, (g (2 * j) + g (2 * j + 1)) := by
  induction n with
  | zero => rfl
  | succ n ih =>
    rw [Finset.sum_range_succ, ← ih, Nat.mul_succ, Finset.sum_range_succ, Finset.sum_range_succ,
      add_assoc]

/-- **After each stage the blocks hold the transforms of the sequence's parts.**  A part takes
every `2 ^ (width - stage)`-th element, and begins at the block's number with its bits reversed. -/
theorem stagesUpTo_apply {root : ℕ → R} (h : IsRootTower root) (width : ℕ) (x : ℕ → R)
    (stage rest : ℕ) (hwidth : stage + rest = width) (block offset : ℕ) (hblock : block < 2 ^ rest)
    (hoffset : offset < 2 ^ stage) :
    stagesUpTo root width (fun i => x (reverseBits width i)) stage (block * 2 ^ stage + offset) =
      fourierSum (root stage) (2 ^ stage)
        (fun j => x (reverseBits rest block + 2 ^ rest * j)) offset := by
  induction stage generalizing rest block offset with
  | zero =>
    obtain rfl : offset = 0 := by
      rw [pow_zero] at hoffset
      omega
    obtain rfl : rest = width := by omega
    simp [stagesUpTo, fourierSum]
  | succ stage ih =>
    have hblocks : 2 ^ width / 2 ^ (stage + 1) = 2 ^ rest := by
      rw [← hwidth, pow_add, Nat.mul_div_cancel_left _ (Nat.two_pow_pos _)]
    -- the two parts that the entries of this block come from
    have hparts : ∀ o < 2 ^ stage,
        stagesUpTo root width (fun i => x (reverseBits width i)) stage
            (block * (2 * 2 ^ stage) + o) =
          fourierSum (root stage) (2 ^ stage)
            (fun j => x (reverseBits rest block + 2 ^ rest * (2 * j))) o ∧
        stagesUpTo root width (fun i => x (reverseBits width i)) stage
            (block * (2 * 2 ^ stage) + o + 2 ^ stage) =
          fourierSum (root stage) (2 ^ stage)
            (fun j => x (reverseBits rest block + 2 ^ rest * (2 * j + 1))) o := by
      intro o ho
      have heven := ih (rest + 1) (by omega) (2 * block) o (by rw [pow_succ]; omega) ho
      have hodd := ih (rest + 1) (by omega) (2 * block + 1) o (by rw [pow_succ]; omega) ho
      rw [reverseBits_even] at heven
      rw [reverseBits_odd] at hodd
      constructor
      · convert heven using 2
        · ring
        · funext j
          congr 1
          ring
      · convert hodd using 2
        · ring
        · funext j
          congr 1
          ring
    have hsplit : ∀ k, fourierSum (root (stage + 1)) (2 ^ (stage + 1))
          (fun j => x (reverseBits rest block + 2 ^ rest * j)) k =
        fourierSum (root stage) (2 ^ stage)
          (fun j => x (reverseBits rest block + 2 ^ rest * (2 * j))) k +
        fourierSum (root stage) (2 ^ stage)
          (fun j => x (reverseBits rest block + 2 ^ rest * (2 * j + 1))) k *
            root (stage + 1) ^ k := by
      intro k
      unfold fourierSum
      rw [pow_succ, Nat.mul_comm, sum_range_two_mul, Finset.sum_add_distrib, Finset.sum_mul]
      congr 1
      · exact Finset.sum_congr rfl fun j _ => by rw [h.pow_even]
      · exact Finset.sum_congr rfl fun j _ => by rw [h.pow_odd, mul_assoc]
    have hperiod : ∀ (y : ℕ → R) (k : ℕ), fourierSum (root stage) (2 ^ stage) y (k + 2 ^ stage) =
        fourierSum (root stage) (2 ^ stage) y k := fun y k =>
      Finset.sum_congr rfl fun j _ => by rw [h.pow_shifted]
    rw [hsplit]
    unfold stagesUpTo
    rw [hblocks, pow_succ 2 stage, Nat.mul_comm (2 ^ stage) 2]
    by_cases hfirst : offset < 2 ^ stage
    · obtain ⟨heven, hodd⟩ := hparts offset hfirst
      rw [stageUpTo_even _ _ _ _ _ _ hblock hfirst, heven, hodd]
    · obtain ⟨o, rfl⟩ : ∃ o, offset = o + 2 ^ stage := ⟨offset - 2 ^ stage, by omega⟩
      have ho : o < 2 ^ stage := by
        rw [pow_succ] at hoffset
        omega
      obtain ⟨heven, hodd⟩ := hparts o ho
      rw [stageUpTo_odd _ _ _ _ _ _ hblock ho, heven, hodd, hperiod, hperiod, h.pow_add_half,
        mul_neg, ← sub_eq_add_neg]

/-- A stage calculates entries from entries of the array. -/
theorem stageUpTo_congr (root : R) (half blocks : ℕ) {f g : ℕ → R}
    (h : ∀ i < blocks * (2 * half), f i = g i) (i : ℕ) (hi : i < blocks * (2 * half)) :
    stageUpTo root half f blocks i = stageUpTo root half g blocks i := by
  have hpos : 0 < 2 * half := Nat.pos_of_ne_zero fun hzero => by
    rw [hzero, Nat.mul_zero] at hi
    omega
  have hblock : i / (2 * half) < blocks := Nat.div_lt_of_lt_mul (by rwa [Nat.mul_comm] at hi)
  have hmod := Nat.mod_lt i hpos
  have hsplit : i = i / (2 * half) * (2 * half) + i % (2 * half) := (Nat.div_add_mod' _ _).symm
  have hend : (i / (2 * half) + 1) * (2 * half) ≤ blocks * (2 * half) :=
    Nat.mul_le_mul_right _ hblock
  rw [Nat.succ_mul] at hend
  rw [hsplit]
  by_cases hfirst : i % (2 * half) < half
  · rw [stageUpTo_even _ _ _ _ _ _ hblock hfirst, stageUpTo_even _ _ _ _ _ _ hblock hfirst,
      h _ (by omega), h _ (by omega)]
  · obtain ⟨offset, hoffset⟩ : ∃ o, i % (2 * half) = o + half := ⟨i % (2 * half) - half, by omega⟩
    rw [hoffset, stageUpTo_odd _ _ _ _ _ _ hblock (by omega),
      stageUpTo_odd _ _ _ _ _ _ hblock (by omega), h _ (by omega), h _ (by omega)]

/-- What the stages calculate does not depend on what lies behind the array. -/
theorem stagesUpTo_congr (root : ℕ → R) (width : ℕ) {f g : ℕ → R}
    (h : ∀ i < 2 ^ width, f i = g i) (stage : ℕ) (hstage : stage ≤ width) (i : ℕ)
    (hi : i < 2 ^ width) : stagesUpTo root width f stage i = stagesUpTo root width g stage i := by
  induction stage generalizing i with
  | zero => exact h i hi
  | succ stage ih =>
    have hblocks : 2 ^ width / 2 ^ (stage + 1) * (2 * 2 ^ stage) = 2 ^ width := by
      rw [← pow_succ', Nat.div_mul_cancel (pow_dvd_pow 2 hstage)]
    exact stageUpTo_congr _ _ _ (fun j hj => ih (by omega) j (by rwa [hblocks] at hj)) i
      (by rwa [hblocks])

/-- **The stages, applied to a sequence in reversed bit order, calculate its transform.** -/
theorem stagesUpTo_eq_fourierSum {root : ℕ → R} (h : IsRootTower root) (width : ℕ) (x : ℕ → R)
    (index : ℕ) (hindex : index < 2 ^ width) :
    stagesUpTo root width (fun i => x (reverseBits width i)) width index =
      fourierSum (root width) (2 ^ width) x index := by
  have hall := stagesUpTo_apply h width x width 0 rfl 0 index Nat.one_pos hindex
  simpa only [Nat.zero_mul, Nat.zero_add, reverseBits_zero, pow_zero, Nat.one_mul] using hall

end Foundation
