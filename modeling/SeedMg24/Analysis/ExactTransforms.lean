import Mathlib.Analysis.SpecialFunctions.Trigonometric.Basic
import SeedMg24.Foundation.FastFourier
import SeedMg24.Model.VibrationArithmetic
import SeedMg24.Foundation.Literals

/-!
# The transform is the Fourier transform

Run in exact arithmetic, the transform in place leaves in the arrays the real and the imaginary
parts of the discrete Fourier transform of what they held, for every power of two.  Run in floats on
256 samples it is the transform of the processor.
-/

set_option autoImplicit false

namespace SeedMg24.Analysis

open Foundation SeedMg24.Model
open SeedMg24.Model.VibrationArithmetic (Arithmetic)
open SeedMg24.Model.VibrationProcessing (MathLibrary reverseCarry)
open VibrationArithmetic.Arithmetic (exact single)

attribute [local instance] atLeastTwo_two

namespace ExactTransforms

/-! ## Exact arithmetic -/

@[simp] theorem exact_literal (q : ℚ) : exact.literal q = q := rfl
@[simp] theorem exact_zero : exact.zero = 0 := rfl
@[simp] theorem exact_pi : exact.pi = Real.pi := rfl
@[simp] theorem exact_neg (x : ℝ) : exact.neg x = -x := rfl
@[simp] theorem exact_abs (x : ℝ) : exact.abs x = |x| := rfl
@[simp] theorem exact_add (x y : ℝ) : exact.add x y = x + y := rfl
@[simp] theorem exact_sub (x y : ℝ) : exact.sub x y = x - y := rfl
@[simp] theorem exact_mul (x y : ℝ) : exact.mul x y = x * y := rfl
@[simp] theorem exact_div (x y : ℝ) : exact.div x y = x / y := rfl
@[simp] theorem exact_lt (x y : ℝ) : exact.lt x y = decide (x < y) := rfl
@[simp] theorem exact_le (x y : ℝ) : exact.le x y = decide (x ≤ y) := rfl
@[simp] theorem exact_sqrt (x : ℝ) : exact.sqrt x = √x := rfl
@[simp] theorem exact_cos (x : ℝ) : exact.cos x = Real.cos x := rfl
@[simp] theorem exact_sin (x : ℝ) : exact.sin x = Real.sin x := rfl
@[simp] theorem exact_sizeOfCeil (x : ℝ) : exact.sizeOfCeil x = ⌈x⌉₊ := rfl

@[simp] theorem exact_ofNat (n : ℕ) : exact.ofNat n = n := Rat.cast_natCast n

/-! ## Arrays -/

/-- The numbers two arrays hold the parts of. -/
def point (arrays : List ℝ × List ℝ) (index : ℕ) : ℂ :=
  ⟨arrays.1.getD index 0, arrays.2.getD index 0⟩

/-- Both arrays have a length. -/
def HasLength (arrays : List ℝ × List ℝ) (length : ℕ) : Prop :=
  arrays.1.length = length ∧ arrays.2.length = length

theorem getD_set {values : List ℝ} {index : ℕ} (h : index < values.length) (value : ℝ) (k : ℕ) :
    (values.set index value).getD k 0 =
      Function.update (fun k => values.getD k 0) index value k := by
  by_cases hk : k = index
  · subst hk
    rw [Function.update_self, List.getD_eq_getElem?_getD, List.getElem?_set_self h]
    rfl
  · rw [Function.update_of_ne hk, List.getD_eq_getElem?_getD, List.getElem?_set_ne (Ne.symm hk),
      ← List.getD_eq_getElem?_getD]

/-- Both arrays written at an index. -/
theorem point_set {arrays : List ℝ × List ℝ} {length index : ℕ} (h : HasLength arrays length)
    (hindex : index < length) (value : ℂ) :
    point (arrays.1.set index value.re, arrays.2.set index value.im) =
      Function.update (point arrays) index value := by
  funext k
  unfold point
  rw [getD_set (by rw [h.1]; exact hindex), getD_set (by rw [h.2]; exact hindex)]
  by_cases hk : k = index
  · subst hk
    simp only [Function.update_self]
  · simp only [Function.update_of_ne hk]

theorem HasLength.set {arrays : List ℝ × List ℝ} {length : ℕ} (h : HasLength arrays length)
    (index : ℕ) (a b : ℝ) : HasLength (arrays.1.set index a, arrays.2.set index b) length :=
  ⟨by rw [List.length_set, h.1], by rw [List.length_set, h.2]⟩

/-! ## Reversing the order -/

theorem reverseCarry_eq (width reversed : ℕ) :
    reverseCarry reversed width = reverseNext width reversed := by
  induction width generalizing reversed with
  | zero => rfl
  | succ width ih =>
    unfold reverseCarry reverseNext
    rw [ih]

theorem point_exchange {arrays : List ℝ × List ℝ} {length index other : ℕ}
    (h : HasLength arrays length) (hindex : index < length) (hother : other < length) :
    point (exact.exchange arrays.1 index other, exact.exchange arrays.2 index other) =
      exchanged (point arrays) index other := by
  unfold Arithmetic.exchange exchanged
  rw [← point_set h hindex, ← point_set (h.set _ _ _) hother]
  rfl

theorem HasLength.exchange {arrays : List ℝ × List ℝ} {length : ℕ} (h : HasLength arrays length)
    (index other : ℕ) :
    HasLength (exact.exchange arrays.1 index other, exact.exchange arrays.2 index other) length :=
  (h.set index _ _).set other _ _

/-- The first loop: the counter shows the index reversed, and what has been passed is exchanged.
SOURCE: vibration_fft.cpp:12-25 -/
theorem permute_loop (bits : ℕ) (arrays : List ℝ × List ℝ) (h : HasLength arrays (2 ^ bits))
    (passed : ℕ) (hpassed : passed < 2 ^ bits) :
    ∃ arrays', (List.range' 1 passed).foldl (exact.permuteNext bits) (0, arrays) =
        (reverseBits bits passed, arrays') ∧ HasLength arrays' (2 ^ bits) ∧
      point arrays' = exchangedUpTo (reverseBits bits) (point arrays) (passed + 1) := by
  induction passed with
  | zero =>
    refine ⟨arrays, by rw [reverseBits_zero]; rfl, h, ?_⟩
    show point arrays = if 0 < reverseBits bits 0 then _ else _
    rw [reverseBits_zero, if_neg (Nat.lt_irrefl 0)]
    rfl
  | succ passed ih =>
    obtain ⟨arrays', hstate, hlength, hpoint⟩ := ih (by omega)
    rw [List.range'_1_concat, List.foldl_concat, hstate, Nat.add_comm 1]
    unfold Arithmetic.permuteNext
    dsimp only
    rw [reverseCarry_eq, reverseNext_reverseBits bits passed hpassed]
    by_cases hlater : passed + 1 < reverseBits bits (passed + 1)
    · rw [if_pos hlater]
      refine ⟨_, rfl, hlength.exchange _ _, ?_⟩
      rw [point_exchange hlength hpassed (reverseBits_lt _ _), hpoint]
      exact (if_pos hlater).symm
    · rw [if_neg hlater]
      refine ⟨_, rfl, hlength, ?_⟩
      rw [hpoint]
      exact (if_neg hlater).symm

/-- The first loop puts the arrays into reversed order.
SOURCE: vibration_fft.cpp:12-25 -/
theorem point_permute (bits : ℕ) (arrays : List ℝ × List ℝ) (h : HasLength arrays (2 ^ bits)) :
    HasLength (exact.permute bits arrays.1 arrays.2) (2 ^ bits) ∧
      ∀ i < 2 ^ bits, point (exact.permute bits arrays.1 arrays.2) i =
        point arrays (reverseBits bits i) := by
  have hpos := Nat.two_pow_pos bits
  obtain ⟨arrays', hstate, hlength, hpoint⟩ := permute_loop bits arrays h (2 ^ bits - 1) (by omega)
  unfold Arithmetic.permute
  rw [hstate]
  refine ⟨hlength, fun i hi => ?_⟩
  rw [Nat.sub_add_cancel hpos] at hpoint
  refine (congrFun hpoint i).trans ?_
  rw [exchangedUpTo_apply (reverseBits bits) (point arrays) (2 ^ bits)
    (fun j hj => ⟨reverseBits_lt _ _, reverseBits_reverseBits _ _ hj⟩) _ le_rfl i hi,
    if_pos (by omega)]

/-! ## Butterflies -/

/-- The arrays and the twiddle factor of the innermost loop as numbers. -/
structure Holds (b : Arithmetic.Butterflies ℝ) (length : ℕ) (f : ℕ → ℂ) (twiddle : ℂ) : Prop where
  length : HasLength (b.real, b.imaginary) length
  point : point (b.real, b.imaginary) = f
  twiddle : (⟨b.twiddleReal, b.twiddleImaginary⟩ : ℂ) = twiddle

/-- SOURCE: vibration_fft.cpp:35-45 -/
theorem Holds.next {b : Arithmetic.Butterflies ℝ} {length even odd : ℕ} {f : ℕ → ℂ}
    {twiddle : ℂ} (h : Holds b length f twiddle) (root : ℂ) (heven : even < length)
    (hodd : odd < length) :
    Holds (exact.nextButterfly b root.re root.im even odd) length (butterfly twiddle even odd f)
      (twiddle * root) := by
  have hf := h.point
  have ht := h.twiddle
  refine ⟨(h.length.set _ _ _).set _ _ _, ?_, ?_⟩
  · unfold butterfly
    rw [← hf, ← point_set h.length hodd, ← point_set (h.length.set _ _ _) heven, ← ht]
    rfl
  · rw [← ht]
    rfl

/-- The root of a stage.
SOURCE: vibration_fft.cpp:29-31 -/
noncomputable def stageRoot (stage : ℕ) : ℂ := Complex.exp (-2 * Real.pi / 2 ^ stage * Complex.I)

theorem stageRoot_eq (stage : ℕ) :
    stageRoot stage = ⟨exact.cos (exact.stageAngle (2 ^ stage)),
      exact.sin (exact.stageAngle (2 ^ stage))⟩ := by
  have hangle : exact.stageAngle (2 ^ stage) = -2 * Real.pi / 2 ^ stage := by
    simp [Arithmetic.stageAngle]
  have hcast : (-2 * Real.pi / 2 ^ stage : ℂ) = ((-2 * Real.pi / 2 ^ stage : ℝ) : ℂ) := by
    push_cast
    rfl
  unfold stageRoot
  rw [hangle, hcast, exact_cos, exact_sin]
  exact Complex.ext (Complex.exp_ofReal_mul_I_re _) (Complex.exp_ofReal_mul_I_im _)

theorem isRootTower_stageRoot : IsRootTower stageRoot where
  zero := by
    have hperiod := Complex.exp_neg (2 * Real.pi * Complex.I)
    rw [Complex.exp_two_pi_mul_I, inv_one] at hperiod
    unfold stageRoot
    rw [pow_zero, div_one, ← hperiod]
    ring_nf
  square stage := by
    unfold stageRoot
    rw [← Complex.exp_nat_mul, pow_succ (2 : ℂ)]
    congr 1
    push_cast
    field_simp
  half stage := by
    unfold stageRoot
    rw [← Complex.exp_nat_mul, ← Complex.exp_neg_pi_mul_I, pow_succ (2 : ℂ)]
    congr 1
    push_cast
    field_simp

/-- SOURCE: vibration_fft.cpp:33-46 -/
theorem holds_block {arrays : List ℝ × List ℝ} {length : ℕ} (h : HasLength arrays length)
    (stage base : ℕ) (hbase : base + 2 ^ (stage + 1) ≤ length) :
    Holds (exact.block arrays (2 ^ (stage + 1)) base) length
      (blockUpTo (stageRoot (stage + 1)) (2 ^ stage) base (point arrays) (2 ^ stage))
      (stageRoot (stage + 1) ^ 2 ^ stage) := by
  have hhalf : 2 ^ (stage + 1) / 2 = 2 ^ stage := by
    rw [pow_succ, Nat.mul_div_cancel _ Nat.two_pos]
  have hroot := stageRoot_eq (stage + 1)
  have hloop : ∀ offset ≤ 2 ^ stage,
      Holds ((List.range offset).foldl (fun (b : Arithmetic.Butterflies ℝ) offset =>
          exact.nextButterfly b (stageRoot (stage + 1)).re (stageRoot (stage + 1)).im
            (base + offset) (base + offset + 2 ^ stage))
          { real := arrays.1, imaginary := arrays.2, twiddleReal := exact.ofNat 1,
            twiddleImaginary := exact.zero }) length
        (blockUpTo (stageRoot (stage + 1)) (2 ^ stage) base (point arrays) offset)
        (stageRoot (stage + 1) ^ offset) := by
    intro offset hoffset
    induction offset with
    | zero =>
      refine ⟨h, rfl, ?_⟩
      rw [pow_zero]
      apply Complex.ext
      · show exact.ofNat 1 = 1
        rw [exact_ofNat, Nat.cast_one]
      · rfl
    | succ offset ih =>
      rw [pow_succ 2] at hbase
      rw [List.range_succ, List.foldl_concat, pow_succ]
      exact (ih (by omega)).next _ (by omega) (by omega)
  have hall := hloop (2 ^ stage) le_rfl
  rw [hroot] at hall
  unfold Arithmetic.block
  rw [hhalf, hroot]
  exact hall

/-- SOURCE: vibration_fft.cpp:32-51 -/
theorem point_stage {arrays : List ℝ × List ℝ} (bits : ℕ) (h : HasLength arrays (2 ^ bits))
    (stage : ℕ) (hstage : stage < bits) :
    HasLength (exact.stage bits arrays (2 ^ (stage + 1))) (2 ^ bits) ∧
      point (exact.stage bits arrays (2 ^ (stage + 1))) =
        stageUpTo (stageRoot (stage + 1)) (2 ^ stage) (point arrays)
          (2 ^ bits / 2 ^ (stage + 1)) := by
  have hblocks : 2 ^ bits / 2 ^ (stage + 1) * 2 ^ (stage + 1) = 2 ^ bits :=
    Nat.div_mul_cancel (pow_dvd_pow 2 hstage)
  have hloop : ∀ blocks ≤ 2 ^ bits / 2 ^ (stage + 1),
      let arrays' := (List.range blocks).foldl (fun (arrays : List ℝ × List ℝ) index =>
        let b := exact.block arrays (2 ^ (stage + 1)) (index * 2 ^ (stage + 1))
        (b.real, b.imaginary)) arrays
      HasLength arrays' (2 ^ bits) ∧ point arrays' =
        stageUpTo (stageRoot (stage + 1)) (2 ^ stage) (point arrays) blocks := by
    intro blocks hle
    induction blocks with
    | zero => exact ⟨h, rfl⟩
    | succ blocks ih =>
      obtain ⟨hlength, hpoint⟩ := ih (by omega)
      have hbase : blocks * 2 ^ (stage + 1) + 2 ^ (stage + 1) ≤ 2 ^ bits := by
        rw [← Nat.succ_mul, ← hblocks]
        exact Nat.mul_le_mul_right _ hle
      have hblock := holds_block hlength stage _ hbase
      rw [hpoint] at hblock
      dsimp only
      rw [List.range_succ, List.foldl_concat]
      refine ⟨hblock.length, ?_⟩
      rw [stageUpTo, ← pow_succ']
      exact hblock.point
  exact hloop _ le_rfl

/-- SOURCE: vibration_fft.cpp:28-52 -/
theorem point_stages (bits : ℕ) {arrays : List ℝ × List ℝ} (h : HasLength arrays (2 ^ bits))
    (stages : ℕ) (hstages : stages ≤ bits) :
    let arrays' := ((List.range stages).map fun exponent => 2 ^ (exponent + 1)).foldl
      (exact.stage bits) arrays
    HasLength arrays' (2 ^ bits) ∧
      point arrays' = stagesUpTo stageRoot bits (point arrays) stages := by
  induction stages with
  | zero => exact ⟨h, rfl⟩
  | succ stages ih =>
    obtain ⟨hlength, hpoint⟩ := ih (by omega)
    have hstage := point_stage bits hlength stages hstages
    rw [hpoint] at hstage
    dsimp only
    rw [List.range_succ, List.map_append, List.map_singleton, List.foldl_concat]
    exact hstage

/-- **The transform of two arrays.**
SOURCE: vibration_fft.cpp:10-53 -/
theorem point_transform (bits : ℕ) {arrays : List ℝ × List ℝ} (h : HasLength arrays (2 ^ bits)) :
    HasLength (exact.transform bits arrays.1 arrays.2) (2 ^ bits) ∧
      ∀ index < 2 ^ bits, point (exact.transform bits arrays.1 arrays.2) index =
        fourierSum (stageRoot bits) (2 ^ bits) (point arrays) index := by
  obtain ⟨hpermuted, hreversed⟩ := point_permute bits arrays h
  obtain ⟨hlength, hpoint⟩ := point_stages bits hpermuted bits le_rfl
  refine ⟨hlength, fun index hindex => ?_⟩
  rw [← stagesUpTo_eq_fourierSum isRootTower_stageRoot bits (point arrays) index hindex]
  refine (congrFun hpoint index).trans ?_
  exact stagesUpTo_congr stageRoot bits hreversed bits le_rfl index hindex

/-- The discrete Fourier transform. -/
noncomputable def discreteTransform {count : ℕ} (samples : Fin count → ℂ) (index : Fin count) : ℂ :=
  ∑ j, samples j * Complex.exp (-2 * Real.pi * Complex.I * j * index / count)

theorem point_ofFn {count : ℕ} (samples : Fin count → ℂ) (index : Fin count) :
    point (List.ofFn fun j => (samples j).re, List.ofFn fun j => (samples j).im) index =
      samples index := by
  unfold point
  rw [List.getD_eq_getElem _ _ (by rw [List.length_ofFn]; exact index.isLt),
    List.getD_eq_getElem _ _ (by rw [List.length_ofFn]; exact index.isLt), List.getElem_ofFn,
    List.getElem_ofFn]

/-- The sum over the indices of an array is the transform. -/
theorem fourierSum_ofFn (bits : ℕ) (samples : Fin (2 ^ bits) → ℂ) (index : Fin (2 ^ bits)) :
    fourierSum (stageRoot bits) (2 ^ bits)
        (point (List.ofFn fun j => (samples j).re, List.ofFn fun j => (samples j).im)) index =
      discreteTransform samples index := by
  unfold fourierSum discreteTransform
  rw [Finset.sum_range]
  refine Finset.sum_congr rfl fun j _ => ?_
  rw [point_ofFn]
  unfold stageRoot
  rw [← Complex.exp_nat_mul]
  congr 2
  push_cast
  ring

theorem eq_ofFn {values : List ℝ} {count : ℕ} {f : Fin count → ℝ} (hlength : values.length = count)
    (h : ∀ index : Fin count, values.getD index 0 = f index) : values = List.ofFn f := by
  apply List.ext_getElem
  · rw [hlength, List.length_ofFn]
  · intro index hindex _
    rw [List.getElem_ofFn, ← h, List.getD_eq_getElem _ _ hindex]

/-! ## Floats -/

variable (M : MathLibrary)

theorem permute_single (real imaginary : List Single) :
    (single M).permute 8 real imaginary = VibrationProcessing.permute real imaginary := by
  have hcount : 2 ^ 8 - 1 = Vibration.kVibrationWindowSamples - 1 := by decide
  unfold Arithmetic.permute VibrationProcessing.permute
  rw [hcount]
  congr 1

/-- The state of the innermost loop, in floats. -/
def butterfliesOf (b : Arithmetic.Butterflies Single) : VibrationProcessing.Butterflies :=
  ⟨b.real, b.imaginary, b.twiddleReal, b.twiddleImaginary⟩

theorem stage_single (arrays : List Single × List Single) (length : ℕ) :
    (single M).stage 8 arrays length = VibrationProcessing.stage M arrays length := by
  have hcount : 2 ^ 8 = Vibration.kVibrationWindowSamples := by decide
  unfold Arithmetic.stage VibrationProcessing.stage
  rw [hcount]
  dsimp only
  congr 1
  funext arrays index
  have hloop : ∀ started : Arithmetic.Butterflies Single,
      (List.range (length / 2)).foldl (fun (b : VibrationProcessing.Butterflies) offset =>
        b.next (M.cosf ((single M).stageAngle length)) (M.sinf ((single M).stageAngle length))
          (index * length + offset) (index * length + offset + length / 2))
          (butterfliesOf started) =
        butterfliesOf ((List.range (length / 2)).foldl (fun b offset =>
          (single M).nextButterfly b ((single M).cos ((single M).stageAngle length))
            ((single M).sin ((single M).stageAngle length)) (index * length + offset)
            (index * length + offset + length / 2)) started) := fun started =>
    List.foldl_hom butterfliesOf fun _ _ => rfl
  exact (congrArg (fun b => (b.real, b.imaginary)) (hloop ⟨_, _, _, _⟩)).symm

/-- SOURCE: vibration_fft.cpp:10-53 -/
theorem transform_single (real imaginary : List Single) :
    (single M).transform 8 real imaginary = VibrationProcessing.transform M real imaginary := by
  unfold Arithmetic.transform VibrationProcessing.transform
  rw [permute_single]
  congr 1
  funext arrays length
  exact stage_single M arrays length

end ExactTransforms

open ExactTransforms in
/-- **The transform in place is the discrete Fourier transform.**  For every power of two and all
complex samples, in exact arithmetic, the two loops leave the real and the imaginary parts of the
transform in the arrays; and the transform of the processor is the same algorithm, in floats, on
256 samples.
SOURCE: vibration_fft.cpp:10-53 -/
theorem transform_eq_discreteTransform :
    (∀ (bits : ℕ) (samples : Fin (2 ^ bits) → ℂ),
      exact.transform bits (List.ofFn fun j => (samples j).re)
          (List.ofFn fun j => (samples j).im) =
        (List.ofFn fun index => (discreteTransform samples index).re,
          List.ofFn fun index => (discreteTransform samples index).im)) ∧
      ∀ (M : MathLibrary) (real imaginary : List Single),
        VibrationProcessing.transform M real imaginary =
          (single M).transform 8 real imaginary := by
  refine ⟨fun bits samples => ?_, fun M real imaginary => (transform_single M real imaginary).symm⟩
  have hlength : HasLength (List.ofFn fun j => (samples j).re, List.ofFn fun j => (samples j).im)
      (2 ^ bits) := ⟨List.length_ofFn, List.length_ofFn⟩
  obtain ⟨hafter, hpoint⟩ := point_transform bits hlength
  have hall := fun index : Fin (2 ^ bits) =>
    (hpoint index index.isLt).trans (fourierSum_ofFn bits samples index)
  refine Prod.ext ?_ ?_
  · exact eq_ofFn hafter.1 fun index => congrArg Complex.re (hall index)
  · exact eq_ofFn hafter.2 fun index => congrArg Complex.im (hall index)

end SeedMg24.Analysis
