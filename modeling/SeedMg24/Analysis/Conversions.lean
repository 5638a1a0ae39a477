import Mathlib.Data.List.GetD
import SeedMg24.Foundation.PiecewiseLinear
import SeedMg24.Model.Converters

/-!
# Conversions are what the profile says

The points of an accepted definition are two at least and their inputs increase, so bisection finds
the segment of a value, clamped to the first and the last, and no width of a segment is zero.
-/

set_option autoImplicit false

namespace SeedMg24.Analysis

open Foundation SeedMg24.Model.Converters

namespace Conversions

variable {F : Type} [LinearOrder F]

/-! ## What validation sees to -/

/-- The points of a piecewise conversion: two at least, and their inputs increase. -/
structure ValidPoints (points : List (F × F)) : Prop where
  two_le : 2 ≤ points.length
  increasing : points.Pairwise fun p q => p.1 < q.1

/-- Neighbours that increase are enough. -/
theorem isChain_of_strictlyIncreasing {points : List (F × F)} (h : strictlyIncreasing points = true) :
    (points.map Prod.fst).IsChain (· < ·) := by
  induction points with
  | nil => exact List.isChain_nil
  | cons p points ih =>
    cases points with
    | nil => exact List.isChain_singleton _
    | cons q points =>
      unfold strictlyIncreasing at h ih
      rw [List.tail_cons, List.zip_cons_cons, List.all_cons, Bool.and_eq_true, decide_eq_true_iff] at h
      exact List.isChain_cons_cons.mpr ⟨h.1, ih h.2⟩

/-- An accepted definition has the parameters its type needs. -/
theorem validPoints_of_accepted {c : ConversionDefinition F} (h : validateParameters c = .ok ())
    (htype : c.type = .piecewiseLinear ∨ c.type = .lookupTable) :
    ∃ points, c.points = some points ∧ ValidPoints points := by
  unfold validateParameters at h
  split at h
  · cases h
  split at h
  · cases h
  split at h
  · cases h
  rename_i hmany
  split at h
  · cases h
  rename_i hincreasing
  have hlength : 2 ≤ (c.points.getD []).length := by
    by_contra hfew
    exact hmany ⟨htype, by omega⟩
  have hstrict : strictlyIncreasing (c.points.getD []) = true := by
    by_contra hnot
    exact hincreasing ⟨htype, by simpa using hnot⟩
  cases hpoints : c.points with
  | none =>
    rw [hpoints] at hlength
    cases hlength
  | some points =>
    rw [hpoints] at hlength hstrict
    have hchain := isChain_of_strictlyIncreasing hstrict
    exact ⟨points, rfl, hlength, List.pairwise_map.mp (List.isChain_iff_pairwise.mp hchain)⟩

/-! ## The segment of a value -/

/-- The points by their numbers. -/
def numberedPoints [Zero F] (points : List (F × F)) (i : ℕ) : F × F := points.getD i (0, 0)

variable [Field F] {points : List (F × F)}

omit [LinearOrder F] in
theorem getElem?_eq_numberedPoints {i : ℕ} (h : i < points.length) :
    points[i]? = some (numberedPoints points i) := by
  rw [numberedPoints, List.getD_eq_getElem _ _ h, List.getElem?_eq_getElem h]

omit [LinearOrder F] in
theorem numberedPoints_eq {i : ℕ} {p : F × F} (h : points[i]? = some p) :
    numberedPoints points i = p := by
  obtain ⟨hi, -⟩ := List.getElem?_eq_some_iff.mp h
  exact Option.some.inj ((getElem?_eq_numberedPoints hi).symm.trans h)

theorem ValidPoints.increasingInputs (h : ValidPoints points) :
    IncreasingInputs (numberedPoints points) (points.length - 2) := by
  intro i j hij hj
  have htwo := h.two_le
  have hi : i < points.length := by omega
  have hlt := List.pairwise_iff_getElem.mp h.increasing i j hi (by omega) hij
  rwa [numberedPoints, numberedPoints, List.getD_eq_getElem _ _ hi,
    List.getD_eq_getElem _ _ (by omega)]

/-- **Bisection finds the segment of a value.** -/
theorem selects_segmentIndex (h : ValidPoints points) (value : F) :
    Selects (numberedPoints points) (points.length - 2) value (segmentIndex points value) := by
  let zero : Inhabited F := ⟨0⟩
  have htwo := h.two_le
  have hinput (i : ℕ) : (points.map Prod.fst).getD i default = (numberedPoints points i).1 :=
    List.getD_map points ((0 : F), (0 : F)) Prod.fst
  have hseparates : Separates (points.map Prod.fst) value (bisectRight (points.map Prod.fst) value) := by
    refine separates_bisectRight (fun i j hij hj => ?_) value
    rw [List.length_map] at hj
    rw [hinput, hinput]
    exact h.increasingInputs.le hij (by omega)
  obtain ⟨hle, hleft, hright⟩ := hseparates
  simp only [hinput, List.length_map] at hle hleft hright
  unfold segmentIndex
  generalize bisectRight (points.map Prod.fst) value = place at *
  refine ⟨by omega, fun hpos => hleft _ (by omega), fun hlt => hright _ (by omega) (by omega)⟩

/-- The value of the line of the segment of a value. -/
def interpolate (points : List (F × F)) (value : F) : F :=
  lineThrough (numberedPoints points (segmentIndex points value))
    (numberedPoints points (segmentIndex points value + 1)) value

variable {c : ConversionDefinition F}

omit [LinearOrder F] in
theorem pointAt_eq {i : ℕ} (h : i < points.length) :
    pointAt points i = .ok (numberedPoints points i) := by
  unfold pointAt
  rw [getElem?_eq_numberedPoints h]

/-- **No width is zero**, and the value is that of the line. -/
theorem convertValue_piecewise (htype : c.type = .piecewiseLinear) (hpoints : c.points = some points)
    (h : ValidPoints points) (value : F) :
    convertValue value c = .ok (some (interpolate points value)) := by
  have htwo := h.two_le
  have hindex := (selects_segmentIndex h value).le
  have hwidth : (numberedPoints points (segmentIndex points value + 1)).1 -
      (numberedPoints points (segmentIndex points value)).1 ≠ 0 :=
    sub_ne_zero.mpr (h.increasingInputs _ _ (Nat.lt_succ_self _) (by omega)).ne'
  unfold convertValue
  rw [htype, hpoints, required]
  dsimp only
  show (pointAt points (segmentIndex points value) >>= fun left => _) = _
  rw [pointAt_eq (by omega)]
  show (pointAt points (segmentIndex points value + 1) >>= fun right => _) = _
  rw [pointAt_eq (by omega)]
  show (divide _ _ >>= fun fraction => _) = _
  rw [divide, if_neg hwidth]
  rfl

/-- In a list whose members are in order so are two by their places. -/
theorem eq_or_of_idxOf_le {α : Type} [DecidableEq α] {R : α → α → Prop} {xs : List α}
    (h : xs.Pairwise R) {a b : α} (ha : a ∈ xs) (hb : b ∈ xs) (hle : xs.idxOf a ≤ xs.idxOf b) :
    a = b ∨ R a b := by
  rcases Nat.lt_or_eq_of_le hle with hlt | heq
  · have hpair := List.pairwise_iff_getElem.mp h _ _ (List.idxOf_lt_length_iff.mpr ha)
      (List.idxOf_lt_length_iff.mpr hb) hlt
    rw [List.getElem_idxOf, List.getElem_idxOf] at hpair
    exact .inr hpair
  · exact .inl ((List.idxOf_inj ha).mp heq)

/-- **The nearest point**, the lower one on a tie. -/
theorem convertValue_lookup (htype : c.type = .lookupTable) (hpoints : c.points = some points)
    (h : ValidPoints points) (value : F) :
    ∃ p ∈ points, convertValue value c = .ok (some p.2) ∧
      (∀ q ∈ points, |p.1 - value| ≤ |q.1 - value|) ∧
      ∀ q ∈ points, |q.1 - value| = |p.1 - value| → p.1 ≤ q.1 := by
  have htwo := h.two_le
  have hindex := (selects_segmentIndex h value).le
  cases hnearest : points.argmin fun point => |point.1 - value| with
  | none =>
    rw [List.argmin_eq_none] at hnearest
    rw [hnearest] at htwo
    cases htwo
  | some p =>
    obtain ⟨hmem, hleast, hfirst⟩ := List.mem_argmin_iff.mp hnearest
    refine ⟨p, hmem, ?_, hleast, fun q hq htie => ?_⟩
    · unfold convertValue
      rw [htype, hpoints, required]
      dsimp only
      show (pointAt points (segmentIndex points value) >>= fun left => _) = _
      rw [pointAt_eq (by omega)]
      show (pointAt points (segmentIndex points value + 1) >>= fun right => _) = _
      rw [pointAt_eq (by omega)]
      show (nearestPoint points value >>= fun point => _) = _
      rw [nearestPoint, hnearest]
      rfl
    · rcases eq_or_of_idxOf_le h.increasing hmem hq (hfirst q hq htie.le) with rfl | hlt
      · exact le_refl _
      · exact hlt.le

/-- What a function has to do with points to be piecewise linear through them: it passes through
each, is the line between two neighbours, goes on along the first and the last line beyond the ends,
and rises or falls if the points do. -/
structure IsPiecewiseLinear (points : List (F × F)) (f : F → F) : Prop where
  through : ∀ p ∈ points, f p.1 = p.2
  between : ∀ i p q, points[i]? = some p → points[i + 1]? = some q →
    ∀ x, p.1 ≤ x → x ≤ q.1 → f x = lineThrough p q x
  before : ∀ p q rest, points = p :: q :: rest → ∀ x, x ≤ p.1 → f x = lineThrough p q x
  beyond : ∀ front p q, points = front ++ [p, q] → ∀ x, q.1 ≤ x → f x = lineThrough p q x
  monotone : points.Pairwise (fun p q => p.2 ≤ q.2) → Monotone f
  antitone : points.Pairwise (fun p q => q.2 ≤ p.2) → Antitone f

variable [IsStrictOrderedRing F]

theorem isPiecewiseLinear_interpolate (h : ValidPoints points) :
    IsPiecewiseLinear points (interpolate points) := by
  have htwo := h.two_le
  have hinputs := h.increasingInputs
  have hsel (x : F) := selects_segmentIndex h x
  -- outputs in order are in order by their numbers
  have houtputs {R : F → F → Prop} (hpairwise : points.Pairwise fun p q => R p.2 q.2) (i : ℕ)
      (hi : i ≤ points.length - 2) :
      R (numberedPoints points i).2 (numberedPoints points (i + 1)).2 := by
    have hfirst : i < points.length := by omega
    have hsecond : i + 1 < points.length := by omega
    have hpair := List.pairwise_iff_getElem.mp hpairwise i (i + 1) hfirst hsecond (Nat.lt_succ_self i)
    rwa [numberedPoints, numberedPoints, List.getD_eq_getElem _ _ hfirst,
      List.getD_eq_getElem _ _ hsecond]
  constructor
  · intro p hp
    obtain ⟨i, hi⟩ := List.getElem?_of_mem hp
    obtain ⟨hlt, -⟩ := List.getElem?_eq_some_iff.mp hi
    have hpoint := numberedPoints_eq hi
    rw [interpolate, (hsel p.1).eq_point hinputs (show i ≤ points.length - 2 + 1 by omega) (by rw [hpoint]),
      hpoint]
  · intro i p q hp hq x hleft hright
    obtain ⟨hlt, -⟩ := List.getElem?_eq_some_iff.mp hq
    rw [← numberedPoints_eq hp] at hleft ⊢
    rw [← numberedPoints_eq hq] at hright ⊢
    exact (hsel x).eq_between hinputs (by omega) hleft hright
  · rintro p q rest rfl x hx
    rw [interpolate, (hsel x).eq_first hinputs hx]
    rfl
  · rintro front p q rfl x hx
    have hlength : (front ++ [p, q]).length - 2 = front.length := by simp
    have hp : numberedPoints (front ++ [p, q]) front.length = p := numberedPoints_eq (by simp)
    have hq : numberedPoints (front ++ [p, q]) (front.length + 1) = q := numberedPoints_eq (by simp)
    rw [hlength] at hsel hinputs
    rw [interpolate, (hsel x).eq_last hinputs (by rw [hq]; exact hx), hp, hq]
  · exact fun hpairwise x y hxy =>
      (hsel x).monotone (hsel y) hinputs (houtputs (R := fun a b => a ≤ b) hpairwise) hxy
  · exact fun hpairwise x y hxy =>
      (hsel x).antitone (hsel y) hinputs (houtputs (R := fun a b => b ≤ a) hpairwise) hxy

omit [IsStrictOrderedRing F] in
theorem validateParameters_of_accepts (h : accepts c = true) : validateParameters c = .ok () := by
  unfold accepts at h
  rw [Bool.and_eq_true] at h
  cases hresult : validateParameters c with
  | ok => rfl
  | error message =>
    rw [hresult] at h
    cases h.2

omit [IsStrictOrderedRing F] in
/-- An accepted definition raises nothing. -/
theorem convertValue_total (h : validateParameters c = .ok ()) (value : F) :
    ∃ result, convertValue value c = .ok result := by
  cases htype : c.type with
  | unconfigured =>
    unfold convertValue
    rw [htype]
    exact ⟨none, rfl⟩
  | identity =>
    unfold convertValue
    rw [htype]
    exact ⟨some value, rfl⟩
  | linear =>
    have hparameters : ¬ (c.gain = none ∨ c.offset = none) := by
      intro hnone
      unfold validateParameters at h
      rw [if_pos ⟨htype, hnone⟩] at h
      cases h
    obtain ⟨gain, hgain⟩ := Option.ne_none_iff_exists'.mp fun hnone => hparameters (.inl hnone)
    obtain ⟨offset, hoffset⟩ := Option.ne_none_iff_exists'.mp fun hnone => hparameters (.inr hnone)
    unfold convertValue
    rw [htype, hgain, hoffset]
    exact ⟨some (value * gain + offset), rfl⟩
  | polynomial =>
    have hcoefficients : c.coefficients ≠ none := by
      intro hnone
      unfold validateParameters at h
      rw [if_neg (by simp [htype]), if_pos ⟨htype, .inl (by rw [hnone]; rfl)⟩] at h
      cases h
    obtain ⟨coefficients, hsome⟩ := Option.ne_none_iff_exists'.mp hcoefficients
    unfold convertValue
    rw [htype, hsome]
    exact ⟨_, rfl⟩
  | piecewiseLinear =>
    obtain ⟨points, hpoints, hgood⟩ := validPoints_of_accepted h (.inl htype)
    exact ⟨_, convertValue_piecewise htype hpoints hgood value⟩
  | lookupTable =>
    obtain ⟨points, hpoints, hgood⟩ := validPoints_of_accepted h (.inr htype)
    obtain ⟨p, -, hconvert, -⟩ := convertValue_lookup htype hpoints hgood value
    exact ⟨_, hconvert⟩

/-- **Sensor conversions are what the profile says.**  An accepted definition raises nothing for any
value; a piecewise linear one is the piecewise linear function through its points, and a lookup
table returns the output of a point nearest to the value, the lower one on a tie. -/
theorem convertValue_accepted (c : ConversionDefinition F) (h : accepts c = true) :
    (∀ value, ∃ result, convertValue value c = .ok result) ∧
    (c.type = .piecewiseLinear → ∃ points f, c.points = some points ∧
      (∀ value, convertValue value c = .ok (some (f value))) ∧ IsPiecewiseLinear points f) ∧
    (c.type = .lookupTable → ∃ points, c.points = some points ∧
      ∀ value, ∃ p ∈ points, convertValue value c = .ok (some p.2) ∧
        (∀ q ∈ points, |p.1 - value| ≤ |q.1 - value|) ∧
        ∀ q ∈ points, |q.1 - value| = |p.1 - value| → p.1 ≤ q.1) := by
  have hvalid := validateParameters_of_accepts h
  refine ⟨convertValue_total hvalid, fun htype => ?_, fun htype => ?_⟩
  · obtain ⟨points, hpoints, hgood⟩ := validPoints_of_accepted hvalid (.inl htype)
    exact ⟨points, interpolate points, hpoints, convertValue_piecewise htype hpoints hgood,
      isPiecewiseLinear_interpolate hgood⟩
  · obtain ⟨points, hpoints, hgood⟩ := validPoints_of_accepted hvalid (.inr htype)
    exact ⟨points, hpoints, convertValue_lookup htype hpoints hgood⟩

/-- A curve through three points. -/
def curve : ConversionDefinition ℚ :=
  { type := .piecewiseLinear, points := some [(0, 1), (2, 5), (3, 4)] }

theorem convertValue_accepted_curve : ∃ f : ℚ → ℚ,
    (∀ value, convertValue value curve = .ok (some (f value))) ∧ f 2 = 5 ∧ f 1 = 3 := by
  obtain ⟨points, f, hpoints, hconvert, hlinear⟩ :=
    (convertValue_accepted curve (by decide +kernel)).2.1 rfl
  cases hpoints
  have hbetween := hlinear.between 0 (0, 1) (2, 5) rfl rfl 1 (by norm_num) (by norm_num)
  refine ⟨f, hconvert, hlinear.through (2, 5) (by simp), ?_⟩
  rw [hbetween, lineThrough]
  norm_num

end Conversions

end SeedMg24.Analysis
