import SeedMg24.Analysis.TelemetryRoundTrip
import Mathlib.Algebra.Order.Round

/-!
# Vibration summaries from the node to the gateway

A summary whose metrics are within their bounds always fits its buffer, the gateway accepts it, and
every field it shows is the metric of the node up to half a unit of what the field counts in.
-/

set_option autoImplicit false

namespace SeedMg24.Analysis

open SeedMg24.Model SeedMg24.Model.TelemetryParser SeedMg24.Model.TelemetryEncoder
open Foundation Foundation.Json

/-! ## Scaled metrics -/

/-- A value in units of one over a scale is off by half a unit at most. -/
def Near (scale : ℕ) (decoded : ℚ) (x : Single) : Prop := |decoded - x.value| ≤ 1 / 2 / scale

theorem lround_eq {q : ℚ} (h : 0 ≤ q) : lround q = round q := by
  rw [lround, if_neg (not_lt.mpr h), round_eq]

/-- The bounds of a metric, and that it is finite. -/
theorem isBounded_iff {x : Single} {maximum : ℚ} :
    isBounded x maximum = true ↔ x.isFinite = true ∧ 0 ≤ x.value ∧ x.value ≤ maximum := by
  simp [isBounded, and_assoc]

/-- A metric from zero on is scaled to the nearest unit. -/
theorem near_scaled {x : Single} (h : 0 ≤ x.value) {scale : ℕ} (hscale : 0 < scale) :
    Near scale (scaled x scale / scale) x := by
  have hpos : (0 : ℚ) < scale := by exact_mod_cast hscale
  have hproduct : 0 ≤ x.value * scale := mul_nonneg h hpos.le
  have hround : ((scaled x scale : ℕ) : ℚ) = round (x.value * scale) := by
    have hint : ((scaled x scale : ℕ) : ℤ) = round (x.value * scale) := by
      rw [scaled, lround_eq hproduct, Int.toNat_of_nonneg]
      rw [round_eq]
      exact Int.floor_nonneg.mpr (by linarith)
    exact_mod_cast congrArg (Int.cast : ℤ → ℚ) hint
  have hdistance : (scaled x scale : ℚ) / scale - x.value =
      -((x.value * scale - round (x.value * scale)) / scale) := by
    rw [hround, sub_div, mul_div_cancel_right₀ _ hpos.ne']
    ring
  rw [Near, hdistance, abs_neg, abs_div, abs_of_pos hpos]
  exact div_le_div_of_nonneg_right (abs_sub_round _) hpos.le

/-- A metric up to a bound is scaled up to that bound in units. -/
theorem scaled_le {x : Single} {scale maximum : ℕ} (h : x.value * scale ≤ maximum) :
    scaled x scale ≤ maximum := by
  have hlround : lround (x.value * scale) ≤ maximum := by
    unfold lround
    split
    · rename_i hneg
      have hfloor : 0 ≤ ⌊-(x.value * scale) + 1 / 2⌋ := Int.floor_nonneg.mpr (by linarith)
      omega
    · rw [← Int.lt_add_one_iff, Int.floor_lt]
      push_cast
      linarith
  rw [scaled, Int.toNat_le]
  exact hlround

/-- A metric of at least one unit is scaled to one at least. -/
theorem one_le_scaled {x : Single} {scale : ℕ} (h : 1 ≤ x.value * scale) : 1 ≤ scaled x scale := by
  have hlround : 1 ≤ lround (x.value * scale) := by
    rw [lround, if_neg (by linarith), Int.le_floor]
    push_cast
    linarith
  rw [scaled]
  omega

/-! ## The metrics of a summary -/

/-- The numbers three axes are shown as. -/
def counts (scale : ℕ) (a : Axes Single) : List ℕ :=
  [scaled a.x scale, scaled a.y scale, scaled a.z scale]

def accelRms (value : VibrationWindowResult) : Axes Single :=
  ⟨value.accelX.rms, value.accelY.rms, value.accelZ.rms⟩

def accelPeak (value : VibrationWindowResult) : Axes Single :=
  ⟨value.accelX.peakAbs, value.accelY.peakAbs, value.accelZ.peakAbs⟩

def crestFactors (value : VibrationWindowResult) : Axes Single :=
  ⟨value.accelX.crestFactor, value.accelY.crestFactor, value.accelZ.crestFactor⟩

def kurtoses (value : VibrationWindowResult) : Axes Single :=
  ⟨value.accelX.kurtosis, value.accelY.kurtosis, value.accelZ.kurtosis⟩

def dominantFrequencies (value : VibrationWindowResult) : Axes Single :=
  ⟨value.accelXFrequency.dominantFrequencyHz, value.accelYFrequency.dominantFrequencyHz,
    value.accelZFrequency.dominantFrequencyHz⟩

def dominantAmplitudes (value : VibrationWindowResult) : Axes Single :=
  ⟨value.accelXFrequency.dominantAmplitude, value.accelYFrequency.dominantAmplitude,
    value.accelZFrequency.dominantAmplitude⟩

def gyroRms (value : VibrationWindowResult) : Axes Single :=
  ⟨value.gyroX.rms, value.gyroY.rms, value.gyroZ.rms⟩

/-- Three metrics of one kind, within their bounds. -/
structure AreBounded (scale maximum : ℕ) (a : Axes Single) : Prop where
  nonneg : 0 ≤ a.x.value ∧ 0 ≤ a.y.value ∧ 0 ≤ a.z.value
  le : scaled a.x scale ≤ maximum ∧ scaled a.y scale ≤ maximum ∧ scaled a.z scale ≤ maximum

theorem areBounded_of_isBounded {a : Axes Single} {bound : ℚ} {scale maximum : ℕ}
    (hx : isBounded a.x bound = true) (hy : isBounded a.y bound = true)
    (hz : isBounded a.z bound = true) (hmaximum : bound * scale ≤ maximum) :
    AreBounded scale maximum a := by
  obtain ⟨-, hx0, hx1⟩ := isBounded_iff.mp hx
  obtain ⟨-, hy0, hy1⟩ := isBounded_iff.mp hy
  obtain ⟨-, hz0, hz1⟩ := isBounded_iff.mp hz
  have hscale {v : ℚ} (h : v ≤ bound) : v * scale ≤ maximum :=
    (mul_le_mul_of_nonneg_right h (Nat.cast_nonneg scale)).trans hmaximum
  exact ⟨⟨hx0, hy0, hz0⟩, scaled_le (hscale hx1), scaled_le (hscale hy1), scaled_le (hscale hz1)⟩

/-- What the check of the metrics says of each field of the summary. -/
structure Bounded (value : VibrationWindowResult) : Prop where
  rms : AreBounded 1000 16000 (accelRms value)
  peak : AreBounded 1000 16000 (accelPeak value)
  crest : AreBounded 10 1000 (crestFactors value)
  kurtosis : AreBounded 10 10000 (kurtoses value)
  frequency : AreBounded 10 2500 (dominantFrequencies value)
  amplitude : AreBounded 1000 16000 (dominantAmplitudes value)
  gyro : AreBounded 10 20000 (gyroRms value)
  rate_pos : 0 < value.effectiveSampleRateHz.value
  rate_le : scaled value.effectiveSampleRateHz 10 ≤ 5000

theorem bounded_of_metricsAreBounded {value : VibrationWindowResult}
    (h : metricsAreBounded value = true) : Bounded value := by
  simp only [metricsAreBounded, List.all_cons, List.all_nil, Bool.and_true, Bool.and_eq_true,
    accelAxisIsBounded, frequencyIsBounded, decide_eq_true_eq] at h
  obtain ⟨⟨⟨⟨⟨⟨hx, hy, hz⟩, hgx, hgy, hgz⟩, hfx, hfy, hfz⟩, -⟩, hpos⟩, hrate⟩ := h
  obtain ⟨⟨⟨hxr, hxp⟩, hxc⟩, hxk⟩ := hx
  obtain ⟨⟨⟨hyr, hyp⟩, hyc⟩, hyk⟩ := hy
  obtain ⟨⟨⟨hzr, hzp⟩, hzc⟩, hzk⟩ := hz
  have hrateBound : value.effectiveSampleRateHz.value * (10 : ℕ) ≤ (5000 : ℕ) := by
    push_cast
    linarith
  exact {
    rms := areBounded_of_isBounded hxr hyr hzr (by norm_num)
    peak := areBounded_of_isBounded hxp hyp hzp (by norm_num)
    crest := areBounded_of_isBounded hxc hyc hzc (by norm_num)
    kurtosis := areBounded_of_isBounded hxk hyk hzk (by norm_num)
    frequency := areBounded_of_isBounded hfx.1 hfy.1 hfz.1 (by norm_num)
    amplitude := areBounded_of_isBounded hfx.2 hfy.2 hfz.2 (by norm_num)
    gyro := areBounded_of_isBounded hgx hgy hgz (by norm_num)
    rate_pos := hpos
    rate_le := scaled_le hrateBound }

/-! ## The text of a summary -/

/-- The members of the object `encodeVibrationSummary` prints. -/
def summaryFields (value : VibrationWindowResult) (sequence uptimeMs : UInt32) : List Field :=
  [.string "t".toList "v".toList, .natural "v".toList kVibrationSummarySchemaVersion,
    .natural "s".toList sequence.toNat, .natural "m".toList uptimeMs.toNat,
    .natural "a".toList kVibrationAlgorithmVersion,
    .natural "f".toList (scaled value.effectiveSampleRateHz 10), .natural "q".toList 1,
    .naturals "r".toList (counts 1000 (accelRms value)),
    .naturals "p".toList (counts 1000 (accelPeak value)),
    .naturals "c".toList (counts 10 (crestFactors value)),
    .naturals "k".toList (counts 10 (kurtoses value)),
    .naturals "d".toList (counts 10 (dominantFrequencies value)),
    .naturals "x".toList (counts 1000 (dominantAmplitudes value)),
    .naturals "g".toList (counts 10 (gyroRms value))]

theorem axesText_eq (x y z : ℕ) : axesText x y z = arrayText ([x, y, z].map Text.decimal) := by
  simp [axesText, arrayText, itemsText]

theorem summaryText_eq (value : VibrationWindowResult) (sequence uptimeMs : UInt32) :
    summaryText value sequence uptimeMs = fieldsText (summaryFields value sequence uptimeMs) := by
  unfold summaryText summaryFields
  simp only [axesText_eq, fieldsText, objectText, membersText, memberText, Field.string,
    Field.natural, Field.naturals, List.map_cons, List.map_nil, List.append_assoc,
    List.cons_append]
  rfl

theorem isRead_summaryFields (value : VibrationWindowResult) (sequence uptimeMs : UInt32) :
    ∀ f ∈ summaryFields value sequence uptimeMs, f.IsRead := by
  intro f hf
  simp only [summaryFields, List.mem_cons, List.not_mem_nil, or_false] at hf
  rcases hf with rfl | rfl | rfl | rfl | rfl | rfl | rfl | rfl | rfl | rfl | rfl | rfl | rfl | rfl
  · exact Field.isRead_string (by decide) (by decide)
  iterate 6 exact Field.isRead_natural (by decide) _
  all_goals exact Field.isRead_naturals (by decide) (by simp [counts])

theorem isAscii_summaryFields (value : VibrationWindowResult) (sequence uptimeMs : UInt32) :
    ∀ f ∈ summaryFields value sequence uptimeMs, f.IsAscii := by
  intro f hf
  simp only [summaryFields, List.mem_cons, List.not_mem_nil, or_false] at hf
  rcases hf with rfl | rfl | rfl | rfl | rfl | rfl | rfl | rfl | rfl | rfl | rfl | rfl | rfl | rfl
  · exact Field.isAscii_string (by decide) (by decide)
  iterate 6 exact Field.isAscii_natural (by decide) _
  all_goals exact Field.isAscii_naturals (by decide) _

/-- Three numbers of so many digits, with their brackets. -/
theorem AreBounded.length_text_le {scale maximum : ℕ} {a : Axes Single}
    (h : AreBounded scale maximum a) (key : Text) {digits : ℕ} (hdigits : 0 < digits)
    (hmaximum : maximum < 10 ^ digits) :
    (Field.naturals key (counts scale a)).text.length ≤ 3 * digits + 4 := by
  have hx := Text.length_decimal_le hdigits (h.le.1.trans_lt hmaximum)
  have hy := Text.length_decimal_le hdigits (h.le.2.1.trans_lt hmaximum)
  have hz := Text.length_decimal_le hdigits (h.le.2.2.trans_lt hmaximum)
  simp only [Field.naturals, counts, arrayText, itemsText, List.map_cons, List.map_nil,
    List.length_append, List.length_cons, List.length_nil]
  omega

/-- **The longest summary fits the buffer.** -/
theorem length_summaryText_le {value : VibrationWindowResult} (h : Bounded value)
    (sequence uptimeMs : UInt32) : (summaryText value sequence uptimeMs).length ≤ 228 := by
  have hcounter (key : Text) (n : UInt32) : (Field.natural key n.toNat).text.length ≤ 10 :=
    Text.length_decimal_le (by decide) (by have := n.toNat_lt; omega)
  have hrate : (Field.natural "f".toList (scaled value.effectiveSampleRateHz 10)).text.length ≤ 4 :=
    Text.length_decimal_le (by decide) (h.rate_le.trans_lt (by decide))
  have hr := h.rms.length_text_le "r".toList (show 0 < 5 by decide) (by decide)
  have hp := h.peak.length_text_le "p".toList (show 0 < 5 by decide) (by decide)
  have hc := h.crest.length_text_le "c".toList (show 0 < 4 by decide) (by decide)
  have hk := h.kurtosis.length_text_le "k".toList (show 0 < 5 by decide) (by decide)
  have hd := h.frequency.length_text_le "d".toList (show 0 < 4 by decide) (by decide)
  have hx := h.amplitude.length_text_le "x".toList (show 0 < 5 by decide) (by decide)
  have hg := h.gyro.length_text_le "g".toList (show 0 < 5 by decide) (by decide)
  -- every key is one letter
  have hfield {f : Field} {k : ℕ} (hkey : f.key.length = 1) (htext : f.text.length ≤ k) :
      f.key.length + f.text.length + 4 ≤ k + 5 := by omega
  have hsum : ((summaryFields value sequence uptimeMs).map fun f =>
      f.key.length + f.text.length + 4).sum ≤
        [8, 6, 15, 15, 6, 9, 6, 24, 24, 21, 24, 21, 24, 24].sum := by
    apply List.Forall₂.sum_le_sum
    refine .cons (hfield rfl (by decide)) <| .cons (hfield rfl (by decide)) <|
      .cons (hfield rfl (hcounter _ _)) <| .cons (hfield rfl (hcounter _ _)) <|
      .cons (hfield rfl (by decide)) <| .cons (hfield rfl hrate) <|
      .cons (hfield rfl (by decide)) <| .cons (hfield rfl hr) <| .cons (hfield rfl hp) <|
      .cons (hfield rfl hc) <| .cons (hfield rfl hk) <| .cons (hfield rfl hd) <|
      .cons (hfield rfl hx) <| .cons (hfield rfl hg) .nil
  rw [summaryText_eq, length_fieldsText (by simp [summaryFields])]
  exact Nat.succ_le_succ hsum

/-! ## The summary the gateway makes of it -/

/-- Three metrics within their bound are read as they are shown. -/
theorem boundedAxis_counts {payload : Json} {name : Text} {scale maximum : ℕ} {bound : ℚ}
    {a : Axes Single} (h : payload.get? name = some (.arr ((counts scale a).map fun n : ℕ => .int n)))
    (ha : AreBounded scale maximum a) (hlarge : maximum < 2 ^ 32) (hmaximum : (maximum : ℚ) = bound) :
    boundedAxis payload name bound = .ok (a.map fun x => (scaled x scale : ℚ)) := by
  subst hmaximum
  have hnumber (n : ℕ) (hn : n ≤ maximum) (field : Text) :
      finiteNumber (some (.int n)) field none none = .ok (.int n) := by
    apply finiteNumber_natural
    · calc (n : ℚ) ≤ maximum := by exact_mod_cast hn
        _ < 2 ^ 32 := by exact_mod_cast hlarge
        _ ≤ 2 ^ 1023 := pow_le_pow_right₀ (by norm_num) (by norm_num)
    · exact nofun
    · exact nofun
  have hbound (n : ℕ) (hn : n ≤ maximum) (error : ParseError) :
      require (0 ≤ (Number.int n).value && (Number.int n).value ≤ maximum) error = .ok () := by
    have hcast : (n : ℚ) ≤ maximum := by exact_mod_cast hn
    simp [require, Number.value, hcast]
  obtain ⟨hx, hy, hz⟩ := ha.le
  have harray : array (payload.get? name) name (some 3) 16 =
      .ok [.int (scaled a.x scale), .int (scaled a.y scale), .int (scaled a.z scale)] := by
    rw [h]
    simp [counts, array, require, hnumber _ hx, hnumber _ hy, hnumber _ hz, List.zipIdx, bind,
      Except.bind, pure, Except.pure]
  unfold boundedAxis
  rw [harray]
  simp only [bind, Except.bind, hbound _ hx, hbound _ hy, hbound _ hz]
  rfl

theorem get?_summaryFields (value : VibrationWindowResult) (sequence uptimeMs : UInt32) :
    let payload := fieldsJson (summaryFields value sequence uptimeMs)
    let axes (scale : ℕ) (a : Axes Single) := Json.arr ((counts scale a).map fun n : ℕ => .int n)
    payload.get? "t".toList = some (.str "v".toList) ∧
    payload.get? "v".toList = some (.int 1) ∧ payload.get? "a".toList = some (.int 1) ∧
    payload.get? "q".toList = some (.int 1) ∧
    payload.get? "s".toList = some (.int sequence.toNat) ∧
    payload.get? "m".toList = some (.int uptimeMs.toNat) ∧
    payload.get? "f".toList = some (.int (scaled value.effectiveSampleRateHz 10)) ∧
    payload.get? "r".toList = some (axes 1000 (accelRms value)) ∧
    payload.get? "p".toList = some (axes 1000 (accelPeak value)) ∧
    payload.get? "c".toList = some (axes 10 (crestFactors value)) ∧
    payload.get? "k".toList = some (axes 10 (kurtoses value)) ∧
    payload.get? "d".toList = some (axes 10 (dominantFrequencies value)) ∧
    payload.get? "x".toList = some (axes 1000 (dominantAmplitudes value)) ∧
    payload.get? "g".toList = some (axes 10 (gyroRms value)) :=
  ⟨rfl, rfl, rfl, rfl, rfl, rfl, rfl, rfl, rfl, rfl, rfl, rfl, rfl, rfl⟩

/-- The summary of the numbers that are shown. -/
def summaryOf (value : VibrationWindowResult) (sequence uptimeMs : UInt32) : VibrationSummary where
  windowSequence := sequence.toNat
  deviceUptimeMs := uptimeMs.toNat
  effectiveSampleRateHz := scaled value.effectiveSampleRateHz 10 / 10
  valid := true
  accelRmsG := (accelRms value).map fun x => (scaled x 1000 : ℚ) / 1000
  accelPeakG := (accelPeak value).map fun x => (scaled x 1000 : ℚ) / 1000
  crestFactor := (crestFactors value).map fun x => (scaled x 10 : ℚ) / 10
  kurtosis := (kurtoses value).map fun x => (scaled x 10 : ℚ) / 10
  dominantFrequencyHz := (dominantFrequencies value).map fun x => (scaled x 10 : ℚ) / 10
  dominantAmplitudeG := (dominantAmplitudes value).map fun x => (scaled x 1000 : ℚ) / 1000
  gyroRmsDps := (gyroRms value).map fun x => (scaled x 10 : ℚ) / 10

theorem parsePayload_summary {value : VibrationWindowResult} {sequence : UInt32}
    (hbounded : Bounded value) (hrate : 1 / 10 ≤ value.effectiveSampleRateHz.value)
    (hsequence : sequence ≠ 0) (uptimeMs : UInt32) (receivedAt : ℤ) :
    parsePayload (fieldsJson (summaryFields value sequence uptimeMs)) receivedAt = .ok {
      schemaVersion := 1
      recordType := .vibration
      deviceUptimeMs := some uptimeMs.toNat
      sequenceNumber := some sequence.toNat
      receivedAt
      vibration := some (summaryOf value sequence uptimeMs)
      originalPayload := fieldsJson (summaryFields value sequence uptimeMs) } := by
  obtain ⟨ht, hv, ha, hq, hs, hm, hf, hr, hp, hc, hk, hd, hx, hg⟩ :=
    get?_summaryFields value sequence uptimeMs
  have hkeys : hasExactly (fieldsJson (summaryFields value sequence uptimeMs)) vibrationKeys =
      true := rfl
  generalize fieldsJson (summaryFields value sequence uptimeMs) = payload at *
  have hpositive : 1 ≤ sequence.toNat := by
    have hne : sequence.toNat ≠ 0 := fun h => hsequence (UInt32.toNat_inj.mp h)
    omega
  have hone : 1 ≤ scaled value.effectiveSampleRateHz 10 := by
    apply one_le_scaled
    push_cast
    linarith
  have hrate : finiteNumber (payload.get? "f".toList) "f".toList (some 1) (some 5000) =
      .ok (.int (scaled value.effectiveSampleRateHz 10)) := by
    rw [hf]
    have hle := hbounded.rate_le
    apply finiteNumber_natural
    · calc (scaled value.effectiveSampleRateHz 10 : ℚ) ≤ 5000 := by exact_mod_cast hle
        _ < 2 ^ 32 := by norm_num
        _ ≤ 2 ^ 1023 := pow_le_pow_right₀ (by norm_num) (by norm_num)
    · rintro b ⟨⟩
      exact_mod_cast hone
    · rintro b ⟨⟩
      exact_mod_cast hle
  have hvibration : parsePayload payload receivedAt = parseVibration payload receivedAt := by
    unfold parsePayload
    rw [ht]
    rfl
  rw [hvibration]
  unfold parseVibration
  have hmodel : (1 ≤ sequence.toNat &&
      0 < (Number.int (scaled value.effectiveSampleRateHz 10)).value / 10 &&
      (Number.int (scaled value.effectiveSampleRateHz 10)).value / 10 ≤ 500) = true := by
    have hone : (1 : ℚ) ≤ scaled value.effectiveSampleRateHz 10 := by exact_mod_cast hone
    have hle : (scaled value.effectiveSampleRateHz 10 : ℚ) ≤ 5000 := by
      exact_mod_cast hbounded.rate_le
    simp only [Number.value, Int.cast_natCast, Bool.and_eq_true, decide_eq_true_eq]
    refine ⟨⟨hpositive, ?_⟩, ?_⟩ <;> linarith
  have hnonzero : decide (sequence.toNat ≠ 0) = true := decide_eq_true (by omega)
  rw [hkeys, hv, ha, hq, hs, hm, uint32_natural, uint32_natural, hrate,
    boundedAxis_counts hr hbounded.rms (by decide) (by norm_num),
    boundedAxis_counts hp hbounded.peak (by decide) (by norm_num),
    boundedAxis_counts hc hbounded.crest (by decide) (by norm_num),
    boundedAxis_counts hk hbounded.kurtosis (by decide) (by norm_num),
    boundedAxis_counts hd hbounded.frequency (by decide) (by norm_num),
    boundedAxis_counts hx hbounded.amplitude (by decide) (by norm_num),
    boundedAxis_counts hg hbounded.gyro (by decide) (by norm_num)]
  simp only [bind, Except.bind, hmodel, hnonzero]
  rfl

/-- The values of three axes, each up to half a unit. -/
structure AxesNear (scale : ℕ) (decoded : Axes ℚ) (a : Axes Single) : Prop where
  x : Near scale decoded.x a.x
  y : Near scale decoded.y a.y
  z : Near scale decoded.z a.z

/-- What the gateway has received is the window of the node, every metric up to half a unit. -/
structure Recovers (value : VibrationWindowResult) (sequence uptimeMs : UInt32)
    (s : VibrationSummary) : Prop where
  windowSequence : s.windowSequence = sequence.toNat
  deviceUptimeMs : s.deviceUptimeMs = uptimeMs.toNat
  valid : s.valid = true
  effectiveSampleRate : Near 10 s.effectiveSampleRateHz value.effectiveSampleRateHz
  rms : AxesNear 1000 s.accelRmsG (accelRms value)
  peak : AxesNear 1000 s.accelPeakG (accelPeak value)
  crest : AxesNear 10 s.crestFactor (crestFactors value)
  kurtosis : AxesNear 10 s.kurtosis (kurtoses value)
  frequency : AxesNear 10 s.dominantFrequencyHz (dominantFrequencies value)
  amplitude : AxesNear 1000 s.dominantAmplitudeG (dominantAmplitudes value)
  gyro : AxesNear 10 s.gyroRmsDps (gyroRms value)

theorem AreBounded.axesNear {scale maximum : ℕ} {a : Axes Single}
    (h : AreBounded scale maximum a) (hscale : 0 < scale) :
    AxesNear scale (a.map fun x => (scaled x scale : ℚ) / scale) a where
  x := near_scaled h.nonneg.1 hscale
  y := near_scaled h.nonneg.2.1 hscale
  z := near_scaled h.nonneg.2.2 hscale

theorem recovers_summaryOf {value : VibrationWindowResult} (h : Bounded value)
    (sequence uptimeMs : UInt32) :
    Recovers value sequence uptimeMs (summaryOf value sequence uptimeMs) where
  windowSequence := rfl
  deviceUptimeMs := rfl
  valid := rfl
  effectiveSampleRate := near_scaled h.rate_pos.le (show 0 < 10 by decide)
  rms := h.rms.axesNear (by decide)
  peak := h.peak.axesNear (by decide)
  crest := h.crest.axesNear (by decide)
  kurtosis := h.kurtosis.axesNear (by decide)
  frequency := h.frequency.axesNear (by decide)
  amplitude := h.amplitude.axesNear (by decide)
  gyro := h.gyro.axesNear (by decide)

/-- **A summary within its bounds is encoded, accepted and recovered.** -/
theorem vibrationSummary_recovered (value : VibrationWindowResult) (sequence uptimeMs : UInt32)
    (receivedAt : ℤ) (hmetrics : metricsAreBounded value = true)
    (hrate : 1 / 10 ≤ value.effectiveSampleRateHz.value) (hsequence : sequence ≠ 0) :
    (encodeVibrationSummary value sequence uptimeMs kVibrationSummaryMaximumBytes).1 = true ∧
      ∃ t s, parseTelemetry
          (encodeVibrationSummary value sequence uptimeMs kVibrationSummaryMaximumBytes).2.toBytes
          defaultMaxPayloadBytes receivedAt = .ok t ∧
        t.recordType = .vibration ∧ t.sequenceNumber = some sequence.toNat ∧
        t.deviceUptimeMs = some uptimeMs.toNat ∧ t.vibration = some s ∧
        Recovers value sequence uptimeMs s := by
  have hbounded := bounded_of_metricsAreBounded hmetrics
  have hlength := length_summaryText_le hbounded sequence uptimeMs
  have hne : 0 < (summaryText value sequence uptimeMs).length := by
    rw [summaryText_eq]
    simp [fieldsText, objectText]
  have hfits : (summaryText value sequence uptimeMs).length < kVibrationSummaryMaximumBytes :=
    hlength.trans_lt (by decide)
  have hencoded : encodeVibrationSummary value sequence uptimeMs kVibrationSummaryMaximumBytes =
      (true, fieldsText (summaryFields value sequence uptimeMs)) := by
    unfold encodeVibrationSummary
    rw [if_neg (by simp [hmetrics])]
    dsimp only
    rw [Text.snprintf_eq_self hfits, summaryText_eq] at *
    simp [hne, hfits, hfits.le]
  have hshort : (fieldsText (summaryFields value sequence uptimeMs)).length ≤
      defaultMaxPayloadBytes := by
    rw [← summaryText_eq]
    exact hlength.trans (by decide)
  have hreceived := (parseTelemetry_fields (by simp [summaryFields])
    (isRead_summaryFields value sequence uptimeMs) (isAscii_summaryFields value sequence uptimeMs)
    hshort receivedAt).trans (parsePayload_summary hbounded hrate hsequence uptimeMs receivedAt)
  rw [hencoded]
  exact ⟨rfl, _, _, hreceived, rfl, rfl, rfl, rfl, recovers_summaryOf hbounded sequence uptimeMs⟩

/-- A node at rest, sampled a hundred times a second. -/
def restingWindow : VibrationWindowResult :=
  let zero : Single := .finite false 0 0
  let axis : AxisVibrationMetrics := ⟨zero, zero, zero, zero⟩
  let frequency : FrequencyMetrics := ⟨zero, zero⟩
  ⟨.finite false 100 149, axis, axis, axis, axis, axis, axis, frequency, frequency, frequency⟩

theorem vibrationSummary_recovered_restingWindow :
    (encodeVibrationSummary restingWindow 1 600 kVibrationSummaryMaximumBytes).1 = true ∧
      ∃ t s, parseTelemetry
          (encodeVibrationSummary restingWindow 1 600 kVibrationSummaryMaximumBytes).2.toBytes
          defaultMaxPayloadBytes 0 = .ok t ∧
        t.recordType = .vibration ∧ t.sequenceNumber = some (1 : UInt32).toNat ∧
        t.deviceUptimeMs = some (600 : UInt32).toNat ∧ t.vibration = some s ∧
        Recovers restingWindow 1 600 s :=
  vibrationSummary_recovered restingWindow 1 600 0 (by decide +kernel) (by decide +kernel)
    (by decide)

end SeedMg24.Analysis
