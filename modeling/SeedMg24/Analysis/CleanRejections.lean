import SeedMg24.Analysis.TelemetryRoundTrip
import SeedMg24.Foundation.Checks

/-!
# Telemetry that is rejected cleanly

The parser reads the fields of a packet one after the other, and stops at the first that it does not
accept.  Most of what it does not accept it rejects; but a list or a dictionary where a name is
looked up, an integer that is too large for a float, a unit the model refuses and a window with the
sequence number zero let another exception escape.
-/

set_option autoImplicit false

namespace SeedMg24.Analysis

open Foundation Verdict SeedMg24.Model.TelemetryParser

namespace CleanRejections

/-! ## Verdicts about fields -/

/-- A `TelemetryParseError`. -/
def isRejection : ParseError → Bool
  | .telemetry _ => true
  | _ => false

/-- The verdict of a part of the parser. -/
abbrev verdict {α : Type} (x : Except ParseError α) : Verdict := Checks.verdict isRejection x

/-- The number a field stands for. -/
def numberOf : Option Json → ℚ
  | some (.int z) => z
  | some (.float (.finite q)) => q
  | _ => 0

/-- A condition that rejects. -/
def demand (condition : Bool) : Verdict := if condition then accepts else rejects

/-- A number within bounds: what is no finite number is rejected, and an integer escapes if it has no
finite float.
SOURCE: telemetry_parser.py:13-20 -/
def numberVerdict (value : Option Json) (minimum maximum : Option ℚ) : Verdict :=
  let bounded := demand (minimum.all (· ≤ numberOf value) && maximum.all (numberOf value ≤ ·))
  match value with
  | some (.int z) => match Double.nearest z with
    | .finite _ => bounded
    | _ => escapes
  | some (.float (.finite _)) => bounded
  | _ => rejects

/-- A list of numbers.
SOURCE: telemetry_parser.py:27-30 -/
def arrayVerdict (value : Option Json) (exact : Option ℕ) (maximum : ℕ) : Verdict :=
  match value with
  | some (.arr items) =>
    (demand (items.length ≤ maximum && exact.all (items.length == ·))).andThen
      (first (items.map fun item => numberVerdict (some item) none none))
  | _ => rejects

/-- Three numbers from zero to a bound.
SOURCE: telemetry_parser.py:55-57 -/
def axisVerdict (value : Option Json) (maximum : ℚ) : Verdict :=
  (arrayVerdict value (some 3) 16).andThen (match value with
    | some (.arr items) =>
      first (items.map fun item => demand (0 ≤ numberOf (some item) && numberOf (some item) ≤ maximum))
    | _ => rejects)

/-- A value that is looked up in a set: what cannot be hashed escapes. -/
def hashVerdict (value : Option Json) : Verdict :=
  match value with
  | some (.arr _) => escapes
  | some (.obj _) => escapes
  | _ => accepts

/-- What a name stands for. -/
def named {α : Type} (value : Option Json) (names : List (Text × α)) : Option α :=
  match value with
  | some (.str s) => names.lookup s
  | _ => none

/-- A value that has to be one of the names. -/
def keyVerdict {α : Type} (value : Option Json) (names : List (Text × α)) : Verdict :=
  (hashVerdict value).andThen (demand (named value names).isSome)

/-- A text that may be missing, with bounds on its length, and what becomes of anything else. -/
def textVerdict (value : Option Json) (minimum maximum : ℕ) (otherwise : Verdict) : Verdict :=
  match value with
  | none => accepts
  | some .null => accepts
  | some (.str s) => if minimum ≤ s.length ∧ s.length ≤ maximum then accepts else otherwise
  | some _ => otherwise

/-- A list of numbers that may be missing. -/
def listVerdict (value : Option Json) (exact : Option ℕ) (maximum : ℕ) : Verdict :=
  if isNone value then accepts else arrayVerdict value exact maximum

/-- A number that is read if it is there. -/
def presentVerdict (value : Option Json) (minimum maximum : Option ℚ) : Verdict :=
  match value with
  | none => accepts
  | some found => numberVerdict (some found) minimum maximum

/-- A check, and what follows it. -/
theorem verdict_then {α β : Type} {x : Except ParseError α} {f : α → Except ParseError β}
    {u v : Verdict} (hx : verdict x = u) (h : ∀ a, x = .ok a → verdict (f a) = v) :
    verdict (x >>= f) = u.andThen v := by
  rw [← hx]
  exact Checks.verdict_bind isRejection x f h

/-- A check after which nothing fails. -/
theorem verdict_last {α β : Type} {x : Except ParseError α} {f : α → Except ParseError β}
    {u : Verdict} (hx : verdict x = u) (h : ∀ a, x = .ok a → verdict (f a) = accepts) :
    verdict (x >>= f) = u :=
  (verdict_then hx h).trans (andThen_accepts u)

theorem demand_isSome {α : Type} (a : α) (v : Verdict) :
    (demand (some a).isSome).andThen v = v := rfl

theorem verdict_require (condition : Bool) (message : Text) :
    verdict (require condition (.telemetry message)) = demand condition := by
  unfold require demand
  split
  · rfl
  · rfl

/-- SOURCE: telemetry_parser.py:13-20 -/
theorem verdict_finiteNumber (value : Option Json) (field : Text) (minimum maximum : Option ℚ) :
    verdict (finiteNumber value field minimum maximum) = numberVerdict value minimum maximum := by
  have hbounded (n : Number) (h : n.value = numberOf value) : verdict (do
      require (minimum.all (· ≤ n.value) && maximum.all (n.value ≤ ·))
        (.telemetry (field ++ " is outside the permitted range".toList))
      return n) =
      demand (minimum.all (· ≤ numberOf value) && maximum.all (numberOf value ≤ ·)) := by
    rw [h]
    exact verdict_last (verdict_require _ _) fun _ _ => rfl
  unfold finiteNumber numberVerdict
  match value with
  | none => rfl
  | some .null => rfl
  | some (.bool _) => rfl
  | some (.str _) => rfl
  | some (.arr _) => rfl
  | some (.obj _) => rfl
  | some (.float .nan) => rfl
  | some (.float (.infinite _)) => rfl
  | some (.float (.finite q)) => exact hbounded (.float q) rfl
  | some (.int z) =>
    dsimp only
    cases Double.nearest z with
    | nan => rfl
    | infinite negative => rfl
    | finite q => exact hbounded (.int z) rfl

/-- What is read is the number the field stands for, it is within the bounds, and an integer has a
finite float. -/
theorem finiteNumber_ok {value : Option Json} {field : Text} {minimum maximum : Option ℚ}
    {n : Number} (h : finiteNumber value field minimum maximum = .ok n) :
    n.value = numberOf value ∧ (minimum.all (· ≤ n.value) && maximum.all (n.value ≤ ·)) = true ∧
      ∀ z, n = .int z → ∃ q, Double.nearest z = .finite q := by
  have hbounded (m : Number) (h : (do
      require (minimum.all (· ≤ m.value) && maximum.all (m.value ≤ ·))
        (.telemetry (field ++ " is outside the permitted range".toList))
      return m) = Except.ok n) :
      m = n ∧ (minimum.all (· ≤ n.value) && maximum.all (n.value ≤ ·)) = true := by
    unfold require at h
    split at h
    · rename_i hwithin
      cases h
      exact ⟨rfl, hwithin⟩
    · cases h
  unfold finiteNumber at h
  match value with
  | none => cases h
  | some .null => cases h
  | some (.bool _) => cases h
  | some (.str _) => cases h
  | some (.arr _) => cases h
  | some (.obj _) => cases h
  | some (.float .nan) => cases h
  | some (.float (.infinite _)) => cases h
  | some (.float (.finite q)) =>
    obtain ⟨rfl, hwithin⟩ := hbounded (.float q) h
    exact ⟨rfl, hwithin, nofun⟩
  | some (.int z) =>
    dsimp only at h
    cases hnearest : Double.nearest z with
    | nan =>
      rw [hnearest] at h
      cases h
    | infinite negative =>
      rw [hnearest] at h
      cases h
    | finite q =>
      rw [hnearest] at h
      obtain ⟨rfl, hwithin⟩ := hbounded (.int z) h
      refine ⟨rfl, hwithin, fun z' hz' => ?_⟩
      cases hz'
      exact ⟨q, hnearest⟩

/-- SOURCE: telemetry_parser.py:23-24 -/
theorem verdict_uint32 (value : Option Json) (field : Text) :
    verdict (uint32 value field) = numberVerdict value (some 0) (some 0xFFFFFFFF) := by
  exact verdict_last (verdict_finiteNumber value field _ _) fun _ _ => rfl

/-- A counter is the whole part of the number, and has 32 bits. -/
theorem uint32_ok {value : Option Json} {field : Text} {n : ℕ}
    (h : uint32 value field = .ok n) : n = ⌊numberOf value⌋.toNat ∧ n < 2 ^ 32 := by
  unfold uint32 at h
  cases hnumber : finiteNumber value field (some 0) (some 0xFFFFFFFF) with
  | error e =>
    rw [hnumber] at h
    cases h
  | ok m =>
    rw [hnumber] at h
    obtain ⟨hvalue, hwithin, -⟩ := finiteNumber_ok hnumber
    cases h
    rw [hvalue] at hwithin ⊢
    refine ⟨rfl, ?_⟩
    simp only [Option.all_some, Bool.and_eq_true, decide_eq_true_eq] at hwithin
    have hfloor : ⌊numberOf value⌋ ≤ 0xFFFFFFFF := Int.floor_le_iff.mpr (by
      push_cast
      linarith [hwithin.2])
    omega

/-- SOURCE: telemetry_parser.py:27-30 -/
theorem verdict_array (value : Option Json) (field : Text) (exact : Option ℕ) (maximum : ℕ) :
    verdict (array value field exact maximum) = arrayVerdict value exact maximum := by
  unfold array arrayVerdict
  match value with
  | none => rfl
  | some .null => rfl
  | some (.bool _) => rfl
  | some (.str _) => rfl
  | some (.obj _) => rfl
  | some (.float _) => rfl
  | some (.int _) => rfl
  | some (.arr items) =>
    dsimp only
    refine verdict_then (verdict_require _ _) fun _ _ => ?_
    rw [verdict, Checks.verdict_mapM]
    have hitems : (items.zipIdx.map fun item => Checks.verdict isRejection
        (finiteNumber (some item.1) (itemName field item.2) none none)) =
        (items.zipIdx.map Prod.fst).map fun item => numberVerdict (some item) none none := by
      rw [List.map_map]
      exact List.map_congr_left fun item _ => verdict_finiteNumber _ _ _ _
    rw [List.zipIdx_map_fst] at hitems
    exact congrArg first hitems

/-- An integer that was read has a finite float. -/
def HasFloat (n : Number) : Prop := ∀ z, n = .int z → ∃ q, Double.nearest z = .finite q

/-- What is read as an array is a list, and its numbers are those the items stand for. -/
theorem array_ok {value : Option Json} {field : Text} {exact : Option ℕ} {maximum : ℕ}
    {values : List Number} (h : array value field exact maximum = .ok values) :
    ∃ items, value = some (.arr items) ∧ exact.all (items.length == ·) = true ∧
      values.map Number.value = items.map (fun item => numberOf (some item)) ∧
      ∀ n ∈ values, HasFloat n := by
  unfold array at h
  match value with
  | none => cases h
  | some .null => cases h
  | some (.bool _) => cases h
  | some (.str _) => cases h
  | some (.obj _) => cases h
  | some (.float _) => cases h
  | some (.int _) => cases h
  | some (.arr items) =>
    dsimp only at h
    unfold require at h
    split at h
    swap
    · cases h
    rename_i hlength
    have hall := Checks.forall₂_of_mapM (f := fun (item : Json × ℕ) =>
      finiteNumber (some item.1) (itemName field item.2) none none) h
    refine ⟨items, rfl, (Bool.and_eq_true_iff.mp hlength).2, ?_, ?_⟩
    · have hvalues := Checks.map_eq_of_forall₂ hall (g := Number.value)
        (f := fun item => numberOf (some item.1)) fun item n hn => (finiteNumber_ok hn).1
      have hfst := congrArg (List.map fun item => numberOf (some item))
        (List.zipIdx_map_fst 0 items)
      rw [List.map_map] at hfst
      exact hvalues.trans hfst
    · exact Checks.forall_mem_of_forall₂ hall fun item n hn => (finiteNumber_ok hn).2.2

/-- SOURCE: telemetry_parser.py:55-57 -/
theorem verdict_boundedAxis (payload : Json) (name : Text) (maximum : ℚ) :
    verdict (boundedAxis payload name maximum) = axisVerdict (payload.get? name) maximum := by
  unfold boundedAxis axisVerdict
  refine verdict_then (verdict_array _ name _ _) fun values hvalues => ?_
  obtain ⟨items, hitems, hlength, hmap, -⟩ := array_ok hvalues
  rw [hitems]
  have hthree : items.length = 3 := by simpa using hlength
  obtain ⟨a, b, c, rfl⟩ := List.length_eq_three.mp hthree
  have hcount : values.length = 3 := by
    have hlengths := congrArg List.length hmap
    rwa [List.length_map, List.length_map] at hlengths
  obtain ⟨x, y, z, rfl⟩ := List.length_eq_three.mp hcount
  simp only [List.map_cons, List.map_nil, List.cons.injEq, and_true] at hmap
  obtain ⟨hx, hy, hz⟩ := hmap
  show _ = (demand (0 ≤ numberOf (some a) && numberOf (some a) ≤ maximum)).andThen
    ((demand (0 ≤ numberOf (some b) && numberOf (some b) ≤ maximum)).andThen
      ((demand (0 ≤ numberOf (some c) && numberOf (some c) ≤ maximum)).andThen accepts))
  rw [← hx, ← hy, ← hz]
  have hbounded (n : Number) (index : ℕ) : verdict (do
      require (0 ≤ n.value && n.value ≤ maximum)
        (.telemetry (itemName name index ++ " is outside the permitted range".toList))
      return n.value) = demand (0 ≤ n.value && n.value ≤ maximum) :=
    verdict_last (verdict_require _ _) fun _ _ => rfl
  refine verdict_then (hbounded x 0) fun _ _ => ?_
  refine verdict_then (hbounded y 1) fun _ _ => ?_
  exact verdict_then (hbounded z 2) fun _ _ => rfl

theorem verdict_lookupStr {α : Type} (value : Option Json) (names : List (Text × α)) :
    verdict (lookupStr value names) = hashVerdict value := by
  unfold lookupStr hashVerdict
  match value with
  | none => rfl
  | some .null => rfl
  | some (.bool _) => rfl
  | some (.str _) => rfl
  | some (.arr _) => rfl
  | some (.obj _) => rfl
  | some (.float _) => rfl
  | some (.int _) => rfl

theorem lookupStr_ok {α : Type} {value : Option Json} {names : List (Text × α)} {found : Option α}
    (h : lookupStr value names = .ok found) : found = named value names := by
  unfold lookupStr at h
  unfold named
  match value with
  | none => cases h; rfl
  | some .null => cases h; rfl
  | some (.bool _) => cases h; rfl
  | some (.str _) => cases h; rfl
  | some (.arr _) => cases h
  | some (.obj _) => cases h
  | some (.float _) => cases h; rfl
  | some (.int _) => cases h; rfl

/-! ## Vibration summaries -/

/-- The checks of a vibration summary, in their order.
SOURCE: telemetry_parser.py:60-92 -/
def vibrationChecks (payload : Json) : List Verdict :=
  [demand (hasExactly payload vibrationKeys),
    demand ((payload.get? "v".toList).isSome && Json.isInt (payload.get? "v".toList) 1 &&
      Json.isInt (payload.get? "a".toList) 1),
    hashVerdict (payload.get? "q".toList),
    demand (Json.isInt (payload.get? "q".toList) 0 || Json.isInt (payload.get? "q".toList) 1),
    numberVerdict (payload.get? "s".toList) (some 0) (some 0xFFFFFFFF),
    numberVerdict (payload.get? "m".toList) (some 0) (some 0xFFFFFFFF),
    numberVerdict (payload.get? "f".toList) (some 1) (some 5000),
    axisVerdict (payload.get? "r".toList) 16000,
    axisVerdict (payload.get? "p".toList) 16000,
    axisVerdict (payload.get? "c".toList) 1000,
    axisVerdict (payload.get? "k".toList) 10000,
    axisVerdict (payload.get? "d".toList) 2500,
    axisVerdict (payload.get? "x".toList) 16000,
    axisVerdict (payload.get? "g".toList) 20000,
    if 1 ≤ numberOf (payload.get? "s".toList) then accepts else escapes]

theorem verdict_parseVibration (payload : Json) (receivedAt : ℤ) :
    verdict (parseVibration payload receivedAt) = first (vibrationChecks payload) := by
  unfold parseVibration vibrationChecks
  simp only [first_cons, first_nil]
  refine verdict_then (verdict_require _ _) fun _ _ => ?_
  refine verdict_then (verdict_require _ _) fun _ _ => ?_
  refine verdict_then (verdict_lookupStr _ _) fun _ _ => ?_
  refine verdict_then (verdict_require _ _) fun _ _ => ?_
  refine verdict_then (verdict_uint32 _ _) fun windowSequence hsequence => ?_
  refine verdict_then (verdict_uint32 _ _) fun _ _ => ?_
  refine verdict_then (verdict_finiteNumber _ _ _ _) fun rate hrate => ?_
  refine verdict_then (verdict_boundedAxis _ _ _) fun _ _ => ?_
  refine verdict_then (verdict_boundedAxis _ _ _) fun _ _ => ?_
  refine verdict_then (verdict_boundedAxis _ _ _) fun _ _ => ?_
  refine verdict_then (verdict_boundedAxis _ _ _) fun _ _ => ?_
  refine verdict_then (verdict_boundedAxis _ _ _) fun _ _ => ?_
  refine verdict_then (verdict_boundedAxis _ _ _) fun _ _ => ?_
  refine verdict_then (verdict_boundedAxis _ _ _) fun _ _ => ?_
  rw [andThen_accepts]
  have hpositive : 1 ≤ windowSequence ↔ 1 ≤ numberOf (payload.get? "s".toList) := by
    rw [(uint32_ok hsequence).1]
    constructor
    · intro hle
      have hfloor : (1 : ℤ) ≤ ⌊numberOf (payload.get? "s".toList)⌋ := by omega
      exact_mod_cast Int.le_floor.mp hfloor
    · intro hle
      have hfloor : (1 : ℤ) ≤ ⌊numberOf (payload.get? "s".toList)⌋ :=
        Int.le_floor.mpr (by exact_mod_cast hle)
      omega
  have hbounds : 0 < rate.value / 10 ∧ rate.value / 10 ≤ 500 := by
    have hwithin := (finiteNumber_ok hrate).2.1
    simp only [Option.all_some, Bool.and_eq_true, decide_eq_true_eq] at hwithin
    constructor
    · linarith [hwithin.1]
    · linarith [hwithin.2]
  by_cases hle : 1 ≤ numberOf (payload.get? "s".toList)
  · have hsequence' := hpositive.mpr hle
    rw [if_pos hle]
    have hmodel : (decide (1 ≤ windowSequence) && decide (0 < rate.value / 10) &&
        decide (rate.value / 10 ≤ 500)) = true := by
      simp only [Bool.and_eq_true, decide_eq_true_eq]
      exact ⟨⟨hsequence', hbounds.1⟩, hbounds.2⟩
    have hnonzero : decide (windowSequence ≠ 0) = true := decide_eq_true (by omega)
    refine verdict_then (u := accepts) ?_ fun _ _ => ?_
    · rw [hmodel]
      rfl
    · refine verdict_last (u := accepts) ?_ fun _ _ => rfl
      rw [hnonzero]
      rfl
  · have hsequence' : ¬ 1 ≤ windowSequence := mt hpositive.mp hle
    rw [if_neg hle]
    unfold require
    rw [decide_eq_false hsequence']
    rfl

/-! ## Old packets -/

/-- The checks of an old packet, in their order.
SOURCE: telemetry_parser.py:95-151 -/
def legacyChecks (payload : Json) : List Verdict :=
  legacyMapping.map (fun entry => presentVerdict (work payload entry.1) none none) ++
  [listVerdict (axesOf payload "a".toList "accel".toList) (some 3) 16,
    listVerdict (axesOf payload "g".toList "gyro".toList) (some 3) 16,
    listVerdict ((payload.get? "n".toList).or (payload.get? "analog".toList)) none 16,
    presentVerdict (payload.get? "ms".toList) (some 0) (some 0xFFFFFFFF),
    presentVerdict (payload.get? "s".toList) (some 0) (some 0xFFFFFFFF),
    numberVerdict (some ((payload.get? "v".toList).getD (.int 1))) (some 1) (some 255),
    textVerdict (payload.get? "id".toList) 0 96 rejects]

theorem verdict_legacyChannels (payload : Json) : verdict (legacyChannels payload) =
    first (legacyMapping.map fun entry => presentVerdict (work payload entry.1) none none) := by
  unfold legacyChannels
  refine Checks.verdict_foldlM isRejection (fun channels entry => ?_) _ _
  obtain ⟨key, name, unit, valueKind, quality⟩ := entry
  dsimp only
  cases work payload key with
  | none => rfl
  | some found => exact verdict_last (verdict_finiteNumber _ _ _ _) fun _ _ => rfl

theorem verdict_assignAxes (payload : Json) (short long channel unit : Text)
    (channels : List (Text × ChannelValue)) :
    verdict (assignAxes payload short long channel unit channels) =
      listVerdict (axesOf payload short long) (some 3) 16 := by
  unfold assignAxes listVerdict
  dsimp only
  split
  · rfl
  · exact verdict_last (verdict_array _ _ _ _) fun _ _ => rfl

theorem verdict_assignAnalog (payload : Json) (channels : List (Text × ChannelValue)) :
    verdict (assignAnalog payload channels) =
      listVerdict ((payload.get? "n".toList).or (payload.get? "analog".toList)) none 16 := by
  unfold assignAnalog listVerdict
  dsimp only
  split
  · rfl
  · exact verdict_last (verdict_array _ _ _ _) fun _ _ => rfl

theorem verdict_optionalUint32 (payload : Json) (field : Text) :
    verdict (optionalUint32 payload field) =
      presentVerdict (payload.get? field) (some 0) (some 0xFFFFFFFF) := by
  unfold optionalUint32 presentVerdict
  cases payload.get? field with
  | none => rfl
  | some found =>
    dsimp only
    rw [verdict, Checks.verdict_map]
    exact verdict_uint32 _ _

theorem verdict_optionalText (value : Option Json) (minimum maximum : ℕ) (error : ParseError) :
    verdict (optionalText value minimum maximum error) =
      textVerdict value minimum maximum (verdict (.error error : Except ParseError Unit)) := by
  unfold optionalText textVerdict
  match value with
  | none => rfl
  | some .null => rfl
  | some (.bool _) => rfl
  | some (.arr _) => rfl
  | some (.obj _) => rfl
  | some (.float _) => rfl
  | some (.int _) => rfl
  | some (.str s) =>
    dsimp only
    split
    · rfl
    · rfl

theorem verdict_parseLegacy (payload : Json) (receivedAt : ℤ) :
    verdict (parseLegacy payload receivedAt) = first (legacyChecks payload) := by
  unfold parseLegacy legacyChecks
  rw [first_append]
  simp only [first_cons, first_nil]
  refine verdict_then (verdict_legacyChannels payload) fun _ _ => ?_
  refine verdict_then (verdict_assignAxes _ _ _ _ _ _) fun _ _ => ?_
  refine verdict_then (verdict_assignAxes _ _ _ _ _ _) fun _ _ => ?_
  refine verdict_then (verdict_assignAnalog _ _) fun _ _ => ?_
  refine verdict_then (verdict_optionalUint32 _ _) fun _ _ => ?_
  refine verdict_then (verdict_optionalUint32 _ _) fun _ _ => ?_
  refine verdict_then (verdict_finiteNumber _ _ _ _) fun _ _ => ?_
  exact verdict_then (verdict_optionalText _ _ _ _) fun _ _ => rfl

/-! ## Packets with a version -/

/-- The checks of the channel a packet names, in their order.
SOURCE: telemetry_parser.py:175-188 -/
def channelChecks (payload : Json) : List Verdict :=
  let kindName := if isNone (payload.get? "nv".toList) then "raw".toList else "calibrated".toList
  [if isNone (payload.get? "rv".toList) then accepts
    else numberVerdict (payload.get? "rv".toList) none none,
    if isNone (payload.get? "nv".toList) then accepts
    else numberVerdict (payload.get? "nv".toList) none none,
    keyVerdict (some ((payload.get? "q".toList).getD (.str "good".toList))) Quality.names,
    keyVerdict (some ((payload.get? "k".toList).getD (.str kindName))) ValueKind.names,
    textVerdict (payload.get? "u".toList) 0 32 escapes]

/-- The checks only a heartbeat has.
SOURCE: telemetry_parser.py:193-206 -/
def heartbeatChecks (payload : Json) : List Verdict :=
  presentVerdict (payload.get? "bv".toList) none none ::
    heartbeatCounters.map fun entry =>
      presentVerdict (payload.get? entry.1) (some 0) (some 0xFFFFFFFF)

/-- The checks of a packet with a version, in their order.
SOURCE: telemetry_parser.py:154-219 -/
def versionedChecks (payload : Json) : List Verdict :=
  [keyVerdict (payload.get? "t".toList) recordTypes,
    numberVerdict (payload.get? "v".toList) (some 1) (some 255),
    demand (⌊numberOf (payload.get? "v".toList)⌋ = 1),
    textVerdict (payload.get? "id".toList) 1 96 rejects,
    presentVerdict (payload.get? "ms".toList) (some 0) (some 0xFFFFFFFF),
    presentVerdict (payload.get? "s".toList) (some 0) (some 0xFFFFFFFF),
    textVerdict (payload.get? "c".toList) 1 96 rejects,
    if isNone (payload.get? "c".toList) then accepts else first (channelChecks payload),
    textVerdict (payload.get? "e".toList) 0 96 rejects,
    if named (payload.get? "t".toList) recordTypes = some .heartbeat then
      first (heartbeatChecks payload) else accepts]

theorem verdict_optionalNumber (value : Option Json) (field : Text) :
    verdict (optionalNumber value field) =
      if isNone value then accepts else numberVerdict value none none := by
  unfold optionalNumber
  split
  · rfl
  · rw [verdict, Checks.verdict_map]
    exact verdict_finiteNumber _ _ _ _

theorem optionalNumber_ok {value : Option Json} {field : Text} {found : Option Number}
    (h : optionalNumber value field = .ok found) : found.isSome = !isNone value := by
  unfold optionalNumber at h
  split at h
  · rename_i hnone
    cases h
    rw [hnone]
    rfl
  · rename_i hsome
    cases hnumber : finiteNumber value field none none with
    | error e =>
      rw [hnumber] at h
      cases h
    | ok n =>
      rw [hnumber] at h
      cases h
      rw [Bool.eq_false_iff.mpr hsome]
      rfl

theorem verdict_channelValue (payload : Json) :
    verdict (channelValue payload) = first (channelChecks payload) := by
  unfold channelValue channelChecks
  dsimp only
  simp only [first_cons, first_nil, keyVerdict, andThen_assoc]
  refine verdict_then (verdict_optionalNumber _ _) fun _ _ => ?_
  refine verdict_then (verdict_optionalNumber _ _) fun normalized hnormalized => ?_
  have hdefault : (if normalized.isSome = true then "calibrated".toList else "raw".toList) =
      if isNone (payload.get? "nv".toList) = true then "raw".toList else "calibrated".toList := by
    rw [optionalNumber_ok hnormalized]
    cases isNone (payload.get? "nv".toList) <;> rfl
  refine verdict_then (verdict_lookupStr _ _) fun quality hquality => ?_
  rw [← lookupStr_ok hquality]
  cases quality with
  | none => rfl
  | some quality =>
    dsimp only
    rw [hdefault, demand_isSome]
    refine verdict_then (verdict_lookupStr _ _) fun valueKind hvalueKind => ?_
    rw [← lookupStr_ok hvalueKind]
    cases valueKind with
    | none => rfl
    | some valueKind =>
      rw [demand_isSome]
      exact verdict_then (verdict_optionalText _ _ _ _) fun _ _ => rfl

/-- A channel is named exactly if something is there. -/
theorem optionalText_ok {value : Option Json} {minimum maximum : ℕ} {error : ParseError}
    {found : Option Text} (h : optionalText value minimum maximum error = .ok found) :
    found.isNone = isNone value := by
  unfold optionalText at h
  match value with
  | none => cases h; rfl
  | some .null => cases h; rfl
  | some (.bool _) => cases h
  | some (.arr _) => cases h
  | some (.obj _) => cases h
  | some (.float _) => cases h
  | some (.int _) => cases h
  | some (.str s) =>
    dsimp only at h
    split at h
    · cases h
      rfl
    · cases h

theorem verdict_versionedChannels (payload : Json) : verdict (versionedChannels payload) =
    (textVerdict (payload.get? "c".toList) 1 96 rejects).andThen
      (if isNone (payload.get? "c".toList) then accepts else first (channelChecks payload)) := by
  unfold versionedChannels
  refine verdict_then (verdict_optionalText _ _ _ _) fun channel hchannel => ?_
  rw [← optionalText_ok hchannel]
  cases channel with
  | none => rfl
  | some channel => exact verdict_last (verdict_channelValue payload) fun _ _ => rfl

theorem verdict_heartbeatChannels (recordType : Model.TelemetryRecordType) (payload : Json)
    (channels : List (Text × ChannelValue)) :
    verdict (heartbeatChannels recordType payload channels) =
      if recordType = .heartbeat then first (heartbeatChecks payload) else accepts := by
  unfold heartbeatChannels heartbeatChecks
  by_cases hheartbeat : recordType = .heartbeat
  · rw [if_pos hheartbeat, if_neg (not_not.mpr hheartbeat), first_cons]
    refine verdict_then ?_ fun channels _ => ?_
    · unfold assignBattery presentVerdict
      cases payload.get? "bv".toList with
      | none => rfl
      | some found => exact verdict_last (verdict_finiteNumber _ _ _ _) fun _ _ => rfl
    · refine Checks.verdict_foldlM isRejection (fun channels entry => ?_) _ _
      unfold presentVerdict
      dsimp only
      cases payload.get? entry.1 with
      | none => rfl
      | some found => exact verdict_last (verdict_uint32 _ _) fun _ _ => rfl
  · rw [if_neg hheartbeat, if_pos hheartbeat]
    rfl

theorem verdict_parseVersioned (payload : Json) (receivedAt : ℤ) :
    verdict (parseVersioned payload receivedAt) = first (versionedChecks payload) := by
  unfold parseVersioned versionedChecks
  simp only [first_cons, first_nil, keyVerdict, andThen_assoc]
  refine verdict_then (verdict_lookupStr _ _) fun kind hkind => ?_
  rw [← lookupStr_ok hkind]
  cases kind with
  | none => rfl
  | some recordType =>
    rw [demand_isSome]
    refine verdict_then (verdict_finiteNumber _ _ _ _) fun version hversion => ?_
    rw [← (finiteNumber_ok hversion).1]
    refine verdict_then (verdict_require _ _) fun _ _ => ?_
    refine verdict_then (verdict_optionalText _ _ _ _) fun _ _ => ?_
    refine verdict_then (verdict_optionalUint32 _ _) fun _ _ => ?_
    refine verdict_then (verdict_optionalUint32 _ _) fun _ _ => ?_
    rw [← andThen_assoc]
    refine verdict_then (verdict_versionedChannels _) fun _ _ => ?_
    refine verdict_then (verdict_optionalText _ _ _ _) fun _ _ => ?_
    refine verdict_then ((verdict_heartbeatChannels _ _ _).trans ?_) fun _ _ => rfl
    simp only [Option.some_inj]

/-! ## What is normalised -/

/-- The values of a channel are finite. -/
structure IsFiniteChannel (channel : ChannelValue) : Prop where
  value : ∀ n, channel.value = some n → HasFloat n
  rawValue : ∀ n, channel.rawValue = some n → HasFloat n

/-- All channels have finite values. -/
def AreFinite (channels : List (Text × ChannelValue)) : Prop :=
  ∀ channel ∈ channels, IsFiniteChannel channel.2

/-- A record as it should be: its channel values are finite, and its uptime and its sequence number
are integers of 32 bits. -/
structure IsNormalised (t : NormalizedTelemetry) : Prop where
  channels : AreFinite t.channels
  deviceUptimeMs : ∀ n, t.deviceUptimeMs = some n → n < 2 ^ 32
  sequenceNumber : ∀ n, t.sequenceNumber = some n → n < 2 ^ 32

theorem AreFinite.assign {channels : List (Text × ChannelValue)} (h : AreFinite channels)
    (name : Text) {channel : ChannelValue} (hchannel : IsFiniteChannel channel) :
    AreFinite (assign name channel channels) := by
  induction channels with
  | nil =>
    intro other hother
    obtain rfl := List.mem_singleton.mp hother
    exact hchannel
  | cons first rest ih =>
    have hrest : AreFinite rest := fun other hother => h other (List.mem_cons_of_mem _ hother)
    unfold Model.TelemetryParser.assign
    split
    · intro other hother
      rcases List.mem_cons.mp hother with rfl | hlater
      · exact hchannel
      · exact hrest other hlater
    · intro other hother
      rcases List.mem_cons.mp hother with rfl | hlater
      · exact h _ List.mem_cons_self
      · exact ih hrest other hlater

/-- Channels of finite numbers are assigned one after the other. -/
theorem AreFinite.foldl {α : Type} {channels : List (Text × ChannelValue)}
    (h : AreFinite channels) (name : α → Text) {channel : α → ChannelValue} {items : List α}
    (hitems : ∀ item ∈ items, IsFiniteChannel (channel item)) :
    AreFinite (items.foldl (fun channels item => Model.TelemetryParser.assign (name item)
      (channel item) channels) channels) := by
  induction items generalizing channels with
  | nil => exact h
  | cons item rest ih =>
    rw [List.foldl_cons]
    apply ih
    · exact h.assign _ (hitems item List.mem_cons_self)
    · exact fun other hother => hitems other (List.mem_cons_of_mem _ hother)

theorem isFiniteChannel_of_value {n : Number} (hn : HasFloat n) {channel : ChannelValue}
    (hvalue : channel.value = some n) (hraw : channel.rawValue = none ∨ channel.rawValue = some n) :
    IsFiniteChannel channel := by
  constructor
  · intro m hm
    rw [hvalue] at hm
    exact Option.some_inj.mp hm ▸ hn
  · intro m hm
    rcases hraw with hnone | hsome
    · rw [hnone] at hm
      cases hm
    · rw [hsome] at hm
      exact Option.some_inj.mp hm ▸ hn

theorem areFinite_legacyChannels {payload : Json} {channels : List (Text × ChannelValue)}
    (h : legacyChannels payload = .ok channels) : AreFinite channels := by
  unfold legacyChannels at h
  refine Checks.foldlM_invariant (P := AreFinite) (fun _ hmem => absurd hmem List.not_mem_nil) ?_ h
  rintro before ⟨key, name, unit, valueKind, quality⟩ after hbefore hstep
  dsimp only at hstep
  cases hwork : work payload key with
  | none =>
    rw [hwork] at hstep
    cases hstep
    exact hbefore
  | some found =>
    rw [hwork] at hstep
    obtain ⟨n, hn, hstep⟩ := Checks.exists_of_bind hstep
    cases hstep
    refine hbefore.assign _ (isFiniteChannel_of_value (finiteNumber_ok hn).2.2 rfl ?_)
    dsimp only
    split
    · exact .inr rfl
    · exact .inl rfl

theorem AreFinite.assignAxes {payload : Json} {short long channel unit : Text}
    {before after : List (Text × ChannelValue)} (h : AreFinite before)
    (hassign : assignAxes payload short long channel unit before = .ok after) :
    AreFinite after := by
  unfold Model.TelemetryParser.assignAxes at hassign
  dsimp only at hassign
  split at hassign
  · cases hassign
    exact h
  · obtain ⟨values, hvalues, hassign⟩ := Checks.exists_of_bind hassign
    obtain ⟨-, -, -, -, hfinite⟩ := array_ok hvalues
    cases hassign
    refine h.foldl (fun item : Char × Number => channel ++ [item.1]) fun item hitem => ?_
    exact isFiniteChannel_of_value (hfinite _ (List.of_mem_zip hitem).2) rfl (.inl rfl)

theorem AreFinite.assignAnalog {payload : Json} {before after : List (Text × ChannelValue)}
    (h : AreFinite before) (hassign : assignAnalog payload before = .ok after) :
    AreFinite after := by
  unfold Model.TelemetryParser.assignAnalog at hassign
  dsimp only at hassign
  split at hassign
  · cases hassign
    exact h
  · obtain ⟨values, hvalues, hassign⟩ := Checks.exists_of_bind hassign
    obtain ⟨-, -, -, -, hfinite⟩ := array_ok hvalues
    cases hassign
    refine h.foldl (fun item : Number × ℕ => "analog_".toList ++ Text.decimal item.2)
      fun item hitem => ?_
    exact isFiniteChannel_of_value (hfinite _ (List.fst_mem_of_mem_zipIdx hitem)) rfl (.inr rfl)

theorem optionalUint32_ok {payload : Json} {field : Text} {found : Option ℕ}
    (h : optionalUint32 payload field = .ok found) : ∀ n, found = some n → n < 2 ^ 32 := by
  unfold optionalUint32 at h
  cases hget : payload.get? field with
  | none =>
    rw [hget] at h
    cases h
    exact nofun
  | some value =>
    rw [hget] at h
    obtain ⟨m, hm, rfl⟩ := Checks.exists_of_map h
    intro n hn
    cases hn
    exact (uint32_ok hm).2

/-- SOURCE: telemetry_parser.py:95-151 -/
theorem isNormalised_parseLegacy {payload : Json} {receivedAt : ℤ} {t : NormalizedTelemetry}
    (h : parseLegacy payload receivedAt = .ok t) : IsNormalised t := by
  unfold parseLegacy at h
  obtain ⟨_, hlegacy, h⟩ := Checks.exists_of_bind h
  obtain ⟨_, haccel, h⟩ := Checks.exists_of_bind h
  obtain ⟨_, hgyro, h⟩ := Checks.exists_of_bind h
  obtain ⟨_, hanalog, h⟩ := Checks.exists_of_bind h
  obtain ⟨_, huptime, h⟩ := Checks.exists_of_bind h
  obtain ⟨_, hsequence, h⟩ := Checks.exists_of_bind h
  obtain ⟨_, _, h⟩ := Checks.exists_of_bind h
  obtain ⟨_, _, h⟩ := Checks.exists_of_bind h
  cases h
  have hchannels := (areFinite_legacyChannels hlegacy).assignAxes haccel
  exact ⟨(hchannels.assignAxes hgyro).assignAnalog hanalog, optionalUint32_ok huptime,
    optionalUint32_ok hsequence⟩

/-- SOURCE: telemetry_parser.py:60-92 -/
theorem isNormalised_parseVibration {payload : Json} {receivedAt : ℤ} {t : NormalizedTelemetry}
    (h : parseVibration payload receivedAt = .ok t) : IsNormalised t := by
  unfold parseVibration at h
  obtain ⟨_, _, h⟩ := Checks.exists_of_bind h
  obtain ⟨_, _, h⟩ := Checks.exists_of_bind h
  obtain ⟨_, _, h⟩ := Checks.exists_of_bind h
  obtain ⟨_, _, h⟩ := Checks.exists_of_bind h
  obtain ⟨windowSequence, hsequence, h⟩ := Checks.exists_of_bind h
  obtain ⟨deviceUptimeMs, huptime, h⟩ := Checks.exists_of_bind h
  obtain ⟨_, _, h⟩ := Checks.exists_of_bind h
  obtain ⟨_, _, h⟩ := Checks.exists_of_bind h
  obtain ⟨_, _, h⟩ := Checks.exists_of_bind h
  obtain ⟨_, _, h⟩ := Checks.exists_of_bind h
  obtain ⟨_, _, h⟩ := Checks.exists_of_bind h
  obtain ⟨_, _, h⟩ := Checks.exists_of_bind h
  obtain ⟨_, _, h⟩ := Checks.exists_of_bind h
  obtain ⟨_, _, h⟩ := Checks.exists_of_bind h
  obtain ⟨_, _, h⟩ := Checks.exists_of_bind h
  obtain ⟨_, _, h⟩ := Checks.exists_of_bind h
  cases h
  refine ⟨fun _ hmem => absurd hmem List.not_mem_nil, fun n hn => ?_, fun n hn => ?_⟩
  · cases hn
    exact (uint32_ok huptime).2
  · cases hn
    exact (uint32_ok hsequence).2

theorem optionalNumber_hasFloat {value : Option Json} {field : Text} {found : Option Number}
    (h : optionalNumber value field = .ok found) : ∀ n, found = some n → HasFloat n := by
  unfold optionalNumber at h
  split at h
  · cases h
    exact nofun
  · obtain ⟨m, hm, rfl⟩ := Checks.exists_of_map h
    intro n hn
    cases hn
    exact (finiteNumber_ok hm).2.2

theorem isFiniteChannel_channelValue {payload : Json} {channel : ChannelValue}
    (h : channelValue payload = .ok channel) : IsFiniteChannel channel := by
  unfold channelValue at h
  obtain ⟨rawValue, hraw, h⟩ := Checks.exists_of_bind h
  obtain ⟨normalized, hnormalized, h⟩ := Checks.exists_of_bind h
  obtain ⟨quality, _, h⟩ := Checks.exists_of_bind h
  cases quality with
  | none => cases h
  | some quality =>
    obtain ⟨valueKind, _, h⟩ := Checks.exists_of_bind h
    cases valueKind with
    | none => cases h
    | some valueKind =>
      obtain ⟨_, _, h⟩ := Checks.exists_of_bind h
      cases h
      refine ⟨fun n hn => ?_, optionalNumber_hasFloat hraw⟩
      rcases Option.or_eq_some_iff.mp hn with hfirst | ⟨-, hsecond⟩
      · exact optionalNumber_hasFloat hnormalized n hfirst
      · exact optionalNumber_hasFloat hraw n hsecond

theorem areFinite_versionedChannels {payload : Json} {channels : List (Text × ChannelValue)}
    (h : versionedChannels payload = .ok channels) : AreFinite channels := by
  unfold versionedChannels at h
  obtain ⟨channel, _, h⟩ := Checks.exists_of_bind h
  cases channel with
  | none =>
    cases h
    exact fun _ hmem => absurd hmem List.not_mem_nil
  | some channel =>
    obtain ⟨value, hvalue, h⟩ := Checks.exists_of_bind h
    cases h
    intro other hother
    obtain rfl := List.mem_singleton.mp hother
    exact isFiniteChannel_channelValue hvalue

/-- A counter of 32 bits has a finite float. -/
theorem hasFloat_counter {n : ℕ} (h : n < 2 ^ 32) : HasFloat (.int n) := by
  intro z hz
  cases hz
  apply Double.nearest_finite
  have hsmall : (n : ℚ) < 2 ^ 32 := by exact_mod_cast h
  have hlarge : (2 : ℚ) ^ 32 ≤ 2 ^ 1023 := pow_le_pow_right₀ (by norm_num) (by norm_num)
  rw [Int.cast_natCast, Nat.abs_cast]
  exact lt_of_lt_of_le hsmall hlarge

theorem AreFinite.heartbeatChannels {recordType : Model.TelemetryRecordType} {payload : Json}
    {before after : List (Text × ChannelValue)} (h : AreFinite before)
    (hread : heartbeatChannels recordType payload before = .ok after) : AreFinite after := by
  unfold Model.TelemetryParser.heartbeatChannels at hread
  split at hread
  · cases hread
    exact h
  · obtain ⟨middle, hbattery, hcounters⟩ := Checks.exists_of_bind hread
    have hmiddle : AreFinite middle := by
      unfold assignBattery at hbattery
      cases hget : payload.get? "bv".toList with
      | none =>
        rw [hget] at hbattery
        cases hbattery
        exact h
      | some found =>
        rw [hget] at hbattery
        obtain ⟨n, hn, hbattery⟩ := Checks.exists_of_bind hbattery
        cases hbattery
        exact h.assign _ (isFiniteChannel_of_value (finiteNumber_ok hn).2.2 rfl (.inl rfl))
    refine Checks.foldlM_invariant (P := AreFinite) hmiddle ?_ hcounters
    rintro channels ⟨shortName, channelName⟩ channels' hchannels hstep
    dsimp only at hstep
    cases hget : payload.get? shortName with
    | none =>
      rw [hget] at hstep
      cases hstep
      exact hchannels
    | some found =>
      rw [hget] at hstep
      obtain ⟨counter, hcounter, hstep⟩ := Checks.exists_of_bind hstep
      cases hstep
      exact hchannels.assign _
        (isFiniteChannel_of_value (hasFloat_counter (uint32_ok hcounter).2) rfl (.inl rfl))

/-- SOURCE: telemetry_parser.py:154-219 -/
theorem isNormalised_parseVersioned {payload : Json} {receivedAt : ℤ} {t : NormalizedTelemetry}
    (h : parseVersioned payload receivedAt = .ok t) : IsNormalised t := by
  unfold parseVersioned at h
  obtain ⟨kind, _, h⟩ := Checks.exists_of_bind h
  cases kind with
  | none => cases h
  | some recordType =>
    obtain ⟨_, _, h⟩ := Checks.exists_of_bind h
    obtain ⟨_, _, h⟩ := Checks.exists_of_bind h
    obtain ⟨_, _, h⟩ := Checks.exists_of_bind h
    obtain ⟨_, huptime, h⟩ := Checks.exists_of_bind h
    obtain ⟨_, hsequence, h⟩ := Checks.exists_of_bind h
    obtain ⟨_, hchannels, h⟩ := Checks.exists_of_bind h
    obtain ⟨_, _, h⟩ := Checks.exists_of_bind h
    obtain ⟨_, hheartbeat, h⟩ := Checks.exists_of_bind h
    cases h
    exact ⟨(areFinite_versionedChannels hchannels).heartbeatChannels hheartbeat,
      optionalUint32_ok huptime, optionalUint32_ok hsequence⟩

/-! ## Packets -/

/-- The kind of a packet.
SOURCE: telemetry_parser.py:47 -/
def kindOf (payload : Json) : Option Json :=
  if truthy (payload.get? "t".toList) then payload.get? "t".toList else payload.get? "type".toList

/-- The checks of a packet of each kind.
SOURCE: telemetry_parser.py:47-52 -/
def payloadVerdict (payload : Json) : Verdict :=
  (hashVerdict (kindOf payload)).andThen
    (if (named (kindOf payload) legacyKinds).isSome then first (legacyChecks payload)
    else if Json.isStr (kindOf payload) "v".toList then first (vibrationChecks payload)
    else first (versionedChecks payload))

/-- SOURCE: telemetry_parser.py:47-52 -/
theorem parsePayload_eq (payload : Json) (receivedAt : ℤ) :
    parsePayload payload receivedAt = lookupStr (kindOf payload) legacyKinds >>= fun legacy =>
      if legacy.isSome then parseLegacy payload receivedAt
      else if Json.isStr (kindOf payload) "v".toList then parseVibration payload receivedAt
      else parseVersioned payload receivedAt := rfl

theorem verdict_parsePayload (payload : Json) (receivedAt : ℤ) :
    verdict (parsePayload payload receivedAt) = payloadVerdict payload := by
  rw [parsePayload_eq]
  unfold payloadVerdict
  refine verdict_then (verdict_lookupStr _ _) fun legacy hlegacy => ?_
  rw [← lookupStr_ok hlegacy]
  split
  · exact verdict_parseLegacy _ _
  · split
    · exact verdict_parseVibration _ _
    · exact verdict_parseVersioned _ _

theorem isNormalised_parsePayload {payload : Json} {receivedAt : ℤ} {t : NormalizedTelemetry}
    (h : parsePayload payload receivedAt = .ok t) : IsNormalised t := by
  rw [parsePayload_eq] at h
  obtain ⟨legacy, _, h⟩ := Checks.exists_of_bind h
  split at h
  · exact isNormalised_parseLegacy h
  · split at h
    · exact isNormalised_parseVibration h
    · exact isNormalised_parseVersioned h

/-! ## Bytes -/

/-- A result that is a record as it should be, or a `TelemetryParseError`. -/
def NormalisesOrRejects : Except ParseError NormalizedTelemetry → Prop
  | .ok t => IsNormalised t
  | .error e => isRejection e = true

/-- The JSON value of the bytes.
SOURCE: telemetry_parser.py:40-41 -/
def decoded (data : List UInt8) : Option Json :=
  (Text.decodeUtf8 data).bind fun text =>
    Json.loads ((text.dropWhile isPadding).rdropWhile isPadding)

/-- If the bytes are a JSON object and not too many, the first of its fields, in the order in which
they are read, that is not accepted is one that is rejected. -/
def IsCleanPacket (data : List UInt8) (maxPayloadBytes : ℕ) : Prop :=
  data.length ≤ maxPayloadBytes → ∀ members, decoded data = some (.obj members) →
    payloadVerdict (.obj members) ≠ escapes

theorem normalisesOrRejects_iff {x : Except ParseError NormalizedTelemetry}
    (h : ∀ t, x = .ok t → IsNormalised t) : NormalisesOrRejects x ↔ verdict x ≠ escapes := by
  cases x with
  | ok t => exact ⟨fun _ => nofun, fun _ => h t rfl⟩
  | error e =>
    show isRejection e = true ↔ (if isRejection e then rejects else escapes) ≠ escapes
    cases isRejection e <;> decide

/-- An object whose `t` is an object. -/
def nestedKindFields : List Json.Field :=
  [Json.Field.object "t".toList [Json.Field.natural "a".toList 1]]

/-- The bytes of an object whose `t` is an object. -/
def nestedKind : List UInt8 := [123, 34, 116, 34, 58, 123, 34, 97, 34, 58, 49, 125, 125]

end CleanRejections

end SeedMg24.Analysis
