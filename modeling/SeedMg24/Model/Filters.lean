import SeedMg24.Foundation.Literals
import SeedMg24.Model.Node

/-!
# The filters of the firmware

`NumericFilter` and `DigitalDebounceFilter` of `filters.cpp`.  Numbers are taken exactly: a `float`
is an element of an ordered field.  What the two constructors and `configure` see to is a field of
the filters.
-/

set_option autoImplicit false

namespace SeedMg24.Model

/-! ## Numeric filters -/

/-- SOURCE: filters.h:13-22 -/
structure NumericFilter (F : Type) where
  filterType : UInt8
  window : ℕ
  count : ℕ
  index : ℕ
  alpha : F
  values : List F
  ema : F
  initialized : Bool
  window_le : window ≤ MAX_FILTER_WINDOW
  count_le : count ≤ window
  index_lt : index < window
  length_values : values.length = MAX_FILTER_WINDOW

namespace NumericFilter

attribute [local instance] Foundation.atLeastTwo_two

variable {F : Type}

/-- The window a filter is configured to have.
SOURCE: filters.cpp:9 -/
def clampWindow (window : UInt8) : ℕ :=
  if window < 1 then 1
  else if window.toNat > MAX_FILTER_WINDOW then MAX_FILTER_WINDOW else window.toNat

theorem clampWindow_eq (window : UInt8) :
    clampWindow window = max 1 (min window.toNat MAX_FILTER_WINDOW) := by
  have hsmall : window < 1 ↔ window.toNat < 1 := UInt8.lt_iff_toNat_lt
  unfold clampWindow
  rw [MAX_FILTER_WINDOW]
  by_cases hzero : window < 1
  · rw [if_pos hzero]
    have hwindow := hsmall.mp hzero
    omega
  · rw [if_neg hzero]
    have hwindow : ¬ window.toNat < 1 := fun h => hzero (hsmall.mpr h)
    split
    · omega
    · omega

theorem clampWindow_pos (window : UInt8) : 0 < clampWindow window := by
  rw [clampWindow_eq]
  omega

theorem clampWindow_le (window : UInt8) : clampWindow window ≤ MAX_FILTER_WINDOW := by
  rw [clampWindow_eq, MAX_FILTER_WINDOW]
  omega

/-- SOURCE: filters.cpp:14-17 -/
def reset [Zero F] (f : NumericFilter F) : NumericFilter F := { f with
  count := 0
  index := 0
  ema := 0
  initialized := false
  values := List.replicate MAX_FILTER_WINDOW 0
  count_le := Nat.zero_le _
  index_lt := Nat.zero_lt_of_lt f.index_lt
  length_values := List.length_replicate }

/-- SOURCE: filters.cpp:7-12 -/
def configure [Zero F] [One F] [LinearOrder F] (f : NumericFilter F) (filterType window : UInt8)
    (emaAlpha : F) : NumericFilter F :=
  reset { f with
    filterType := filterType
    window := clampWindow window
    alpha := if emaAlpha < 0 then 0 else if 1 < emaAlpha then 1 else emaAlpha
    count := 0
    index := 0
    window_le := clampWindow_le window
    count_le := Nat.zero_le _
    index_lt := clampWindow_pos window }

/-- A value goes into the ring.
SOURCE: filters.cpp:25 -/
def store (f : NumericFilter F) (value : F) : NumericFilter F := { f with
  values := f.values.set f.index value
  index := (f.index + 1) % f.window
  count := if f.count < f.window then f.count + 1 else f.count
  count_le := by
    have hcount := f.count_le
    split <;> omega
  index_lt := Nat.mod_lt _ (Nat.zero_lt_of_lt f.index_lt)
  length_values := by rw [List.length_set, f.length_values] }

section Sorting

variable [Zero F] [LinearOrder F]

/-- The inner loop: larger values move up by one, from `work[j]` downwards.  The argument is `j + 1`,
which `j` ends one below of; what is left is the cell that is free.
SOURCE: filters.cpp:29 -/
def shiftUp (current : F) : ℕ → List F → List F × ℕ
  | 0, work => (work, 0)
  | j + 1, work =>
    if current < work.getD j 0 then shiftUp current j (work.set (j + 1) (work.getD j 0))
    else (work, j + 1)

/-- One turn of the outer loop. -/
def insertAt (work : List F) (i : ℕ) : List F :=
  let current := work.getD i 0
  let (work, free) := shiftUp current i work
  work.set free current

/-- The values in `work`, sorted in place: `i` counts from 1 on.
SOURCE: filters.cpp:29 -/
def sortWork (work : List F) : List F :=
  (List.range' 1 (work.length - 1)).foldl insertAt work

end Sorting

variable [Field F] [LinearOrder F]

/-- The value after an update, and the filter.  Of `work` only the first `count_` cells are used.
SOURCE: filters.cpp:19-31 -/
def update (f : NumericFilter F) (value : F) : F × NumericFilter F :=
  if f.filterType = FilterType.none then (value, f)
  else if f.filterType = FilterType.exponential then
    let ema := if f.initialized then f.alpha * value + (1 - f.alpha) * f.ema else value
    (ema, { f with ema := ema, initialized := true })
  else
    let f := f.store value
    let work := f.values.take f.count
    let sum := work.foldl (· + ·) 0
    if f.filterType = FilterType.movingAverage then (sum / f.count, f)
    else
      let work := sortWork work
      if f.count % 2 ≠ 0 then (work.getD (f.count / 2) 0, f)
      else ((work.getD (f.count / 2 - 1) 0 + work.getD (f.count / 2) 0) * (1 / 2), f)

/-- What is done to a filter after it was configured. -/
inductive Call (F : Type) where
  | update (value : F)
  | reset

/-- The filter after a call. -/
def after (f : NumericFilter F) : Call F → NumericFilter F
  | .update value => (f.update value).2
  | .reset => f.reset

end NumericFilter

/-! ## Digital filters -/

/-- SOURCE: filters.h:32-36 -/
structure DigitalDebounceFilter where
  required : ℕ
  count : ℕ
  candidate : Bool
  output : Bool
  required_pos : 0 < required

namespace DigitalDebounceFilter

/-- SOURCE: filters.cpp:34 -/
def configure (f : DigitalDebounceFilter) (requiredSamples : UInt8) : DigitalDebounceFilter := { f with
  required := if requiredSamples < 1 then 1 else requiredSamples.toNat
  count := 0
  required_pos := by
    split
    · exact Nat.one_pos
    · rename_i h
      rw [UInt8.lt_iff_toNat_lt] at h
      simpa [Nat.pos_iff_ne_zero] using h }

/-- SOURCE: filters.cpp:35 -/
def reset (f : DigitalDebounceFilter) (initial : Bool) : DigitalDebounceFilter :=
  { f with output := initial, candidate := initial, count := 0 }

/-- The filter after a sample, the output being what `update` returns.
SOURCE: filters.cpp:36-41 -/
def update (f : DigitalDebounceFilter) (value : Bool) : Bool × DigitalDebounceFilter :=
  if value = f.output then (f.output, { f with candidate := value, count := 0 })
  else
    let f :=
      if value ≠ f.candidate then { f with candidate := value, count := 1 }
      else if f.count < f.required then { f with count := f.count + 1 }
      else f
    let f := if f.count ≥ f.required then { f with output := f.candidate, count := 0 } else f
    (f.output, f)

end DigitalDebounceFilter

end SeedMg24.Model
