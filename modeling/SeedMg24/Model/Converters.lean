import Mathlib.Algebra.Order.Field.Basic
import Mathlib.Data.List.MinMax
import SeedMg24.Foundation.Bisection
import SeedMg24.Foundation.Text

/-!
# Conversions of sensor profiles

`ConversionDefinition` of `profiles/models.py` and `convert_value` of `profiles/converters.py`.
Numbers are taken exactly: a `float` that is finite is an element of an ordered field.
-/

set_option autoImplicit false

namespace SeedMg24.Model.Converters

open Foundation

/-- SOURCE: profiles/models.py:65 -/
inductive ConversionType where
  | unconfigured
  | identity
  | linear
  | piecewiseLinear
  | polynomial
  | lookupTable
deriving DecidableEq, Repr

def ConversionType.name : ConversionType → Text
  | .unconfigured => "unconfigured".toList
  | .identity => "identity".toList
  | .linear => "linear".toList
  | .piecewiseLinear => "piecewise_linear".toList
  | .polynomial => "polynomial".toList
  | .lookupTable => "lookup_table".toList

/-- SOURCE: profiles/models.py:64-69 -/
structure ConversionDefinition (F : Type) where
  type : ConversionType
  gain : Option F := none
  offset : Option F := none
  coefficients : Option (List F) := none
  points : Option (List (F × F)) := none
deriving DecidableEq

/-- What a conversion raises: a `TypeError` of a parameter that is `None`, an `IndexError`, a
`ZeroDivisionError`, or a `ValueError` of an empty sequence. -/
inductive ConversionFailure where
  | type
  | index
  | zeroDivision
  | value
deriving DecidableEq, Repr

variable {F : Type}

section Validation

variable [LinearOrder F]

/-- Whether the inputs of neighbouring points increase. -/
def strictlyIncreasing (points : List (F × F)) : Bool :=
  (points.zip points.tail).all fun (left, right) => left.1 < right.1

/-- SOURCE: profiles/models.py:71-86 -/
def validateParameters (c : ConversionDefinition F) : Except Text Unit :=
  if c.type = .linear ∧ (c.gain = none ∨ c.offset = none) then
    throw "linear conversion requires gain and offset".toList
  else if c.type = .polynomial ∧
      ((c.coefficients.getD []).isEmpty ∨ 6 < (c.coefficients.getD []).length) then
    throw "polynomial conversion requires one to six coefficients".toList
  else if (c.type = .piecewiseLinear ∨ c.type = .lookupTable) ∧ (c.points.getD []).length < 2 then
    throw (c.type.name ++ " conversion requires at least two points".toList)
  else if (c.type = .piecewiseLinear ∨ c.type = .lookupTable) ∧
      !strictlyIncreasing (c.points.getD []) then
    throw "conversion point inputs must be strictly increasing".toList
  else if (c.type = .unconfigured ∨ c.type = .identity) ∧
      (c.gain.isSome ∨ c.offset.isSome ∨ c.coefficients.isSome ∨ c.points.isSome) then
    throw (c.type.name ++ " conversion does not accept parameters".toList)
  else return ()

variable [Field F]

/-- SOURCE: profiles/models.py:6 -/
def finiteFloat (x : F) : Bool := -(10 : F) ^ 12 ≤ x && x ≤ (10 : F) ^ 12

/-- The bounds of the fields.
SOURCE: profiles/models.py:66-69 -/
def fieldsInBounds (c : ConversionDefinition F) : Bool :=
  c.gain.all finiteFloat && c.offset.all finiteFloat &&
  c.coefficients.all (fun coefficients => coefficients.all finiteFloat && coefficients.length ≤ 6) &&
  c.points.all (fun points =>
    points.all (fun point => finiteFloat point.1 && finiteFloat point.2) && points.length ≤ 32)

/-- What a definition is made of is accepted: the fields, and then the parameters together. -/
def accepts (c : ConversionDefinition F) : Bool :=
  fieldsInBounds c && (validateParameters c).isOk

end Validation

variable [Field F] [LinearOrder F]

/-- `/`, which raises for zero. -/
def divide (x y : F) : Except ConversionFailure F :=
  if y = 0 then .error .zeroDivision else .ok (x / y)

/-- A parameter that is read. -/
def required {α : Type} (parameter : Option α) : Except ConversionFailure α :=
  match parameter with
  | none => .error .type
  | some value => .ok value

/-- `points[index]`. -/
def pointAt (points : List (F × F)) (index : ℕ) : Except ConversionFailure (F × F) :=
  match points[index]? with
  | none => .error .index
  | some point => .ok point

/-- The segment of a value, clamped to the first and the last.
SOURCE: profiles/converters.py:22 -/
def segmentIndex (points : List (F × F)) (value : F) : ℕ :=
  letI : Inhabited F := ⟨0⟩
  (max 0 (min ((bisectRight (points.map Prod.fst) value : ℤ) - 1) ((points.length : ℤ) - 2))).toNat

/-- The first of the points that are nearest to a value.
SOURCE: profiles/converters.py:25 -/
def nearestPoint (points : List (F × F)) (value : F) : Except ConversionFailure (F × F) :=
  match points.argmin fun point => |point.1 - value| with
  | none => .error .value
  | some point => .ok point

/-- SOURCE: profiles/converters.py:11-28 -/
def convertValue (value : F) (conversion : ConversionDefinition F) :
    Except ConversionFailure (Option F) := do
  match conversion.type with
  | .unconfigured => return none
  | .identity => return some value
  | .linear =>
    let gain ← required conversion.gain
    let offset ← required conversion.offset
    return some (value * gain + offset)
  | .polynomial =>
    let coefficients ← required conversion.coefficients
    return some ((coefficients.zipIdx.map fun (coefficient, degree) => coefficient * value ^ degree).foldl
      (· + ·) 0)
  | .piecewiseLinear | .lookupTable =>
    let points ← required conversion.points
    let index := segmentIndex points value
    let left ← pointAt points index
    let right ← pointAt points (index + 1)
    if conversion.type = .lookupTable then
      let point ← nearestPoint points value
      return some point.2
    let fraction ← divide (value - left.1) (right.1 - left.1)
    return some (left.2 + fraction * (right.2 - left.2))

end SeedMg24.Model.Converters
