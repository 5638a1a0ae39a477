import SeedMg24.Foundation.SingleRounding

/-!
# Arithmetic of 64-bit floats

Sums, products and quotients of 64-bit floats, each rounded, and the way from 32-bit floats and back.
Of a zero the sign is not kept.
-/

set_option autoImplicit false

namespace Foundation

namespace Double

def zero : Double := finite 0

/-- A 32-bit float as one of 64 bits. -/
def ofSingle : Single → Double
  | .nan => nan
  | .infinite negative => infinite negative
  | .finite negative mantissa exponent => finite (Single.finite negative mantissa exponent).value

/-- The 32-bit float nearest to one of 64 bits. -/
def toSingle : Double → Single
  | nan => .nan
  | infinite negative => .infinite negative
  | finite q => .nearest q

def neg : Double → Double
  | nan => nan
  | infinite negative => infinite !negative
  | finite q => finite (-q)

def add : Double → Double → Double
  | nan, _ => nan
  | _, nan => nan
  | infinite a, infinite b => if a = b then infinite a else nan
  | infinite a, finite _ => infinite a
  | finite _, infinite b => infinite b
  | finite p, finite q => nearest (p + q)

def sub (x y : Double) : Double := x.add y.neg

def mul : Double → Double → Double
  | nan, _ => nan
  | _, nan => nan
  | infinite a, infinite b => infinite (a != b)
  | infinite a, finite q => if q = 0 then nan else infinite (a != decide (q < 0))
  | finite p, infinite b => if p = 0 then nan else infinite (decide (p < 0) != b)
  | finite p, finite q => nearest (p * q)

def div : Double → Double → Double
  | nan, _ => nan
  | _, nan => nan
  | infinite _, infinite _ => nan
  | infinite a, finite q => infinite (a != decide (q < 0))
  | finite _, infinite _ => zero
  | finite p, finite q =>
    if q = 0 then (if p = 0 then nan else infinite (p < 0)) else nearest (p / q)

/-- Whether a float is less than another one. -/
def lt : Double → Double → Bool
  | nan, _ => false
  | _, nan => false
  | infinite a, infinite b => a && !b
  | infinite a, finite _ => a
  | finite _, infinite b => !b
  | finite p, finite q => p < q

end Double

end Foundation
