import Mathlib.Data.Nat.Cast.Defs

/-!
# Numerals

That a numeral is none of the first two is what its value in a field rests on.  These facts have
names, so that definitions in different modules rest on the same ones.
-/

set_option autoImplicit false

namespace Foundation

theorem atLeastTwo_two : Nat.AtLeastTwo 2 := inferInstance
theorem atLeastTwo_five : Nat.AtLeastTwo 5 := inferInstance
theorem atLeastTwo_eight : Nat.AtLeastTwo 8 := inferInstance
theorem atLeastTwo_ten : Nat.AtLeastTwo 10 := inferInstance
theorem atLeastTwo_sixteen : Nat.AtLeastTwo 16 := inferInstance
theorem atLeastTwo_hundred : Nat.AtLeastTwo 100 := inferInstance
theorem atLeastTwo_thousand : Nat.AtLeastTwo 1000 := inferInstance
theorem atLeastTwo_twoThousand : Nat.AtLeastTwo 2000 := inferInstance
theorem atLeastTwo_fullScale : Nat.AtLeastTwo 32768 := inferInstance
theorem atLeastTwo_million : Nat.AtLeastTwo 1000000 := inferInstance

end Foundation
