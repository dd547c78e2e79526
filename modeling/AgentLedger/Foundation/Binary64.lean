import Mathlib.Algebra.Order.Archimedean.Basic
import Mathlib.Data.Int.Log
import Mathlib.Data.Rat.Floor

namespace Foundation

namespace Binary64

/-! Rounding to the numbers of the binary64 format, taken as rationals. -/

/-- The nearest integer, of two equally near ones the even one. -/
def roundEven (value : Rat) : Int :=
  let below := ⌊value⌋
  if value - below < 1 / 2 then below
  else if 1 / 2 < value - below then below + 1
  else if below % 2 = 0 then below
  else below + 1

/-- The exponent of the last of the 53 bits of a number of this size. -/
def lastBit (value : Rat) : Int :=
  max (Int.log 2 |value| - 52) (-1074)

/-- Overflow is `none`. -/
def nearest (value : Rat) : Option Rat :=
  let unit := (2 : Rat) ^ lastBit value
  let rounded := roundEven (value / unit) * unit
  if |rounded| < 2 ^ 1024 then some rounded else none

end Binary64

end Foundation
