import Chip8.Rounding
import Chip8.Text.Numeral

/-!
# Fixed places

A binary64 number written with one decimal place.  The number is taken exactly, from its bits, and rounded once; a tie
goes to the even digit.
-/

namespace Chip8.Text

/-- The fields of the bits of a binary64 number: sign, exponent and fraction. -/
def binary64Fields (bits : Nat) : Nat × Nat × Nat :=
  (bits >>> 63, (bits >>> 52) % 2048, bits % (1 <<< 52))

/-- The magnitude of a finite binary64 number with the given exponent and fraction, in units of the least one. -/
def magnitude (exponent fraction : Nat) : Nat :=
  if exponent = 0 then fraction else ((1 <<< 52) + fraction) <<< (exponent - 1)

/-- The numeral of a number of tenths, with one decimal place. -/
def tenths (n : Nat) : String := decimal (n / 10) ++ "." ++ decimal (n % 10)

/-- The number with one decimal place; the numbers that are not finite have names. -/
def oneDecimal (x : Float) : String :=
  let (sign, exponent, fraction) := binary64Fields x.toBits.toNat
  let mark := if sign = 1 then "-" else ""
  if exponent = 2047 then
    if fraction = 0 then mark ++ "inf" else "nan"
  else mark ++ tenths (roundDiv (magnitude exponent fraction * 10) (1 <<< 1074))

end Chip8.Text
