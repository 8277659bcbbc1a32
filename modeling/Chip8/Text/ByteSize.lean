import Chip8.Text.Fixed

/-!
# Amounts of memory

The text of an amount of memory, as in `1.82 TiB`: three significant digits in the largest unit of which it has at
least one.  The units are 1024 of the one before.  A number of four digits keeps them all, and a number without decimal
places keeps its point.  The amount is taken as a binary64 number, so that it is rounded twice.
-/

namespace Chip8.Text

/-- The name of a unit of memory, by its rank. -/
def byteUnit (rank : Nat) : String := ["bytes", "KiB", "MiB", "GiB", "TiB", "PiB", "EiB"].getD rank "EiB"

/-- The numeral of a number of hundredths, with two decimal places. -/
def hundredths (n : Nat) : String := tenths (n / 10) ++ decimal (n % 10)

/-- The quotient `n / d` with three significant digits, or with all digits of its whole part if those are more. -/
def significant (n d : Nat) : String :=
  if roundDiv (n * 100) d < 1000 then hundredths (roundDiv (n * 100) d)
  else if roundDiv (n * 10) d < 1000 then tenths (roundDiv (n * 10) d)
  else decimal (roundDiv n d) ++ "."

/-- The rank of the unit in which an amount of memory is given: the next one if the amount would be rounded to 1024. -/
def unitRank (bytes : Nat) : Nat :=
  let rank := bytes.log2 / 10
  if roundDiv bytes (1 <<< (10 * rank)) = 1024 then rank + 1 else rank

/-- The text of an amount of memory, below 1024 of the largest unit. -/
def byteSize (amount : Nat) : String :=
  let bytes := (nearestBinary64 amount 1).round
  let rank := unitRank bytes
  let number := if rank = 0 then decimal bytes else significant bytes (1 <<< (10 * rank))
  number ++ " " ++ byteUnit rank

end Chip8.Text
