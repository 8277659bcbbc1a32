/-!
# Numerals

Natural numbers written in a positional base, and hexadecimal numerals padded with zeros.

* `digits` lists the digits of a number, the most significant first, without leading zeros;
* `hex width n` is the upper-case hexadecimal numeral of `n`, with at least `width` digits;
* `hexLower width n` is the same in lower case;
* `decimal n` is the decimal numeral of `n`.
-/

namespace Chip8.Text

/-- The digits of `n` in the given base, most significant first.  A base below two has no positional numerals;
there `n` stands as a single digit. -/
def digits (base n : Nat) : List Nat :=
  if _h : 2 ≤ base ∧ base ≤ n then digits base (n / base) ++ [n % base] else [n]
termination_by n
decreasing_by exact Nat.div_lt_self (by omega) (by omega)

/-- The character of a digit below thirty-six: `0` to `9`, then the capital letters. -/
def digitChar (d : Nat) : Char :=
  if d < 10 then Char.ofNat (48 + d) else Char.ofNat (55 + d)

/-- A list filled up with zeros on the left to the given length; a longer list stays as it is. -/
def padZeros (width : Nat) (l : List Char) : List Char :=
  List.replicate (width - l.length) '0' ++ l

/-- The upper-case hexadecimal numeral of `n`, padded with zeros to at least `width` digits. -/
def hex (width n : Nat) : String :=
  String.ofList (padZeros width ((digits 16 n).map digitChar))

/-- The lower-case hexadecimal numeral of `n`, padded with zeros to at least `width` digits. -/
def hexLower (width n : Nat) : String :=
  String.ofList (padZeros width ((digits 16 n).map fun d => (digitChar d).toLower))

/-- The decimal numeral of `n`. -/
def decimal (n : Nat) : String :=
  String.ofList ((digits 10 n).map digitChar)

/-- The decimal numeral of an integer, with a minus sign in front of a negative one. -/
def decimalInt (n : Int) : String :=
  if n < 0 then "-" ++ decimal n.natAbs else decimal n.natAbs

/-- Does an integer fit into sixty-four bits with a sign? -/
def fitsLong (value : Int) : Bool := -0x8000000000000000 ≤ value && value ≤ 0x7FFFFFFFFFFFFFFF

/-- The complaint about an integer that does not fit into words of the named kind, which are shorter than sixty-four
bits. -/
def misfit (value : Int) (kind : String) : String :=
  if fitsLong value then "Python integer " ++ decimalInt value ++ " out of bounds for " ++ kind
  else "Python int too large to convert to C long"

end Chip8.Text
