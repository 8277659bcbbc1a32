import Chip8.Text.Numeral
import Chip8.Text.Unprintable

/-!
# Quoted text

Text between quotation marks, as messages show names.  The marks are single ones, unless the text holds a single mark
and no double one.  A backslash, the mark itself and characters that do not show up in print are escaped.
-/

namespace Chip8.Text

/-- Does a character show up in print? -/
def isPrintable (c : Char) : Bool :=
  if c.toNat < 127 then 32 ≤ c.toNat else unprintable.all fun (low, high) => c.toNat < low || high < c.toNat

/-- The code of a character that does not show up in print. -/
def escapeCode (c : Char) : String :=
  if c.toNat < 0x100 then "\\x" ++ hexLower 2 c.toNat
  else if c.toNat < 0x10000 then "\\u" ++ hexLower 4 c.toNat
  else "\\U" ++ hexLower 8 c.toNat

/-- A character between quotation marks of the given kind. -/
def escaped (mark c : Char) : String :=
  if c = '\\' ∨ c = mark then String.ofList ['\\', c]
  else if c = '\n' then "\\n"
  else if c = '\r' then "\\r"
  else if c = '\t' then "\\t"
  else if isPrintable c then String.singleton c
  else escapeCode c

/-- The text between quotation marks. -/
def quoted (text : String) : String :=
  let chars := text.toList
  let mark := if chars.contains '\'' && !chars.contains '"' then '"' else '\''
  String.singleton mark ++ String.join (chars.map (escaped mark)) ++ String.singleton mark

end Chip8.Text
