import Chip8.Instruction.Decode
import Chip8.Text.Numeral

/-!
# Listings

The text of an instruction, as in `SetVal x=V3 val=0x0F`, and of a program, one line per word.  Addresses have at
least three hexadecimal digits, immediate bytes two, registers one after a `V`; the height of a sprite is decimal.
-/

namespace Chip8

open Text (hex decimal)

/-- The text of an operand: its label and its value. -/
def Operand.text (o : Operand) : String :=
  o.label ++ "=" ++ match o with
    | .address n => "0x" ++ hex 3 n
    | .immediate n => "0x" ++ hex 2 n
    | .regX n | .regY n => "V" ++ hex 1 n
    | .height n => decimal n

/-- The text of an instruction: its name and its operands, separated by blanks. -/
def Instruction.text (i : Instruction) : String :=
  " ".intercalate (i.opcode.name :: i.operands.map Operand.text)

/-- The text of what a word decodes to; an unrecognized word is `???`. -/
def instructionText : Option Instruction → String
  | none => "???"
  | some i => i.text

/-- The line of a word: its address, its value and its text. -/
def CodeWord.line (c : CodeWord) : String :=
  "0x" ++ hex 3 c.address.toNat ++ "  " ++ hex 4 c.word ++ "  " ++ instructionText c.instruction

/-- The listing of a program that starts at address `base`. -/
def listing (base : Nat) (data : List UInt8) : List String :=
  (disassemble base data).map CodeWord.line

end Chip8
