import Chip8.Instruction.Basic

/-!
# Patterns of words

The words of the machine are described by patterns of four places, such as `8XY6`.

* `Opcode.accepts` tells whether a word has the pattern;
* `Opcode.field` reads the number that stands in the places marked with a letter;
* `Opcode.instance?` is the instruction that a pattern describes at a word.  The two shifts have a place for `Y` and
  take no operand from it.
-/

namespace Chip8

/-- The low sixteen bits of an integer, negative ones in two's complement. -/
def lowWord (word : Int) : Nat := (word % 65536).toNat

/-- The four hexadecimal places of a word below 65536, most significant first. -/
def places (w : Nat) : List Nat := [w / 4096, w / 256 % 16, w / 16 % 16, w % 16]

/-- The value of a hexadecimal digit in a pattern; the letters that mark operands have none. -/
def placeValue? (c : Char) : Option Nat :=
  if '0' ≤ c ∧ c ≤ '9' then some (c.toNat - '0'.toNat)
  else if 'A' ≤ c ∧ c ≤ 'F' then some (c.toNat - 'A'.toNat + 10)
  else none

namespace Opcode

/-- Does a word have the pattern of the kind: the same digit in every place that holds a digit? -/
def accepts (k : Opcode) (word : Int) : Bool :=
  ((k.pattern.toList.zip (places (lowWord word))).all fun (c, d) =>
    match placeValue? c with
    | some v => v == d
    | none => true)

/-- The number formed by the places of a word that the pattern marks with a letter. -/
def field (k : Opcode) (letter : Char) (word : Int) : Nat :=
  ((k.pattern.toList.zip (places (lowWord word))).filter fun (c, _) => c == letter).foldl
    (fun acc (_, d) => acc * 16 + d) 0

/-- Does the kind take a number from the places marked with a letter? -/
def takes (k : Opcode) (letter : Char) : Bool :=
  k.pattern.toList.contains letter && !(letter == 'Y' && (k == shiftRight || k == shiftLeft))

/-- The instruction that the pattern of the kind describes at a word, operands in the order `X`, `Y`, `N`. -/
def instance? (k : Opcode) (word : Int) : Option Instruction :=
  if k.accepts word then
    Instruction.build? k ((['X', 'Y', 'N'].filter k.takes).map (k.field · word))
  else none

end Opcode

end Chip8
