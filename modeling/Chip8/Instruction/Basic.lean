/-!
# Instructions

The thirty-four instructions of the CHIP-8 machine.

* `Opcode` names the kinds of instruction, `Opcode.all` lists them in the order of their patterns' families, and
  `Opcode.pattern` gives the four hexadecimal places of the word of each kind;
* `Instruction` is an opcode together with its operands.  Operands are natural numbers: the words of the machine
  only produce small ones, but nothing in a listing depends on that;
* `Instruction.build?` and `Instruction.operands` take an instruction apart and put it together again;
* `Instruction.Fits` holds of the instructions whose operands fit into their places in a word.
-/

namespace Chip8

/-- The kinds of instruction. -/
inductive Opcode where
  | clearDisplay | ret | jump | call | skipEqVal | skipNotEqVal | skipEq | setVal | addVal
  | copy | or | and | xor | add | subtract | shiftRight | difference | shiftLeft | skipNotEq
  | setIndex | jumpOffset | rand | drawSprite | skipKeyPressed | skipKeyNotPressed
  | getDelayTimer | getKeyPress | setDelayTimer | setSoundTimer | addIndex | setIndexCharacter
  | storeBCD | regDump | regLoad
deriving DecidableEq, Repr

namespace Opcode

def all : List Opcode :=
  [clearDisplay, ret, jump, call, skipEqVal, skipNotEqVal, skipEq, setVal, addVal, copy, or, and, xor, add,
   subtract, shiftRight, difference, shiftLeft, skipNotEq, setIndex, jumpOffset, rand, drawSprite,
   skipKeyPressed, skipKeyNotPressed, getDelayTimer, getKeyPress, setDelayTimer, setSoundTimer, addIndex,
   setIndexCharacter, storeBCD, regDump, regLoad]

/-- The name of the kind in listings. -/
def name : Opcode → String
  | clearDisplay => "ClearDisplay"
  | ret => "Return"
  | jump => "Jump"
  | call => "Call"
  | skipEqVal => "SkipEqVal"
  | skipNotEqVal => "SkipNotEqVal"
  | skipEq => "SkipEq"
  | setVal => "SetVal"
  | addVal => "AddVal"
  | copy => "Copy"
  | or => "Or"
  | and => "And"
  | xor => "Xor"
  | add => "Add"
  | subtract => "Subtract"
  | shiftRight => "ShiftRight"
  | difference => "Difference"
  | shiftLeft => "ShiftLeft"
  | skipNotEq => "SkipNotEq"
  | setIndex => "SetIndex"
  | jumpOffset => "JumpOffset"
  | rand => "Rand"
  | drawSprite => "DrawSprite"
  | skipKeyPressed => "SkipKeyPressed"
  | skipKeyNotPressed => "SkipKeyNotPressed"
  | getDelayTimer => "GetDelayTimer"
  | getKeyPress => "GetKeyPress"
  | setDelayTimer => "SetDelayTimer"
  | setSoundTimer => "SetSoundTimer"
  | addIndex => "AddIndex"
  | setIndexCharacter => "SetIndexCharacter"
  | storeBCD => "StoreBCD"
  | regDump => "RegDump"
  | regLoad => "RegLoad"

/-- The word of the kind, place by place: a hexadecimal digit stands for itself, `X` and `Y` for a register
number, and the places marked `N` together for an immediate value or an address. -/
def pattern : Opcode → String
  | clearDisplay => "00E0"
  | ret => "00EE"
  | jump => "1NNN"
  | call => "2NNN"
  | skipEqVal => "3XNN"
  | skipNotEqVal => "4XNN"
  | skipEq => "5XY0"
  | setVal => "6XNN"
  | addVal => "7XNN"
  | copy => "8XY0"
  | or => "8XY1"
  | and => "8XY2"
  | xor => "8XY3"
  | add => "8XY4"
  | subtract => "8XY5"
  | shiftRight => "8XY6"
  | difference => "8XY7"
  | shiftLeft => "8XYE"
  | skipNotEq => "9XY0"
  | setIndex => "ANNN"
  | jumpOffset => "BNNN"
  | rand => "CXNN"
  | drawSprite => "DXYN"
  | skipKeyPressed => "EX9E"
  | skipKeyNotPressed => "EXA1"
  | getDelayTimer => "FX07"
  | getKeyPress => "FX0A"
  | setDelayTimer => "FX15"
  | setSoundTimer => "FX18"
  | addIndex => "FX1E"
  | setIndexCharacter => "FX29"
  | storeBCD => "FX33"
  | regDump => "FX55"
  | regLoad => "FX65"

def ofName? (text : String) : Option Opcode :=
  all.find? fun k => k.name == text

end Opcode

/-- A decoded instruction.  `x` and `y` are register numbers, `val` an immediate byte, `addr` an address and `n`
the height of a sprite. -/
inductive Instruction where
  | clearDisplay
  | ret
  | jump (addr : Nat)
  | call (addr : Nat)
  /-- Skip the next instruction if `VX` is the value. -/
  | skipEqVal (x val : Nat)
  /-- Skip the next instruction unless `VX` is the value. -/
  | skipNotEqVal (x val : Nat)
  /-- Skip the next instruction if `VX` is `VY`. -/
  | skipEq (x y : Nat)
  /-- Set `VX` to the value. -/
  | setVal (x val : Nat)
  /-- Add the value to `VX`, without a carry. -/
  | addVal (x val : Nat)
  /-- Set `VX` to `VY`. -/
  | copy (x y : Nat)
  /-- Set `VX` to the bitwise or of `VX` and `VY`. -/
  | or (x y : Nat)
  /-- Set `VX` to the bitwise and of `VX` and `VY`. -/
  | and (x y : Nat)
  /-- Set `VX` to the exclusive or of `VX` and `VY`. -/
  | xor (x y : Nat)
  /-- Add `VY` to `VX`; the flag is the carry. -/
  | add (x y : Nat)
  /-- Subtract `VY` from `VX`; the flag says that nothing was borrowed. -/
  | subtract (x y : Nat)
  /-- Halve `VX`; the flag is the bit shifted out. -/
  | shiftRight (x : Nat)
  /-- Set `VX` to `VY` minus `VX`; the flag says that nothing was borrowed. -/
  | difference (x y : Nat)
  /-- Double `VX`; the flag is the bit shifted out. -/
  | shiftLeft (x : Nat)
  /-- Skip the next instruction unless `VX` is `VY`. -/
  | skipNotEq (x y : Nat)
  /-- Set the index register to an address. -/
  | setIndex (addr : Nat)
  /-- Jump to an address plus `V0`. -/
  | jumpOffset (addr : Nat)
  /-- Set `VX` to a random byte, masked by the value. -/
  | rand (x val : Nat)
  /-- Draw the sprite of `n` rows at the index register with its corner at `(VX, VY)`. -/
  | drawSprite (x y n : Nat)
  /-- Skip the next instruction if the key in `VX` is held. -/
  | skipKeyPressed (x : Nat)
  /-- Skip the next instruction unless the key in `VX` is held. -/
  | skipKeyNotPressed (x : Nat)
  | getDelayTimer (x : Nat)
  /-- Wait for a key to be released and set `VX` to it. -/
  | getKeyPress (x : Nat)
  | setDelayTimer (x : Nat)
  | setSoundTimer (x : Nat)
  /-- Add `VX` to the index register. -/
  | addIndex (x : Nat)
  /-- Set the index register to the glyph of `VX`. -/
  | setIndexCharacter (x : Nat)
  /-- Store the three decimal digits of `VX` from the index register on. -/
  | storeBCD (x : Nat)
  /-- Store `V0` to `VX` from the index register on. -/
  | regDump (x : Nat)
  /-- Load `V0` to `VX` from the index register on. -/
  | regLoad (x : Nat)
deriving DecidableEq, Repr

/-- An operand, with the role that decides how it is written. -/
inductive Operand where
  | address (n : Nat)
  /-- The first register number. -/
  | regX (n : Nat)
  /-- The second register number. -/
  | regY (n : Nat)
  /-- An immediate byte. -/
  | immediate (n : Nat)
  /-- The height of a sprite. -/
  | height (n : Nat)
deriving DecidableEq, Repr

/-- The number that an operand holds. -/
def Operand.value : Operand → Nat
  | .address n | .regX n | .regY n | .immediate n | .height n => n

/-- The least number that is too large for the places of an operand in a word. -/
def Operand.limit : Operand → Nat
  | .address _ => 4096
  | .regX _ | .regY _ | .height _ => 16
  | .immediate _ => 256

/-- The name of an operand's role. -/
def Operand.label : Operand → String
  | .address _ => "addr"
  | .regX _ => "x"
  | .regY _ => "y"
  | .immediate _ => "val"
  | .height _ => "n"

namespace Instruction

def opcode : Instruction → Opcode
  | clearDisplay => .clearDisplay
  | ret => .ret
  | jump _ => .jump
  | call _ => .call
  | skipEqVal .. => .skipEqVal
  | skipNotEqVal .. => .skipNotEqVal
  | skipEq .. => .skipEq
  | setVal .. => .setVal
  | addVal .. => .addVal
  | copy .. => .copy
  | or .. => .or
  | and .. => .and
  | xor .. => .xor
  | add .. => .add
  | subtract .. => .subtract
  | shiftRight _ => .shiftRight
  | difference .. => .difference
  | shiftLeft _ => .shiftLeft
  | skipNotEq .. => .skipNotEq
  | setIndex _ => .setIndex
  | jumpOffset _ => .jumpOffset
  | rand .. => .rand
  | drawSprite .. => .drawSprite
  | skipKeyPressed _ => .skipKeyPressed
  | skipKeyNotPressed _ => .skipKeyNotPressed
  | getDelayTimer _ => .getDelayTimer
  | getKeyPress _ => .getKeyPress
  | setDelayTimer _ => .setDelayTimer
  | setSoundTimer _ => .setSoundTimer
  | addIndex _ => .addIndex
  | setIndexCharacter _ => .setIndexCharacter
  | storeBCD _ => .storeBCD
  | regDump _ => .regDump
  | regLoad _ => .regLoad

/-- The operands of an instruction, in the order in which they are written. -/
def operands : Instruction → List Operand
  | clearDisplay | ret => []
  | jump a | call a | setIndex a | jumpOffset a => [.address a]
  | skipEqVal x v | skipNotEqVal x v | setVal x v | addVal x v | rand x v => [.regX x, .immediate v]
  | skipEq x y | skipNotEq x y | copy x y | or x y | and x y | xor x y | add x y | subtract x y
  | difference x y => [.regX x, .regY y]
  | drawSprite x y n => [.regX x, .regY y, .height n]
  | shiftRight x | shiftLeft x | skipKeyPressed x | skipKeyNotPressed x | getDelayTimer x | getKeyPress x
  | setDelayTimer x | setSoundTimer x | addIndex x | setIndexCharacter x | storeBCD x | regDump x
  | regLoad x => [.regX x]

/-- Do all operands fit into their places in a word? -/
def Fits (i : Instruction) : Prop := ∀ o ∈ i.operands, o.value < o.limit

instance decidableFits (i : Instruction) : Decidable i.Fits :=
  inferInstanceAs (Decidable (∀ o ∈ i.operands, o.value < o.limit))

/-- The instruction of a kind with the given operand values, if their number is right. -/
def build? : Opcode → List Nat → Option Instruction
  | .clearDisplay, [] => some clearDisplay
  | .ret, [] => some ret
  | .jump, [a] => some (jump a)
  | .call, [a] => some (call a)
  | .skipEqVal, [x, v] => some (skipEqVal x v)
  | .skipNotEqVal, [x, v] => some (skipNotEqVal x v)
  | .skipEq, [x, y] => some (skipEq x y)
  | .setVal, [x, v] => some (setVal x v)
  | .addVal, [x, v] => some (addVal x v)
  | .copy, [x, y] => some (copy x y)
  | .or, [x, y] => some (or x y)
  | .and, [x, y] => some (and x y)
  | .xor, [x, y] => some (xor x y)
  | .add, [x, y] => some (add x y)
  | .subtract, [x, y] => some (subtract x y)
  | .shiftRight, [x] => some (shiftRight x)
  | .difference, [x, y] => some (difference x y)
  | .shiftLeft, [x] => some (shiftLeft x)
  | .skipNotEq, [x, y] => some (skipNotEq x y)
  | .setIndex, [a] => some (setIndex a)
  | .jumpOffset, [a] => some (jumpOffset a)
  | .rand, [x, v] => some (rand x v)
  | .drawSprite, [x, y, n] => some (drawSprite x y n)
  | .skipKeyPressed, [x] => some (skipKeyPressed x)
  | .skipKeyNotPressed, [x] => some (skipKeyNotPressed x)
  | .getDelayTimer, [x] => some (getDelayTimer x)
  | .getKeyPress, [x] => some (getKeyPress x)
  | .setDelayTimer, [x] => some (setDelayTimer x)
  | .setSoundTimer, [x] => some (setSoundTimer x)
  | .addIndex, [x] => some (addIndex x)
  | .setIndexCharacter, [x] => some (setIndexCharacter x)
  | .storeBCD, [x] => some (storeBCD x)
  | .regDump, [x] => some (regDump x)
  | .regLoad, [x] => some (regLoad x)
  | _, _ => none

/-- Taking an instruction apart and putting it together gives it back. -/
theorem build?_opcode_operands (i : Instruction) : build? i.opcode (i.operands.map Operand.value) = some i := by
  cases i <;> rfl

end Instruction

end Chip8
