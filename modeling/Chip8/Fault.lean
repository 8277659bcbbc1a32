import Chip8.Text.Numeral

/-!
# Faults

What stops a machine for good: a call or a return that the stack does not allow, or an access outside memory.  Every
fault carries the address of the instruction that caused it.
-/

namespace Chip8

open Text (hex decimal)

/-- The ways in which an instruction accesses a range of memory. -/
inductive Access where
  | bcdStore
  | registerDump
  | registerLoad
  | spriteRead
deriving DecidableEq, Repr

def Access.name : Access → String
  | bcdStore => "BCD store"
  | registerDump => "register dump"
  | registerLoad => "register load"
  | spriteRead => "sprite read"

/-- A reason for the machine to stop; `pc` is the address of the instruction. -/
inductive Fault where
  /-- A call with every slot of the stack in use. -/
  | stackOverflow (pc : Nat)
  /-- A return with no slot of the stack in use. -/
  | stackUnderflow (pc : Nat)
  /-- An instruction that does not lie in memory as a whole. -/
  | fetchOutside (pc : Nat)
  /-- An access to `length` bytes from `start` on that do not all lie in memory. -/
  | accessOutside (access : Access) (start length pc : Nat)
deriving DecidableEq, Repr

namespace Fault

/-- The address of the instruction. -/
def pc : Fault → Nat
  | stackOverflow pc | stackUnderflow pc | fetchOutside pc | accessOutside _ _ _ pc => pc

/-- What happened, without the address of the instruction. -/
def cause : Fault → String
  | stackOverflow _ => "call nesting deeper than 16"
  | stackUnderflow _ => "return with empty stack"
  | fetchOutside _ => "instruction fetch outside memory"
  | accessOutside access start length _ =>
    access.name ++ " at 0x" ++ hex 4 start ++ "+" ++ decimal length ++ " outside memory"

/-- The message of a fault: what happened, and where. -/
def message (f : Fault) : String := f.cause ++ " (pc=0x" ++ hex 3 f.pc ++ ")"

end Fault

end Chip8
