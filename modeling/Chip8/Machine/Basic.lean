import Chip8.CallStack
import Chip8.Display
import Chip8.Image.Basic
import Chip8.Keypad
import Chip8.Memory
import Chip8.Random.Source
import Chip8.Registers
import Chip8.Time

/-!
# The machine

The state of the machine, and what can be done to it from outside short of running it.

* `Machine.fresh` is a machine without a program, `Machine.load` stores a program image and copies it into memory;
* `Machine.reset` brings a machine back to its first instruction.  The keys that are held, the source of random bytes
  and the way to deal with late ticks stay as they are, and so does the program, which is copied into memory again.
-/

namespace Chip8

/-- When the next instruction and the next step of the timers are due. -/
structure Schedule (τ : Type) where
  /-- The time from which on the next instruction is due. -/
  instruction : τ
  /-- The time from which on the next step of the timers is due. -/
  timer : τ
deriving DecidableEq

/-- The state of the machine, with times in `τ`. -/
structure Machine (τ : Type) where
  memory : Memory
  /-- The registers `V0` to `VF`. -/
  registers : Registers
  /-- The return addresses of the open calls. -/
  stack : CallStack
  /-- The address of the next instruction. -/
  pc : Nat
  index : Nat
  delay : UInt8
  sound : UInt8
  /-- The deadlines, which are set by the first tick. -/
  schedule : Option (Schedule τ)
  /-- The register for the key for which the machine waits, if it waits for one. -/
  awaiting : Option Nat
  /-- Has a fault stopped the machine? -/
  halted : Bool
  /-- The number of instructions fetched since the last reset. -/
  count : Nat
  display : Display
  keypad : Keypad
  /-- The program image that was loaded last. -/
  program : List UInt8
  /-- Where random bytes come from. -/
  random : RandomSource
  /-- Does a late tick make up for everything that is overdue? -/
  catchUp : Bool
deriving DecidableEq

namespace Machine

variable {τ : Type}

/-- The machine at its first instruction. -/
def reset (m : Machine τ) : Machine τ where
  memory := Memory.powerOn m.program
  registers := Registers.zeros
  stack := CallStack.empty
  pc := programStart
  index := 0
  delay := 0
  sound := 0
  schedule := none
  awaiting := none
  halted := false
  count := 0
  display := Display.blank
  keypad := m.keypad.disarm
  program := m.program
  random := m.random
  catchUp := m.catchUp

def fresh (random : RandomSource) (catchUp : Bool) : Machine τ where
  memory := Memory.powerOn []
  registers := Registers.zeros
  stack := CallStack.empty
  pc := programStart
  index := 0
  delay := 0
  sound := 0
  schedule := none
  awaiting := none
  halted := false
  count := 0
  display := Display.blank
  keypad := Keypad.initial
  program := []
  random := random
  catchUp := catchUp

/-- Stores a program image and copies it into memory.  Nothing else changes: a running program goes on. -/
def load (m : Machine τ) (image : List UInt8) : Except ImageError (Machine τ) := do
  fitImage image
  return { m with memory := m.memory.withProgram image, program := image }

/-- An image is refused just if it is too large. -/
theorem load_eq (m : Machine τ) (image : List UInt8) :
    m.load image =
      if maxProgramSize < image.length then .error (.noRoom image.length)
      else .ok { m with memory := m.memory.withProgram image, program := image } := by
  unfold load fitImage
  split <;> rfl

/-- Should the tone be sounding? -/
def soundActive (m : Machine τ) : Bool := 0 < m.sound

/-- Counting a byte down, which stops at zero, is subtraction of natural numbers. -/
theorem toNat_countDown (b : UInt8) : (if b = 0 then 0 else b - 1).toNat = b.toNat - 1 := by
  split
  · rename_i zero
    rw [zero]
    rfl
  · rename_i positive
    have one : (1 : UInt8) ≤ b := by
      rw [UInt8.le_iff_toNat_le]
      exact Nat.one_le_iff_ne_zero.2 fun zero => positive (UInt8.toNat_inj.1 zero)
    exact UInt8.toNat_sub_of_le b 1 one

/-- Counts both timers down by one; they stay at zero. -/
def stepTimers (m : Machine τ) : Machine τ :=
  { m with
    delay := if m.delay = 0 then 0 else m.delay - 1
    sound := if m.sound = 0 then 0 else m.sound - 1 }

def summary (m : Machine τ) : String :=
  "Machine(pc=0x" ++ Text.hex 3 m.pc ++ ", i=0x" ++ Text.hex 3 m.index ++ ", sp=" ++ Text.decimal m.stack.depth ++
    ", state=" ++ (if m.awaiting.isSome then "AWAITING_KEY" else "RUNNING") ++ ", halted=" ++
    (if m.halted then "True" else "False") ++ ")"

end Machine

end Chip8
