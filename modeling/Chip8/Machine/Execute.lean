import Chip8.Fault
import Chip8.Instruction.Decode
import Chip8.Machine.Basic

/-!
# Execution

One slot of the machine.

* `Machine.perform` is the effect of a decoded instruction.  It either gives the new machine or a fault, so an
  instruction that faults has no effect;
* `Machine.poll` is the slot of a machine that waits for a key;
* `Machine.execute` is a slot: it fetches and performs an instruction, or polls.  A machine that faulted is halted, and
  nothing happens any more.

Instructions that set the flag write their result first, so `VF` holds the flag even if it is also their target.
-/

namespace Chip8

namespace Machine

variable {τ : Type}

def reg (m : Machine τ) (x : Nat) : UInt8 := m.registers.get x

def setReg (m : Machine τ) (x : Nat) (b : UInt8) : Machine τ := { m with registers := m.registers.set x b }

/-- Sets the flag register to one or zero. -/
def setFlag (m : Machine τ) (flag : Bool) : Machine τ := m.setReg flagRegister (if flag then 1 else 0)

theorem reg_setReg (m : Machine τ) (x y : Nat) (b : UInt8) :
    (m.setReg x b).reg y = if x % 16 = y % 16 then b else m.reg y :=
  m.registers.get_set x y b

theorem reg_setFlag (m : Machine τ) (flag : Bool) : (m.setFlag flag).reg flagRegister = if flag then 1 else 0 := by
  rw [setFlag, reg_setReg, if_pos rfl]

/-- Skips the next instruction under a condition. -/
def skipIf (m : Machine τ) (condition : Bool) : Machine τ := if condition then { m with pc := m.pc + 2 } else m

/-- The decimal digits of a byte: hundreds, tens, units. -/
def decimalDigits (b : UInt8) : List UInt8 := [b / 100, b / 10 % 10, b % 10]

/-- Performs an instruction that was fetched from address `here`, with the next one already at `m.pc`. -/
def perform (m : Machine τ) (here : Nat) : Instruction → Except Fault (Machine τ)
  | .clearDisplay => .ok { m with display := Display.blank }
  | .ret =>
    match m.stack.pop? with
    | some (a, stack) => .ok { m with stack := stack, pc := a }
    | none => .error (.stackUnderflow here)
  | .jump addr => .ok { m with pc := addr }
  | .call addr =>
    match m.stack.push? m.pc with
    | some stack => .ok { m with stack := stack, pc := addr }
    | none => .error (.stackOverflow here)
  | .skipEqVal x val => .ok (m.skipIf ((m.reg x).toNat == val))
  | .skipNotEqVal x val => .ok (m.skipIf ((m.reg x).toNat != val))
  | .skipEq x y => .ok (m.skipIf (m.reg x == m.reg y))
  | .setVal x val => .ok (m.setReg x (UInt8.ofNat val))
  | .addVal x val => .ok (m.setReg x (m.reg x + UInt8.ofNat val))
  | .copy x y => .ok (m.setReg x (m.reg y))
  | .or x y => .ok (m.setReg x (m.reg x ||| m.reg y))
  | .and x y => .ok (m.setReg x (m.reg x &&& m.reg y))
  | .xor x y => .ok (m.setReg x (m.reg x ^^^ m.reg y))
  | .add x y =>
    .ok ((m.setReg x (m.reg x + m.reg y)).setFlag (256 ≤ (m.reg x).toNat + (m.reg y).toNat))
  | .subtract x y => .ok ((m.setReg x (m.reg x - m.reg y)).setFlag (m.reg y ≤ m.reg x))
  | .shiftRight x => .ok ((m.setReg x (m.reg x / 2)).setFlag ((m.reg x).toNat % 2 == 1))
  | .difference x y => .ok ((m.setReg x (m.reg y - m.reg x)).setFlag (m.reg x ≤ m.reg y))
  | .shiftLeft x => .ok ((m.setReg x (m.reg x + m.reg x)).setFlag (128 ≤ m.reg x))
  | .skipNotEq x y => .ok (m.skipIf (m.reg x != m.reg y))
  | .setIndex addr => .ok { m with index := addr }
  | .jumpOffset addr => .ok { m with pc := addr + (m.reg 0).toNat }
  | .rand x val =>
    let (b, random) := m.random.draw
    .ok ({ m with random := random }.setReg x (b &&& UInt8.ofNat val))
  | .drawSprite x y n =>
    match m.memory.read? m.index n with
    | some rows =>
      let (display, collision) :=
        m.display.drawSprite (m.reg x).toNat (m.reg y).toNat (rows.map fun b => (b.toNat : Int))
      .ok ({ m with display := display }.setFlag collision)
    | none => .error (.accessOutside .spriteRead m.index n here)
  | .skipKeyPressed x => .ok (m.skipIf (m.keypad.isPressed (m.reg x).toNat))
  | .skipKeyNotPressed x => .ok (m.skipIf (!m.keypad.isPressed (m.reg x).toNat))
  | .getDelayTimer x => .ok (m.setReg x m.delay)
  | .getKeyPress x => .ok { m with pc := here, awaiting := some x, keypad := m.keypad.arm }
  | .setDelayTimer x => .ok { m with delay := m.reg x }
  | .setSoundTimer x => .ok { m with sound := m.reg x }
  | .addIndex x => .ok { m with index := (m.index + (m.reg x).toNat) % 65536 }
  | .setIndexCharacter x => .ok { m with index := (glyphAddress (m.reg x).toNat).toNat }
  | .storeBCD x =>
    match m.memory.write? m.index (decimalDigits (m.reg x)) with
    | some memory => .ok { m with memory := memory }
    | none => .error (.accessOutside .bcdStore m.index 3 here)
  | .regDump x =>
    match m.memory.write? m.index (m.registers.first (x + 1)) with
    | some memory => .ok { m with memory := memory }
    | none => .error (.accessOutside .registerDump m.index (x + 1) here)
  | .regLoad x =>
    match m.memory.read? m.index (x + 1) with
    | some bytes => .ok { m with registers := m.registers.setFrom 0 bytes }
    | none => .error (.accessOutside .registerLoad m.index (x + 1) here)

/-- Looks for the key for which the machine waits: once one was released, it goes into register `x` and the machine
continues behind the instruction that waits. -/
def poll (m : Machine τ) (x : Nat) : Machine τ :=
  match m.keypad.released with
  | none => m
  | some key =>
    { m with
      registers := m.registers.set x (UInt8.ofNat key.val)
      keypad := m.keypad.disarm
      awaiting := none
      pc := m.pc + 2 }

/-- Runs one slot.  A fault halts the machine and is reported. -/
def execute (m : Machine τ) : Machine τ × Option Fault :=
  if m.halted then (m, none)
  else match m.awaiting with
    | some x => (m.poll x, none)
    | none =>
      match m.memory.fetch? m.pc with
      | none => ({ m with halted := true }, some (.fetchOutside m.pc))
      | some word =>
        let next := { m with pc := m.pc + 2, count := m.count + 1 }
        match decode word with
        | none => (next, none)
        | some i =>
          match next.perform m.pc i with
          | .ok done => (done, none)
          | .error fault => ({ next with halted := true }, some fault)

/-- Runs up to the given number of slots and stops at a fault, and counts on from `ran` those that ran without one. -/
def executeUpTo (m : Machine τ) (ran : Nat) : Nat → Machine τ × Nat × Option Fault
  | 0 => (m, ran, none)
  | n + 1 =>
    match m.execute with
    | (stopped, some fault) => (stopped, ran, some fault)
    | (next, none) => next.executeUpTo (ran + 1) n

end Machine

end Chip8
