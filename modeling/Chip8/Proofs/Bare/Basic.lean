import Chip8.Machine.Command

/-!
# The bare machine

The machine once more, as a record of plain lists and numbers that instructions change one field after the other.
`Machine` has the sizes of its stores in its types and an instruction that faults has no effect there; here neither
is taken for granted:

* a list can have any length, and an access at a place that it does not have is a crash, and so is a place below zero;
* a number is stored as a byte only if it is one, and read as a key only if it is one; anything else is a crash;
* an action that ends early keeps what it changed before (`Action` is a state with exceptions that roll nothing back).

The address of the instruction under way, from which faults take theirs, is a field of the state too (`opPc`).
`BareMachine.ofMachine` is the bare form of a machine.
-/

namespace Chip8

/-- What an action of a bare machine can trip over: a place that a list does not have, or a number that is no byte or
no key. -/
inductive Crash where
  | outOfRange
  | notByte
  | notKey
  /-- A released key has no register to go to. -/
  | noTarget
deriving DecidableEq

/-- Why an action of a bare machine ended early. -/
inductive Stop where
  /-- Something that can go wrong by design. -/
  | trouble (trouble : Trouble)
  /-- Something that should never happen. -/
  | crash (crash : Crash)
deriving DecidableEq

/-- Does a program run, or wait for a key? -/
inductive RunState where
  | running | awaitingKey
deriving DecidableEq

/-- The state of the machine in plain lists and numbers.  Numbers that are only added up are natural, those that are
counted down are integers.  The fields that `Machine` has too mean the same here. -/
structure BareMachine (τ : Type) where
  memory : List UInt8
  registers : List UInt8
  /-- The slots for return addresses, the outermost first. -/
  stack : List Nat
  stackPointer : Int
  pc : Nat
  index : Nat
  delay : Int
  sound : Int
  instructionDeadline : τ
  timerDeadline : τ
  /-- Have the deadlines been set? -/
  anchored : Bool
  runState : RunState
  /-- The register for the key for which the program waits. -/
  keyTarget : Option Nat
  halted : Bool
  count : Nat
  /-- The address of the instruction that was fetched last. -/
  opPc : Nat
  /-- The pixels, row by row: zero for off, one for on. -/
  pixels : List UInt8
  pressed : List Bool
  tracking : Bool
  /-- The number of the key that was released last while tracking. -/
  lastReleased : Option Int
  program : List UInt8
  random : RandomSource
  catchUp : Bool
deriving DecidableEq

/-- An action on a bare machine, which may end early and then keeps what it has changed so far. -/
abbrev Action (τ α : Type) := EStateM Stop (BareMachine τ) α

namespace Action

variable {τ α β : Type}

/-- Ends an action with a crash. -/
def crash (c : Crash) : Action τ α := throw (.crash c)

/-- Ends an action with a fault. -/
def fault (f : Fault) : Action τ α := throw (.trouble (.fault f))

/-- The entry of a list at a place. -/
def entry (xs : List α) (i : Int) : Action τ α :=
  match if 0 ≤ i then xs[i.toNat]? else none with
  | some x => pure x
  | none => crash .outOfRange

/-- The list with the entry at a place changed. -/
def replace (xs : List α) (i : Int) (x : α) : Action τ (List α) :=
  if 0 ≤ i ∧ i < xs.length then pure (xs.set i.toNat x) else crash .outOfRange

/-- The entries of a list from a place on up to another one. -/
def slice (xs : List α) (start stop : Nat) : Action τ (List α) :=
  if start ≤ stop ∧ stop ≤ xs.length then pure ((xs.take stop).drop start) else crash .outOfRange

/-- The list with the entries from a place on up to another one exchanged for others, of which there may be more or
fewer. -/
def exchange (xs : List α) (start stop : Nat) (ys : List α) : Action τ (List α) :=
  if start ≤ stop ∧ stop ≤ xs.length then pure (xs.take start ++ ys ++ xs.drop stop) else crash .outOfRange

/-- A number as a byte. -/
def byte (v : Int) : Action τ UInt8 :=
  if 0 ≤ v ∧ v < 256 then pure (UInt8.ofNat v.toNat) else crash .notByte

theorem run_bind_of_ok {a : Action τ α} {s t : BareMachine τ} {x : α} (h : a.run s = .ok x t) (f : α → Action τ β) :
    (a >>= f).run s = (f x).run t := by
  rw [EStateM.run_bind, h]

theorem run_bind_of_error {a : Action τ α} {s t : BareMachine τ} {e : Stop} (h : a.run s = .error e t)
    (f : α → Action τ β) : (a >>= f).run s = .error e t := by
  rw [EStateM.run_bind, h]

theorem run_entry {xs : List α} {i : Nat} {x : α} (h : xs[i]? = some x) (s : BareMachine τ) :
    (entry xs i : Action τ α).run s = .ok x s := by
  simp [entry, h]

theorem run_replace {xs : List α} {i : Nat} (h : i < xs.length) (x : α) (s : BareMachine τ) :
    (replace xs i x : Action τ (List α)).run s = .ok (xs.set i x) s := by
  simp [replace, h]

theorem run_slice {xs : List α} {start stop : Nat} (h : start ≤ stop) (room : stop ≤ xs.length)
    (s : BareMachine τ) : (slice xs start stop : Action τ (List α)).run s = .ok ((xs.take stop).drop start) s := by
  simp [slice, h, room]

theorem run_exchange {xs : List α} {start stop : Nat} (h : start ≤ stop) (room : stop ≤ xs.length) (ys : List α)
    (s : BareMachine τ) :
    (exchange xs start stop ys : Action τ (List α)).run s = .ok (xs.take start ++ ys ++ xs.drop stop) s := by
  simp [exchange, h, room]

theorem run_exchange_all (xs ys : List α) (s : BareMachine τ) :
    (exchange xs 0 xs.length ys : Action τ (List α)).run s = .ok ys s := by
  rw [run_exchange (Nat.zero_le _) (Nat.le_refl _), List.take_zero, List.drop_length, List.append_nil]
  rfl

theorem run_byte (b : UInt8) (s : BareMachine τ) : (byte (b.toNat : Int) : Action τ UInt8).run s = .ok b s := by
  have small : b.toNat < 256 := b.toNat_lt
  have whole : (0 : Int) ≤ b.toNat ∧ (b.toNat : Int) < 256 := by omega
  rw [byte, if_pos whole]
  simp

end Action

namespace BareMachine

variable {τ : Type}

/-- A pixel as a number. -/
def lamp (lit : Bool) : UInt8 := if lit then 1 else 0

/-- A machine in its bare form, given the address of the instruction that was fetched last. -/
def ofMachine [TimeBase τ] (m : Machine τ) (opPc : Nat) : BareMachine τ where
  memory := m.memory.cells.toList
  registers := m.registers.bytes.toList
  stack := m.stack.slots.toList
  stackPointer := m.stack.depth
  pc := m.pc
  index := m.index
  delay := m.delay.toNat
  sound := m.sound.toNat
  instructionDeadline := (m.schedule.map Schedule.instruction).getD TimeBase.zero
  timerDeadline := (m.schedule.map Schedule.timer).getD TimeBase.zero
  anchored := m.schedule.isSome
  runState := if m.awaiting.isSome then .awaitingKey else .running
  keyTarget := m.awaiting
  halted := m.halted
  count := m.count
  opPc := opPc
  pixels := m.display.pixels.toList.map lamp
  pressed := m.keypad.held.toList
  tracking := m.keypad.tracking
  lastReleased := m.keypad.released.map fun k => (k.val : Int)
  program := m.program
  random := m.random
  catchUp := m.catchUp

end BareMachine

end Chip8
