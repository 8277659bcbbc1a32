import Chip8.Proofs.Bare.Execute

/-!
# Histories of the bare machine

The rest of what a host can do to a bare machine: loading, resetting, ticking and handling keys, written out like its
execution.  `BareMachine.apply` is the machine after a command and why the command ended early, if it did;
`BareMachine.after` is the machine after a history; `BareMachine.fresh` is a new machine.
-/

namespace Chip8

open Chip8.Action
open TimeBase (later reached)

namespace BareMachine

variable {τ : Type} [TimeBase τ]

def reset : Action τ Unit := do
  storeMemory 0 (← get).memory.length (List.replicate memorySize 0)
  storeMemory 0 font.length font
  storeMemory programStart (programStart + (← get).program.length) (← get).program
  storeRegisters 0 (← get).registers.length (List.replicate 16 0)
  modify fun s => { s with stack := List.replicate 16 0, stackPointer := 0 }
  modify fun s => { s with pc := programStart, index := 0, delay := 0, sound := 0 }
  modify fun s => { s with runState := .running, keyTarget := none, halted := false, count := 0 }
  clearDisplay
  disarm
  modify fun s =>
    { s with instructionDeadline := TimeBase.zero, timerDeadline := TimeBase.zero, anchored := false }

def load (image : List UInt8) : Action τ Unit := do
  if maxProgramSize < image.length then
    throw (.trouble (.image (.noRoom image.length)))
  else
    storeMemory programStart (← get).memory.length (List.replicate maxProgramSize 0)
    storeMemory programStart (programStart + image.length) image
    modify fun s => { s with program := image }

def stepDelay : Action τ Unit := do
  if (← get).delay > 0 then
    modify fun s => { s with delay := s.delay - 1 }

def stepSound : Action τ Unit := do
  if (← get).sound > 0 then
    modify fun s => { s with sound := s.sound - 1 }

def stepTimers : Action τ Unit := do
  stepDelay
  stepSound

/-- Runs the slots that are due at time `now`, up to the given number. -/
def dueSlots (now : τ) : Nat → Action τ Unit
  | 0 => return ()
  | n + 1 => do
    if reached (← get).instructionDeadline now then
      execute
      modify fun s => { s with instructionDeadline := later s.instructionDeadline instructionPeriod }
      dueSlots now n

/-- Performs the steps of the timers that are due at time `now`, up to the given number. -/
def dueSteps (now : τ) : Nat → Action τ Unit
  | 0 => return ()
  | n + 1 => do
    if reached (← get).timerDeadline now then
      stepTimers
      modify fun s => { s with timerDeadline := later s.timerDeadline timerPeriod }
      dueSteps now n

/-- Makes up for the overdue slots, and gives up those that are too many. -/
def catchUpSlots (now : τ) : Action τ Unit := do
  dueSlots now instructionHz
  if reached (← get).instructionDeadline now then
    modify fun s => { s with instructionDeadline := later now instructionPeriod }

/-- Makes up for the overdue steps of the timers, and gives up those that are too many. -/
def catchUpSteps (now : τ) : Action τ Unit := do
  dueSteps now timerHz
  if reached (← get).timerDeadline now then
    modify fun s => { s with timerDeadline := later now timerPeriod }

/-- Sets both deadlines to time `now` if they have not been set. -/
def anchor (now : τ) : Action τ Unit := do
  if !(← get).anchored then
    modify fun s => { s with instructionDeadline := now, timerDeadline := now, anchored := true }

def slotPhase (now : τ) : Action τ Unit := do
  if reached (← get).instructionDeadline now then
    if (← get).catchUp then
      catchUpSlots now
    else
      execute
      modify fun s =>
        { s with instructionDeadline := Machine.nextDeadline s.instructionDeadline now instructionPeriod }

def timerPhase (now : τ) : Action τ Unit := do
  if reached (← get).timerDeadline now then
    if (← get).catchUp then
      catchUpSteps now
    else
      stepTimers
      modify fun s => { s with timerDeadline := Machine.nextDeadline s.timerDeadline now timerPeriod }

def tick (now : τ) : Action τ Unit := do
  if (← get).halted then
    return ()
  else
    anchor now
    slotPhase now
    timerPhase now

def setPressed (key : Int) (pressed : Bool) : Action τ Unit := do
  if 0 ≤ key ∧ key < 16 then
    let before ← entry (← get).pressed key
    let held ← replace (← get).pressed key pressed
    modify fun s => { s with pressed := held }
    if (← get).tracking && before && !pressed then
      modify fun s => { s with lastReleased := some key }

def releaseAll : Action τ Unit := modify fun s => { s with pressed := s.pressed.map fun _ => false }

def command : Command τ → Action τ Unit
  | .load image => load image
  | .reset => reset
  | .execute => execute
  | .tick now => tick now
  | .setKey key pressed => setPressed key pressed
  | .releaseAll => releaseAll
  | .setCatchUp catchUp => modify fun s => { s with catchUp := catchUp }

/-- The machine after an action, and why the action ended early, if it did. -/
def act (s : BareMachine τ) (a : Action τ Unit) : BareMachine τ × Option Stop :=
  match a.run s with
  | .ok () t => (t, none)
  | .error e t => (t, some e)

/-- The machine after a command, and why the command ended early, if it did. -/
def apply (s : BareMachine τ) (c : Command τ) : BareMachine τ × Option Stop := s.act (command c)

/-- The machine after a history. -/
def after (s : BareMachine τ) : List (Command τ) → BareMachine τ
  | [] => s
  | c :: rest => (s.apply c).1.after rest

/-- The stores of a new machine before it is reset for the first time. -/
def blank (random : RandomSource) (catchUp : Bool) : BareMachine τ where
  memory := List.replicate memorySize 0
  registers := List.replicate 16 0
  stack := List.replicate 16 0
  stackPointer := 0
  pc := programStart
  index := 0
  delay := 0
  sound := 0
  instructionDeadline := TimeBase.zero
  timerDeadline := TimeBase.zero
  anchored := false
  runState := .running
  keyTarget := none
  halted := false
  count := 0
  opPc := programStart
  pixels := List.replicate 2048 0
  pressed := List.replicate 16 false
  tracking := false
  lastReleased := none
  program := []
  random := random
  catchUp := catchUp

def fresh (random : RandomSource) (catchUp : Bool) : BareMachine τ := ((blank random catchUp).apply .reset).1

end BareMachine

end Chip8
