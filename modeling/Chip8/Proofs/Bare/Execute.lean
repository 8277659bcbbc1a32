import Chip8.Proofs.Bare.Basic

/-!
# Execution on the bare machine

One slot of the bare machine (`BareMachine.execute`), written out field by field: every access to a list goes through
`Action.entry`, `Action.replace`, `Action.slice` or `Action.exchange`, every byte through `Action.byte`, and every
change is in force from its place in the action on, also if the action ends early behind it.
-/

namespace Chip8

open Chip8.Action

namespace BareMachine

variable {τ : Type}

def register (x : Nat) : Action τ Nat := do
  let b ← entry (← get).registers x
  return b.toNat

def setRegister (x : Nat) (v : Int) : Action τ Unit := do
  let b ← byte v
  let registers ← replace (← get).registers x b
  modify fun s => { s with registers := registers }

def setMemory (a : Nat) (v : Int) : Action τ Unit := do
  let b ← byte v
  let memory ← replace (← get).memory a b
  modify fun s => { s with memory := memory }

/-- Stores bytes in memory in place of those in a range of addresses. -/
def storeMemory (start stop : Nat) (data : List UInt8) : Action τ Unit := do
  let memory ← exchange (← get).memory start stop data
  modify fun s => { s with memory := memory }

/-- Stores bytes in the registers in place of those in a range of numbers. -/
def storeRegisters (start stop : Nat) (data : List UInt8) : Action τ Unit := do
  let registers ← exchange (← get).registers start stop data
  modify fun s => { s with registers := registers }

/-- Stores one or zero in the flag register. -/
def setFlag (flag : Bool) : Action τ Unit := setRegister flagRegister (if flag then 1 else 0)

def skipIf (condition : Bool) : Action τ Unit := do
  if condition then
    modify fun s => { s with pc := s.pc + 2 }

/-- Refuses a range of addresses that leaves memory. -/
def checkMemory (access : Access) (start length : Nat) : Action τ Unit := do
  if memorySize < start + length then
    fault (.accessOutside access start length (← get).opPc)

def isPressed (key : Int) : Action τ Bool := do
  if 0 ≤ key ∧ key < 16 then
    entry (← get).pressed key
  else
    return false

def arm : Action τ Unit := modify fun s => { s with tracking := true, lastReleased := none }

def disarm : Action τ Unit := modify fun s => { s with tracking := false, lastReleased := none }

def clearDisplay : Action τ Unit := do
  let pixels ← exchange (← get).pixels 0 (← get).pixels.length (List.replicate 2048 0)
  modify fun s => { s with pixels := pixels }

/-- Flips a pixel, and says whether it was on. -/
def flipPixel (index : Nat) : Action τ Bool := do
  let p ← entry (← get).pixels index
  let b ← byte (p.toNat ^^^ 1 : Nat)
  let pixels ← replace (← get).pixels index b
  modify fun s => { s with pixels := pixels }
  return p != 0

/-- Flips the pixels of one row of a sprite, given the columns to go through. -/
def drawColumns (x base : Nat) (row : Int) : List Nat → Action τ Bool
  | [] => return false
  | c :: columns => do
    if rowBit row c then
      let hit ← flipPixel (base + (x + c) % 64)
      let rest ← drawColumns x base row columns
      return hit || rest
    else
      drawColumns x base row columns

/-- Flips the pixels of the rows of a sprite, the first of which is in row `y`. -/
def drawRows (x y : Nat) : List Int → Action τ Bool
  | [] => return false
  | row :: rows => do
    let hit ← drawColumns x (y % 32 * 64) row (List.range 8)
    let rest ← drawRows x (y + 1) rows
    return hit || rest

/-- Draws a sprite, and says whether a pixel was switched off. -/
def drawSprite (x y : Nat) (rows : List Int) : Action τ Bool := do
  if x < 64 ∧ y < 32 then
    drawRows x y rows
  else
    return false

def ret : Action τ Unit := do
  let s ← get
  if s.stackPointer = 0 then
    fault (.stackUnderflow s.opPc)
  else
    -- from here on the pointer is the place of the address on top
    modify fun s => { s with stackPointer := s.stackPointer - 1 }
    let a ← entry (← get).stack (← get).stackPointer
    modify fun s => { s with pc := a }

def call (addr : Nat) : Action τ Unit := do
  let s ← get
  if s.stackPointer ≥ 16 then
    fault (.stackOverflow s.opPc)
  else
    let stack ← replace s.stack s.stackPointer s.pc
    modify fun s => { s with stack := stack }
    modify fun s => { s with stackPointer := s.stackPointer + 1 }
    modify fun s => { s with pc := addr }

/-- Stores a result and then the flag that goes with it. -/
def setWithFlag (x : Nat) (v : Int) (flag : Bool) : Action τ Unit := do
  setRegister x v
  setFlag flag

def rand (x val : Nat) : Action τ Unit := do
  let drawn := (← get).random.draw
  modify fun s => { s with random := drawn.2 }
  setRegister x (drawn.1.toNat &&& val : Nat)

def storeBCD (x : Nat) : Action τ Unit := do
  let i := (← get).index
  checkMemory .bcdStore i 3
  let v ← register x
  setMemory i (v / 100 : Nat)
  setMemory (i + 1) (v / 10 % 10 : Nat)
  setMemory (i + 2) (v % 10 : Nat)

def regDump (x : Nat) : Action τ Unit := do
  let i := (← get).index
  let count := x + 1
  checkMemory .registerDump i count
  let bytes ← slice (← get).registers 0 count
  storeMemory i (i + count) bytes

def regLoad (x : Nat) : Action τ Unit := do
  let i := (← get).index
  let count := x + 1
  checkMemory .registerLoad i count
  let bytes ← slice (← get).memory i (i + count)
  storeRegisters 0 count bytes

def drawFromMemory (x y n : Nat) : Action τ Unit := do
  let i := (← get).index
  checkMemory .spriteRead i n
  let vx ← register x
  let vy ← register y
  let rows ← slice (← get).memory i (i + n)
  let collision ← drawSprite vx vy (rows.map fun b => (b.toNat : Int))
  setFlag collision

def getKeyPress (x : Nat) : Action τ Unit := do
  -- the program counter has gone on already
  modify fun s => { s with pc := s.opPc }
  modify fun s => { s with runState := .awaitingKey }
  modify fun s => { s with keyTarget := some x }
  arm

/-- The slot of a machine that waits for a key. -/
def pollKeyWait : Action τ Unit := do
  match (← get).lastReleased with
  | none => return ()
  | some key =>
    if 0 ≤ key ∧ key < 16 then
      match (← get).keyTarget with
      | none => crash .noTarget
      | some x =>
        setRegister x key
        disarm
        modify fun s => { s with runState := .running }
        modify fun s => { s with keyTarget := none }
        modify fun s => { s with pc := s.pc + 2 }
    else
      crash .notKey

def perform : Instruction → Action τ Unit
  | .clearDisplay => clearDisplay
  | .ret => ret
  | .jump addr => modify fun s => { s with pc := addr }
  | .call addr => call addr
  | .skipEqVal x val => do skipIf ((← register x) == val)
  | .skipNotEqVal x val => do skipIf ((← register x) != val)
  | .skipEq x y => do skipIf ((← register x) == (← register y))
  | .setVal x val => setRegister x val
  | .addVal x val => do setRegister x (((← register x) + val) % 256)
  | .copy x y => do setRegister x (← register y)
  | .or x y => do setRegister x ((← register x) ||| (← register y) : Nat)
  | .and x y => do setRegister x ((← register x) &&& (← register y) : Nat)
  | .xor x y => do setRegister x ((← register x) ^^^ (← register y) : Nat)
  | .add x y => do
    let total := (← register x) + (← register y)
    setWithFlag x (total % 256) (255 < total)
  | .subtract x y => do
    let vx ← register x
    let vy ← register y
    setWithFlag x (((vx : Int) - vy) % 256) (vx ≥ vy)
  | .shiftRight x => do
    let v ← register x
    setWithFlag x (v / 2) (v % 2 == 1)
  | .difference x y => do
    let vx ← register x
    let vy ← register y
    setWithFlag x (((vy : Int) - vx) % 256) (vy ≥ vx)
  | .shiftLeft x => do
    let v ← register x
    setWithFlag x (2 * v % 256) (128 ≤ v)
  | .skipNotEq x y => do skipIf ((← register x) != (← register y))
  | .setIndex addr => modify fun s => { s with index := addr }
  | .jumpOffset addr => do
    let v ← register 0
    modify fun s => { s with pc := addr + v }
  | .rand x val => rand x val
  | .drawSprite x y n => drawFromMemory x y n
  | .skipKeyPressed x => do skipIf (← isPressed (← register x))
  | .skipKeyNotPressed x => do skipIf (!(← isPressed (← register x)))
  | .getDelayTimer x => do setRegister x (← get).delay
  | .getKeyPress x => getKeyPress x
  | .setDelayTimer x => do
    let v ← register x
    modify fun s => { s with delay := v }
  | .setSoundTimer x => do
    let v ← register x
    modify fun s => { s with sound := v }
  | .addIndex x => do
    let v ← register x
    modify fun s => { s with index := (s.index + v) % 65536 }
  | .setIndexCharacter x => do
    let v ← register x
    modify fun s => { s with index := v * glyphHeight }
  | .storeBCD x => storeBCD x
  | .regDump x => regDump x
  | .regLoad x => regLoad x

/-- Fetches an instruction and performs it. -/
def fetchAndPerform : Action τ Unit := do
  -- faults of the fetch and of the instruction take their address from here
  modify fun s => { s with opPc := s.pc }
  let s ← get
  if s.pc ≤ memorySize - 2 then
    let high ← entry s.memory s.pc
    let low ← entry s.memory (s.pc + 1 : Nat)
    let instruction := decode (high.toNat * 256 + low.toNat : Nat)
    modify fun s => { s with pc := s.pc + 2 }
    modify fun s => { s with count := s.count + 1 }
    match instruction with
    | none => return ()
    | some i => perform i
  else
    fault (.fetchOutside s.pc)

/-- What a slot does unless the machine is halted. -/
def step : Action τ Unit := do
  match (← get).runState with
  | .awaitingKey => pollKeyWait
  | .running => fetchAndPerform

/-- Runs one slot.  A fault halts the machine and goes on to the host. -/
def execute : Action τ Unit := do
  if (← get).halted then
    return ()
  else
    -- nothing that the step has changed is taken back
    try
      step
    catch e =>
      match e with
      | .trouble (.fault f) =>
        modify fun s => { s with halted := true }
        fault f
      | e => throw e

end BareMachine

end Chip8
