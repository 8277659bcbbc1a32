import Chip8.Proofs.Bare.Command
import Chip8.Proofs.Bare.Storage
import Chip8.Proofs.Invariant

/-!
# The bare machine does what the machine does

On the bare form of a machine that is inside its stores (`Machine.Fit`), each action of the bare machine ends as the
operation of the machine does: with the bare form of the machine after it, and early just if the operation refuses or
faults.  In particular it never crashes.
-/

namespace Chip8

open Chip8.Action

namespace BareMachine

variable {τ : Type} [TimeBase τ] (m : Machine τ) (p : Nat)

/-! ### Registers, memory and display -/

private theorem run_register {x : Nat} (h : x < 16) :
    (register x).run (ofMachine m p) = .ok (m.reg x).toNat (ofMachine m p) := by
  have found : (ofMachine m p).registers[x]? = some (m.reg x) := m.registers.getElem?_toList h
  unfold register
  rw [run_bind_of_ok (EStateM.run_get _), run_bind_of_ok (run_entry found _)]
  rfl

private theorem run_setRegister {x : Nat} (h : x < 16) {v : Int} {b : UInt8} (value : v = b.toNat) :
    (setRegister x v).run (ofMachine m p) = .ok () (ofMachine (m.setReg x b) p) := by
  have room : x < (ofMachine m p).registers.length := by simp [ofMachine, h]
  have stored : (ofMachine m p).registers.set x b = (m.registers.set x b).bytes.toList :=
    (m.registers.toList_set h b).symm
  unfold setRegister
  rw [value, run_bind_of_ok (run_byte b _), run_bind_of_ok (EStateM.run_get _), run_bind_of_ok (run_replace room b _),
    stored]
  rfl

private theorem run_setFlag (flag : Bool) :
    (setFlag flag).run (ofMachine m p) = .ok () (ofMachine (m.setFlag flag) p) := by
  apply run_setRegister m p (by decide)
  cases flag <;> rfl

private theorem run_setWithFlag {x : Nat} (h : x < 16) {v : Int} {b : UInt8} (value : v = b.toNat)
    {c d : Prop} [Decidable c] [Decidable d] (flag : c ↔ d) :
    (setWithFlag x v (decide c)).run (ofMachine m p) = .ok () (ofMachine ((m.setReg x b).setFlag (decide d)) p) := by
  unfold setWithFlag
  rw [run_bind_of_ok (run_setRegister m p h value), decide_eq_decide.2 flag]
  exact run_setFlag _ p _

private theorem run_skipIf (condition : Bool) :
    (skipIf condition).run (ofMachine m p) = .ok () (ofMachine (m.skipIf condition) p) := by
  cases condition <;> rfl

private theorem run_isPressed (key : Int) :
    (isPressed key).run (ofMachine m p) = .ok (m.keypad.isPressed key) (ofMachine m p) := by
  unfold isPressed Keypad.isPressed
  cases found : Key.ofInt? key with
  | none =>
    rw [if_neg ((Key.ofInt?_eq_none_iff key).1 found)]
    rfl
  | some k =>
    obtain rfl := Key.eq_val_of_ofInt? found
    have held : (ofMachine m p).pressed[k.val]? = some m.keypad.held[k] := by simp [ofMachine]
    rw [if_pos (by omega), run_bind_of_ok (EStateM.run_get _)]
    exact run_entry held _

private theorem run_checkMemory (access : Access) {start length : Nat} (room : start + length ≤ 4096) :
    (checkMemory access start length).run (ofMachine m p) = .ok () (ofMachine m p) := by
  unfold checkMemory
  rw [if_neg (by unfold memorySize; omega)]
  rfl

private theorem run_checkMemory_outside (access : Access) {start length : Nat} (far : ¬start + length ≤ 4096) :
    (checkMemory access start length).run (ofMachine m p) =
      .error (.trouble (.fault (.accessOutside access start length p))) (ofMachine m p) := by
  unfold checkMemory
  rw [if_pos (by unfold memorySize; omega)]
  rfl

private theorem run_setMemory {a : Nat} (room : a < 4096) (b : UInt8) :
    (setMemory a (b.toNat : Int)).run (ofMachine m p) =
      .ok () (ofMachine { m with memory := m.memory.store a [b] } p) := by
  have place : a < (ofMachine m p).memory.length := by simp [ofMachine, room]
  have stored : (ofMachine m p).memory.set a b = (m.memory.store a [b]).cells.toList := by
    simp [ofMachine, Memory.store]
  unfold setMemory
  rw [run_bind_of_ok (run_byte b _), run_bind_of_ok (EStateM.run_get _), run_bind_of_ok (run_replace place b _),
    stored]
  rfl

theorem run_storeMemory {start stop : Nat} {data : List UInt8} (room : start + data.length = stop)
    (inside : stop ≤ 4096) :
    (storeMemory start stop data).run (ofMachine m p) =
      .ok () (ofMachine { m with memory := m.memory.store start data } p) := by
  have length : (ofMachine m p).memory.length = 4096 := by simp [ofMachine]
  have stored : (ofMachine m p).memory.take start ++ data ++ (ofMachine m p).memory.drop stop =
      (m.memory.store start data).cells.toList := by
    rw [m.memory.toList_store start data (by omega), room]
    rfl
  unfold storeMemory
  rw [run_bind_of_ok (EStateM.run_get _), run_bind_of_ok (run_exchange (by omega) (by omega) data _), stored]
  rfl

theorem run_storeRegisters {stop : Nat} {data : List UInt8} (room : data.length = stop) (inside : stop ≤ 16) :
    (storeRegisters 0 stop data).run (ofMachine m p) =
      .ok () (ofMachine { m with registers := m.registers.setFrom 0 data } p) := by
  have length : (ofMachine m p).registers.length = 16 := by simp [ofMachine]
  have stored : (ofMachine m p).registers.take 0 ++ data ++ (ofMachine m p).registers.drop stop =
      (m.registers.setFrom 0 data).bytes.toList := by
    rw [m.registers.toList_setFrom 0 data (by omega), Nat.zero_add, room]
    rfl
  unfold storeRegisters
  rw [run_bind_of_ok (EStateM.run_get _), run_bind_of_ok (run_exchange (by omega) (by omega) data _), stored]
  rfl

theorem map_lamp_blank : Display.blank.pixels.toList.map lamp = List.replicate 2048 0 := by
  unfold Display.blank
  rw [Vector.toList_replicate, List.map_replicate]
  rfl

theorem run_clearDisplay :
    clearDisplay.run (ofMachine m p) = .ok () (ofMachine { m with display := Display.blank } p) := by
  unfold clearDisplay
  rw [run_bind_of_ok (EStateM.run_get _), run_bind_of_ok (EStateM.run_get _),
    run_bind_of_ok (run_exchange_all _ _ _), ← map_lamp_blank]
  rfl

private theorem run_flipPixel (c : Cell) :
    (flipPixel c.val).run (ofMachine m p) =
      .ok (m.display.isLit c) (ofMachine { m with display := m.display.flip c } p) := by
  have found : (ofMachine m p).pixels[c.val]? = some (lamp (m.display.isLit c)) := by
    simp [ofMachine, Display.isLit]
  have room : c.val < (ofMachine m p).pixels.length := by simp [ofMachine]
  have value : (((lamp (m.display.isLit c)).toNat ^^^ 1 : Nat) : Int) = ((lamp (!m.display.isLit c)).toNat : Int) := by
    cases m.display.isLit c <;> rfl
  have stored : (ofMachine m p).pixels.set c.val (lamp (!m.display.isLit c)) =
      (m.display.flip c).pixels.toList.map lamp := by
    simp [ofMachine, Display.flip, Display.isLit, Vector.toList_set, List.map_set]
  unfold flipPixel
  rw [run_bind_of_ok (EStateM.run_get _), run_bind_of_ok (run_entry found _), value,
    run_bind_of_ok (run_byte _ _), run_bind_of_ok (EStateM.run_get _), run_bind_of_ok (run_replace room _ _),
    run_bind_of_ok (EStateM.run_modify _ _), stored, EStateM.run_pure]
  congr 1
  cases m.display.isLit c <;> rfl

private theorem run_drawColumns (x y : Nat) (row : Int) (columns : List Nat) :
    (drawColumns x (y % 32 * 64) row columns).run (ofMachine m p) =
      .ok (m.display.flips ((columns.filter (rowBit row)).map fun c => cell (x + c) y)).2
        (ofMachine { m with
          display := (m.display.flips ((columns.filter (rowBit row)).map fun c => cell (x + c) y)).1 } p) := by
  induction columns generalizing m with
  | nil => rfl
  | cons c columns ih =>
    unfold drawColumns
    cases bit : rowBit row c with
    | false =>
      rw [List.filter_cons_of_neg (by simp [bit])]
      exact ih m
    | true =>
      have flipped : (flipPixel (y % 32 * 64 + (x + c) % 64)).run (ofMachine m p) = _ :=
        run_flipPixel m p (cell (x + c) y)
      rw [List.filter_cons_of_pos (by simp [bit])]
      simp only [if_true]
      rw [run_bind_of_ok flipped, run_bind_of_ok (ih _)]
      rfl

private theorem run_drawRows (x y : Nat) (rows : List Int) :
    (drawRows x y rows).run (ofMachine m p) =
      .ok (m.display.flips (spriteCells x y rows)).2
        (ofMachine { m with display := (m.display.flips (spriteCells x y rows)).1 } p) := by
  induction rows generalizing m y with
  | nil => rfl
  | cons row rows ih =>
    unfold drawRows
    rw [run_bind_of_ok (run_drawColumns m p x y row _), run_bind_of_ok (ih _ _), spriteCells, Display.flips_append]
    rfl

theorem run_drawSprite (x y : Nat) (rows : List Int) :
    (drawSprite x y rows).run (ofMachine m p) =
      .ok (m.display.drawSprite x y rows).2 (ofMachine { m with display := (m.display.drawSprite x y rows).1 } p) := by
  unfold drawSprite Display.drawSprite
  by_cases inside : x < 64 ∧ y < 32
  · rw [if_pos inside, if_pos (by omega)]
    exact run_drawRows m p x y rows
  · rw [if_neg inside, if_neg (by omega)]
    rfl

/-! ### Instructions -/

/-- The end of an action that performs an instruction: the bare form of the machine after it, or the machine as it
was and the fault. -/
private def performed (p : Nat) (m : Machine τ) : Except Fault (Machine τ) → EStateM.Result Stop (BareMachine τ) Unit
  | .ok n => .ok () (ofMachine n p)
  | .error f => .error (.trouble (.fault f)) (ofMachine m p)

private theorem run_ret (fit : m.Fit) : ret.run (ofMachine m p) = performed p m (m.perform p .ret) := by
  have depth := fit.depth
  unfold ret
  rw [run_bind_of_ok (EStateM.run_get _)]
  by_cases empty : m.stack.depth = 0
  · have none : m.stack.pop? = none := by simp [CallStack.pop?, empty]
    have zero : (ofMachine m p).stackPointer = 0 := by simp [ofMachine, empty]
    rw [if_pos zero]
    simp only [Machine.perform, none]
    rfl
  · -- the only access whose place was counted down
    obtain ⟨k, hk⟩ : ∃ k, m.stack.depth = k + 1 := ⟨m.stack.depth - 1, by omega⟩
    have small : k < 16 := by omega
    have nonzero : (ofMachine m p).stackPointer ≠ 0 := by simp [ofMachine, empty]
    have top : m.stack.pop? = some (m.stack.slots[k], { m.stack with depth := k }) := by
      simp [CallStack.pop?, hk, small]
    have pointer : (ofMachine m p).stackPointer - 1 = (k : Int) := by simp [ofMachine, hk]
    have found : (ofMachine m p).stack[k]? = some m.stack.slots[k] := by simp [ofMachine, small]
    rw [if_neg nonzero, run_bind_of_ok (EStateM.run_modify _ _), run_bind_of_ok (EStateM.run_get _),
      run_bind_of_ok (EStateM.run_get _), pointer, run_bind_of_ok (run_entry found _)]
    simp only [Machine.perform, top]
    rfl

private theorem run_call (addr : Nat) :
    (call addr).run (ofMachine m p) = performed p m (m.perform p (.call addr)) := by
  unfold call
  rw [run_bind_of_ok (EStateM.run_get _)]
  by_cases room : m.stack.depth < 16
  · have pushed : m.stack.push? m.pc = some ⟨m.stack.slots.set m.stack.depth m.pc, m.stack.depth + 1⟩ := by
      simp [CallStack.push?, room]
    have below : ¬(ofMachine m p).stackPointer ≥ 16 := by simp [ofMachine]; omega
    have place : m.stack.depth < (ofMachine m p).stack.length := by simp [ofMachine, room]
    have stored : (ofMachine m p).stack.set m.stack.depth m.pc =
        (m.stack.slots.set m.stack.depth m.pc).toList := by simp [ofMachine, Vector.toList_set]
    rw [if_neg below]
    have written : (replace (ofMachine m p).stack (ofMachine m p).stackPointer (ofMachine m p).pc).run
        (ofMachine m p) = .ok _ (ofMachine m p) := run_replace place m.pc _
    rw [run_bind_of_ok written, stored]
    simp only [Machine.perform, pushed]
    rfl
  · have full : m.stack.push? m.pc = none := by simp [CallStack.push?, room]
    have above : (ofMachine m p).stackPointer ≥ 16 := by simp [ofMachine]; omega
    rw [if_pos above]
    simp only [Machine.perform, full]
    rfl

private theorem run_rand {x val : Nat} (hx : x < 16) (hval : val < 256) :
    (rand x val).run (ofMachine m p) = performed p m (m.perform p (.rand x val)) := by
  have value : ((m.random.draw.1.toNat &&& val : Nat) : Int) = ((m.random.draw.1 &&& UInt8.ofNat val).toNat : Int) := by
    rw [UInt8.toNat_and, UInt8.toNat_ofNat', Nat.mod_eq_of_lt hval]
  unfold rand
  rw [run_bind_of_ok (EStateM.run_get _), run_bind_of_ok (EStateM.run_modify _ _)]
  exact run_setRegister { m with random := m.random.draw.2 } p hx value

private theorem run_storeBCD {x : Nat} (h : x < 16) :
    (storeBCD x).run (ofMachine m p) = performed p m (m.perform p (.storeBCD x)) := by
  unfold storeBCD
  rw [run_bind_of_ok (EStateM.run_get _)]
  have index : (ofMachine m p).index = m.index := rfl
  simp only [index]
  by_cases room : m.index + 3 ≤ 4096
  · have hundreds : (((m.reg x).toNat / 100 : Nat) : Int) = ((m.reg x / 100).toNat : Int) := by
      rw [UInt8.toNat_div]; rfl
    have tens : (((m.reg x).toNat / 10 % 10 : Nat) : Int) = ((m.reg x / 10 % 10).toNat : Int) := by
      rw [UInt8.toNat_mod, UInt8.toNat_div]; rfl
    have units : (((m.reg x).toNat % 10 : Nat) : Int) = ((m.reg x % 10).toNat : Int) := by
      rw [UInt8.toNat_mod]; rfl
    have written : m.memory.write? m.index (Machine.decimalDigits (m.reg x)) =
        some (m.memory.store m.index (Machine.decimalDigits (m.reg x))) := if_pos room
    rw [run_bind_of_ok (run_checkMemory m p .bcdStore room), run_bind_of_ok (run_register m p h), hundreds, tens, units,
      run_bind_of_ok (run_setMemory m p (by omega) _), run_bind_of_ok (run_setMemory _ p (by omega) _),
      run_setMemory _ p (by omega)]
    simp only [Machine.perform, written]
    rfl
  · have refused : m.memory.write? m.index (Machine.decimalDigits (m.reg x)) = none := if_neg room
    rw [run_bind_of_error (run_checkMemory_outside m p .bcdStore room)]
    simp only [Machine.perform, refused]
    rfl

private theorem run_regDump {x : Nat} (h : x < 16) :
    (regDump x).run (ofMachine m p) = performed p m (m.perform p (.regDump x)) := by
  have bytes : ((ofMachine m p).registers.take (x + 1)).drop 0 = m.registers.first (x + 1) :=
    (m.registers.first_eq_take h).symm
  have length : (m.registers.first (x + 1)).length = x + 1 := by simp [Registers.first]
  have index : (ofMachine m p).index = m.index := rfl
  unfold regDump
  rw [run_bind_of_ok (EStateM.run_get _)]
  simp only [index]
  by_cases room : m.index + (x + 1) ≤ 4096
  · have written : m.memory.write? m.index (m.registers.first (x + 1)) =
        some (m.memory.store m.index (m.registers.first (x + 1))) := if_pos (by rw [length]; exact room)
    rw [run_bind_of_ok (run_checkMemory m p .registerDump room), run_bind_of_ok (EStateM.run_get _),
      run_bind_of_ok (run_slice (Nat.zero_le _) (by simp [ofMachine]; omega) _), bytes,
      run_storeMemory m p (by rw [length]) room]
    simp only [Machine.perform, written]
    rfl
  · have refused : m.memory.write? m.index (m.registers.first (x + 1)) = none :=
      if_neg (by rw [length]; exact room)
    rw [run_bind_of_error (run_checkMemory_outside m p .registerDump room)]
    simp only [Machine.perform, refused]
    rfl

private theorem run_regLoad {x : Nat} (h : x < 16) :
    (regLoad x).run (ofMachine m p) = performed p m (m.perform p (.regLoad x)) := by
  have index : (ofMachine m p).index = m.index := rfl
  unfold regLoad
  rw [run_bind_of_ok (EStateM.run_get _)]
  simp only [index]
  by_cases room : m.index + (x + 1) ≤ 4096
  · have length : (((ofMachine m p).memory.take (m.index + (x + 1))).drop m.index).length = x + 1 := by
      simp [ofMachine]; omega
    have read : m.memory.read? m.index (x + 1) =
        some (((ofMachine m p).memory.take (m.index + (x + 1))).drop m.index) := by
      rw [m.memory.read?_eq, if_pos room]
      rfl
    rw [run_bind_of_ok (run_checkMemory m p .registerLoad room), run_bind_of_ok (EStateM.run_get _),
      run_bind_of_ok (run_slice (by omega) (by simp [ofMachine]; omega) _), run_storeRegisters m p length h]
    simp only [Machine.perform, read]
    rfl
  · have refused : m.memory.read? m.index (x + 1) = none := by rw [m.memory.read?_eq, if_neg room]
    rw [run_bind_of_error (run_checkMemory_outside m p .registerLoad room)]
    simp only [Machine.perform, refused]
    rfl

private theorem run_drawFromMemory {x y : Nat} (hx : x < 16) (hy : y < 16) (n : Nat) :
    (drawFromMemory x y n).run (ofMachine m p) = performed p m (m.perform p (.drawSprite x y n)) := by
  unfold drawFromMemory
  rw [run_bind_of_ok (EStateM.run_get _)]
  have index : (ofMachine m p).index = m.index := rfl
  simp only [index]
  by_cases room : m.index + n ≤ 4096
  · have read : m.memory.read? m.index n =
        some (((ofMachine m p).memory.take (m.index + n)).drop m.index) := by
      rw [m.memory.read?_eq, if_pos room]
      rfl
    rw [run_bind_of_ok (run_checkMemory m p .spriteRead room), run_bind_of_ok (run_register m p hx),
      run_bind_of_ok (run_register m p hy), run_bind_of_ok (EStateM.run_get _),
      run_bind_of_ok (run_slice (by omega) (by simp [ofMachine]; omega) _), run_bind_of_ok (run_drawSprite m p _ _ _),
      run_setFlag]
    simp only [Machine.perform, read]
    rfl
  · have refused : m.memory.read? m.index n = none := by rw [m.memory.read?_eq, if_neg room]
    rw [run_bind_of_error (run_checkMemory_outside m p .spriteRead room)]
    simp only [Machine.perform, refused]
    rfl

private theorem cast_ofNat {v : Nat} (h : v < 256) : (v : Int) = ((UInt8.ofNat v).toNat : Int) := by
  rw [UInt8.toNat_ofNat', Nat.mod_eq_of_lt h]

private theorem cast_add (a b : UInt8) : ((a.toNat : Int) + b.toNat) % 256 = ((a + b).toNat : Int) := by
  rw [UInt8.toNat_add]
  omega

private theorem cast_sub (a b : UInt8) : ((a.toNat : Int) - b.toNat) % 256 = ((a - b).toNat : Int) := by
  have ha := a.toNat_lt
  have hb := b.toNat_lt
  rw [UInt8.toNat_sub]
  omega

private theorem run_read {x : Nat} (h : x < 16) (f : Nat → Action τ Unit) :
    (register x >>= f).run (ofMachine m p) = (f (m.reg x).toNat).run (ofMachine m p) :=
  run_bind_of_ok (run_register m p h) f

/-- An instruction does on the bare form of a machine what it does on the machine. -/
private theorem run_perform (fit : m.Fit) {i : Instruction} (fits : i.Fits) :
    (perform i).run (ofMachine m p) = performed p m (m.perform p i) := by
  cases i with
  | clearDisplay => exact run_clearDisplay m p
  | ret => exact run_ret m p fit
  | jump addr => rfl
  | call addr => exact run_call m p addr
  | skipEqVal x val | skipNotEqVal x val =>
    have hx : x < 16 := fits _ (.head _)
    unfold perform
    rw [run_read m p hx]
    exact run_skipIf m p _
  | skipEq x y =>
    have hx : x < 16 := fits _ (.head _)
    have hy : y < 16 := fits _ (.tail _ (.head _))
    have test : ((m.reg x).toNat == (m.reg y).toNat) = (m.reg x == m.reg y) := by
      rw [Bool.eq_iff_iff, beq_iff_eq, beq_iff_eq, UInt8.toNat_inj]
    unfold perform
    rw [run_read m p hx, run_read m p hy, test]
    exact run_skipIf m p _
  | skipNotEq x y =>
    have hx : x < 16 := fits _ (.head _)
    have hy : y < 16 := fits _ (.tail _ (.head _))
    have test : ((m.reg x).toNat != (m.reg y).toNat) = (m.reg x != m.reg y) := by
      rw [Bool.eq_iff_iff, bne_iff_ne, bne_iff_ne, ne_eq, ne_eq, UInt8.toNat_inj]
    unfold perform
    rw [run_read m p hx, run_read m p hy, test]
    exact run_skipIf m p _
  | setVal x val =>
    have hx : x < 16 := fits _ (.head _)
    have hval : val < 256 := fits _ (.tail _ (.head _))
    exact run_setRegister m p hx (cast_ofNat hval)
  | addVal x val =>
    have hx : x < 16 := fits _ (.head _)
    have hval : val < 256 := fits _ (.tail _ (.head _))
    unfold perform
    rw [run_read m p hx, cast_ofNat hval]
    exact run_setRegister m p hx (cast_add _ _)
  | copy x y =>
    have hx : x < 16 := fits _ (.head _)
    have hy : y < 16 := fits _ (.tail _ (.head _))
    unfold perform
    rw [run_read m p hy]
    exact run_setRegister m p hx rfl
  | or x y =>
    have hx : x < 16 := fits _ (.head _)
    have hy : y < 16 := fits _ (.tail _ (.head _))
    unfold perform
    rw [run_read m p hx, run_read m p hy, ← UInt8.toNat_or]
    exact run_setRegister m p hx rfl
  | and x y =>
    have hx : x < 16 := fits _ (.head _)
    have hy : y < 16 := fits _ (.tail _ (.head _))
    unfold perform
    rw [run_read m p hx, run_read m p hy, ← UInt8.toNat_and]
    exact run_setRegister m p hx rfl
  | xor x y =>
    have hx : x < 16 := fits _ (.head _)
    have hy : y < 16 := fits _ (.tail _ (.head _))
    unfold perform
    rw [run_read m p hx, run_read m p hy, ← UInt8.toNat_xor]
    exact run_setRegister m p hx rfl
  | add x y =>
    have hx : x < 16 := fits _ (.head _)
    have hy : y < 16 := fits _ (.tail _ (.head _))
    unfold perform
    rw [run_read m p hx, run_read m p hy]
    exact run_setWithFlag m p hx (cast_add _ _) Iff.rfl
  | subtract x y | difference x y =>
    have hx : x < 16 := fits _ (.head _)
    have hy : y < 16 := fits _ (.tail _ (.head _))
    unfold perform
    rw [run_read m p hx, run_read m p hy]
    exact run_setWithFlag m p hx (cast_sub _ _) UInt8.le_iff_toNat_le.symm
  | shiftRight x =>
    have hx : x < 16 := fits _ (.head _)
    have half : ((m.reg x).toNat : Int) / 2 = ((m.reg x / 2).toNat : Int) := by
      rw [UInt8.toNat_div]
      rfl
    unfold perform
    rw [run_read m p hx]
    exact run_setWithFlag m p hx half Iff.rfl
  | shiftLeft x =>
    have hx : x < 16 := fits _ (.head _)
    have high : 128 ≤ (m.reg x).toNat ↔ 128 ≤ m.reg x := by
      rw [UInt8.le_iff_toNat_le]
      rfl
    have double : 2 * ((m.reg x).toNat : Int) % 256 = ((m.reg x + m.reg x).toNat : Int) := by
      rw [← cast_add]
      omega
    unfold perform
    rw [run_read m p hx]
    exact run_setWithFlag m p hx double high
  | setIndex addr => rfl
  | jumpOffset addr =>
    unfold perform
    rw [run_read m p (by decide)]
    rfl
  | rand x val =>
    have hx : x < 16 := fits _ (.head _)
    have hval : val < 256 := fits _ (.tail _ (.head _))
    exact run_rand m p hx hval
  | drawSprite x y n =>
    have hx : x < 16 := fits _ (.head _)
    have hy : y < 16 := fits _ (.tail _ (.head _))
    exact run_drawFromMemory m p hx hy n
  | skipKeyPressed x | skipKeyNotPressed x =>
    have hx : x < 16 := fits _ (.head _)
    unfold perform
    rw [run_read m p hx, run_bind_of_ok (run_isPressed m p _)]
    exact run_skipIf m p _
  | getDelayTimer x =>
    have hx : x < 16 := fits _ (.head _)
    have value : (ofMachine m p).delay = m.delay.toNat := rfl
    unfold perform
    rw [run_bind_of_ok (EStateM.run_get _)]
    exact run_setRegister m p hx value
  | getKeyPress x => rfl
  | setDelayTimer x | setSoundTimer x =>
    have hx : x < 16 := fits _ (.head _)
    unfold perform
    rw [run_read m p hx]
    rfl
  | addIndex x =>
    have hx : x < 16 := fits _ (.head _)
    unfold perform
    rw [run_read m p hx]
    rfl
  | setIndexCharacter x =>
    have hx : x < 16 := fits _ (.head _)
    unfold perform
    rw [run_read m p hx]
    rfl
  | storeBCD x =>
    have hx : x < 16 := fits _ (.head _)
    exact run_storeBCD m p hx
  | regDump x =>
    have hx : x < 16 := fits _ (.head _)
    exact run_regDump m p hx
  | regLoad x =>
    have hx : x < 16 := fits _ (.head _)
    exact run_regLoad m p hx

/-! ### Slots -/

/-- The end of an action that goes as an operation of the machine: the bare form of the machine after it, and the
fault, if there was one. -/
def ending (p : Nat) : Machine τ × Option Fault → EStateM.Result Stop (BareMachine τ) Unit
  | (m, none) => .ok () (ofMachine m p)
  | (m, some f) => .error (.trouble (.fault f)) (ofMachine m p)

/-- The address of the instruction that was fetched last, after a slot. -/
def fetchedAt (m : Machine τ) (p : Nat) : Nat := if m.halted = false ∧ m.awaiting = none then m.pc else p

private theorem run_pollKeyWait {x : Nat} (h : x < 16) (waits : m.awaiting = some x) :
    pollKeyWait.run (ofMachine m p) = .ok () (ofMachine (m.poll x) p) := by
  have target : (ofMachine m p).keyTarget = some x := waits
  unfold pollKeyWait Machine.poll
  rw [run_bind_of_ok (EStateM.run_get _)]
  cases released : m.keypad.released with
  | none =>
    have last : (ofMachine m p).lastReleased = none := by simp [ofMachine, released]
    rw [last]
    rfl
  | some k =>
    have last : (ofMachine m p).lastReleased = some (k.val : Int) := by simp [ofMachine, released]
    have value : (k.val : Int) = ((UInt8.ofNat k.val).toNat : Int) := cast_ofNat (by omega)
    simp only [last]
    rw [if_pos (by omega), run_bind_of_ok (EStateM.run_get _), target]
    simp only []
    rw [run_bind_of_ok (run_setRegister m p h value)]
    rfl

private theorem run_fetchAndPerform (fit : m.Fit) :
    fetchAndPerform.run (ofMachine m p) =
      match m.memory.fetch? m.pc with
      | none => .error (.trouble (.fault (.fetchOutside m.pc))) (ofMachine m m.pc)
      | some word =>
        match decode word with
        | none => .ok () (ofMachine m.advance m.pc)
        | some i => performed m.pc m.advance (m.advance.perform m.pc i) := by
  have here : ({ ofMachine m p with opPc := (ofMachine m p).pc } : BareMachine τ) = ofMachine m m.pc := rfl
  unfold fetchAndPerform
  rw [run_bind_of_ok (EStateM.run_modify _ _), here, run_bind_of_ok (EStateM.run_get _)]
  by_cases inside : m.pc ≤ 4094
  · obtain ⟨high, low, first, second, fetched⟩ := m.memory.fetch?_eq inside
    have first : (ofMachine m m.pc).memory[(ofMachine m m.pc).pc]? = some high := first
    have second : (ofMachine m m.pc).memory[(ofMachine m m.pc).pc + 1]? = some low := second
    have bound : (ofMachine m m.pc).pc ≤ memorySize - 2 := inside
    rw [fetched, if_pos bound, run_bind_of_ok (run_entry first _), run_bind_of_ok (run_entry second _)]
    simp only []
    rw [run_bind_of_ok (EStateM.run_modify _ _), run_bind_of_ok (EStateM.run_modify _ _)]
    cases decoded : decode (high.toNat * 256 + low.toNat : Nat) with
    | none => rfl
    | some i =>
      have fit' : m.advance.Fit := { fit with }
      exact run_perform m.advance m.pc fit' (fits_of_decode decoded)
  · have bound : ¬(ofMachine m m.pc).pc ≤ memorySize - 2 := inside
    rw [if_neg bound, (m.memory.fetch?_eq_none_iff m.pc).2 (by omega)]
    rfl

omit [TimeBase τ] in
private theorem run_execute_of_ok {s t : BareMachine τ} (on : s.halted = false) (h : step.run s = .ok () t) :
    execute.run s = .ok () t := by
  unfold execute
  rw [run_bind_of_ok (EStateM.run_get _), on]
  change EStateM.tryCatch step _ s = _
  unfold EStateM.tryCatch
  rw [show step s = .ok () t from h]

omit [TimeBase τ] in
private theorem run_execute_of_fault {s t : BareMachine τ} (on : s.halted = false) {f : Fault}
    (h : step.run s = .error (.trouble (.fault f)) t) :
    execute.run s = .error (.trouble (.fault f)) { t with halted := true } := by
  unfold execute
  rw [run_bind_of_ok (EStateM.run_get _), on]
  change EStateM.tryCatch step _ s = _
  unfold EStateM.tryCatch
  rw [show step s = .error (.trouble (.fault f)) t from h]
  rfl

/-- A slot does on the bare form of a machine what it does on the machine. -/
theorem run_execute (fit : m.Fit) : execute.run (ofMachine m p) = ending (fetchedAt m p) m.execute := by
  have slot := m.slot_execute
  generalize m.execute = r at slot ⊢
  have runs_at : m.halted = false → m.awaiting = none → fetchedAt m p = m.pc := fun on runs => if_pos ⟨on, runs⟩
  have step_of_runs : m.awaiting = none → step.run (ofMachine m p) = fetchAndPerform.run (ofMachine m p) := by
    intro runs
    have state : (ofMachine m p).runState = .running := by simp [ofMachine, runs]
    unfold step
    rw [run_bind_of_ok (EStateM.run_get _), state]
  -- a slot that does not fetch leaves the address of the last instruction alone
  cases slot with
  | idle halted =>
    have at' : fetchedAt m p = p := by simp [fetchedAt, halted]
    have off : (ofMachine m p).halted = true := halted
    unfold execute
    rw [run_bind_of_ok (EStateM.run_get _), if_pos off, at']
    rfl
  | poll on waits =>
    have at' : fetchedAt m p = p := by simp [fetchedAt, waits]
    have state : (ofMachine m p).runState = .awaitingKey := by simp [ofMachine, waits]
    apply run_execute_of_ok on
    unfold step
    rw [run_bind_of_ok (EStateM.run_get _), state, at']
    exact run_pollKeyWait m p (fit.target _ waits) waits
  | outside on runs far =>
    have fetch := run_fetchAndPerform m p fit
    rw [(m.memory.fetch?_eq_none_iff m.pc).2 far] at fetch
    rw [run_execute_of_fault on ((step_of_runs runs).trans fetch), runs_at on runs]
    rfl
  | unknown on runs fetched unknown =>
    have fetch := run_fetchAndPerform m p fit
    simp only [fetched, unknown] at fetch
    rw [run_execute_of_ok on ((step_of_runs runs).trans fetch), runs_at on runs]
    rfl
  | done on runs fetched decoded done =>
    have fetch := run_fetchAndPerform m p fit
    simp only [fetched, decoded, done] at fetch
    rw [run_execute_of_ok on ((step_of_runs runs).trans fetch), runs_at on runs]
    rfl
  | faulted on runs fetched decoded fault =>
    have fetch := run_fetchAndPerform m p fit
    simp only [fetched, decoded, fault] at fetch
    rw [run_execute_of_fault on ((step_of_runs runs).trans fetch), runs_at on runs]
    rfl

end BareMachine

end Chip8
