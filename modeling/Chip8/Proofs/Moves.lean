import Chip8.Proofs.Slot

/-!
# Moves

A tick runs some slots and then counts the timers down some number of times.  A `Move` is one of these things, or an
event on the keypad, so that a history without loading and resetting is a list of moves.

* `Machine.play` makes moves;
* the deadlines and the way to deal with late ticks decide which moves a tick consists of, but not what a move does:
  making moves commutes with changing them (`play_retime`).
-/

namespace Chip8

/-- Something that happens to a machine at one moment. -/
inductive Move where
  | slot
  | timers
  | setKey (key : Int) (pressed : Bool)
  | releaseAll
deriving DecidableEq

namespace Machine

variable {τ : Type}

def move (m : Machine τ) : Move → Machine τ
  | .slot => m.execute.1
  | .timers => m.stepTimers
  | .setKey key pressed => { m with keypad := m.keypad.set key pressed }
  | .releaseAll => { m with keypad := m.keypad.releaseAll }

def play (m : Machine τ) : List Move → Machine τ
  | [] => m
  | v :: vs => (m.move v).play vs

/-- Does every slot among some moves find the machine as described? -/
def everySlot (p : Machine τ → Bool) (m : Machine τ) : List Move → Bool
  | [] => true
  | v :: vs => (v != .slot || p m) && (m.move v).everySlot p vs

/-- The machine with other deadlines and another way to deal with late ticks. -/
def retime (m : Machine τ) (schedule : Option (Schedule τ)) (catchUp : Bool) : Machine τ :=
  { m with schedule := schedule, catchUp := catchUp }

theorem play_append (m : Machine τ) (vs ws : List Move) : m.play (vs ++ ws) = (m.play vs).play ws := by
  induction vs generalizing m with
  | nil => rfl
  | cons v vs ih => exact ih (m.move v)

theorem everySlot_cons {p : Machine τ → Bool} {m : Machine τ} {v : Move} {vs : List Move} :
    m.everySlot p (v :: vs) = true ↔ (v = .slot → p m = true) ∧ (m.move v).everySlot p vs = true := by
  rw [everySlot, Bool.and_eq_true, Bool.or_eq_true, bne_iff_ne, Decidable.imp_iff_not_or]

theorem retime_retime (m : Machine τ) (s s' : Option (Schedule τ)) (b b' : Bool) :
    (m.retime s b).retime s' b' = m.retime s' b' := rfl

private theorem skipIf_retime (m : Machine τ) (s : Option (Schedule τ)) (b c : Bool) :
    (m.retime s b).skipIf c = (m.skipIf c).retime s b := by
  unfold skipIf
  split <;> rfl

/-- What an instruction does depends neither on the deadlines nor on the way to deal with late ticks. -/
theorem perform_retime (m : Machine τ) (s : Option (Schedule τ)) (b : Bool) (here : Nat) (i : Instruction) :
    (m.retime s b).perform here i = (m.perform here i).map fun n => n.retime s b := by
  cases i with
  | ret =>
    simp only [perform, retime]
    cases m.stack.pop? <;> rfl
  | call addr =>
    simp only [perform, retime]
    cases m.stack.push? m.pc <;> rfl
  | drawSprite x y n =>
    simp only [perform, retime]
    cases m.memory.read? m.index n <;> rfl
  | storeBCD x =>
    simp only [perform, retime, reg]
    cases m.memory.write? m.index (decimalDigits (m.registers.get x)) <;> rfl
  | regDump x =>
    simp only [perform, retime]
    cases m.memory.write? m.index (m.registers.first (x + 1)) <;> rfl
  | regLoad x =>
    simp only [perform, retime]
    cases m.memory.read? m.index (x + 1) <;> rfl
  | skipEqVal x val => exact congrArg Except.ok (skipIf_retime m s b _)
  | skipNotEqVal x val => exact congrArg Except.ok (skipIf_retime m s b _)
  | skipEq x y => exact congrArg Except.ok (skipIf_retime m s b _)
  | skipNotEq x y => exact congrArg Except.ok (skipIf_retime m s b _)
  | skipKeyPressed x => exact congrArg Except.ok (skipIf_retime m s b _)
  | skipKeyNotPressed x => exact congrArg Except.ok (skipIf_retime m s b _)
  | _ => rfl

theorem poll_retime (m : Machine τ) (s : Option (Schedule τ)) (b : Bool) (x : Nat) :
    (m.retime s b).poll x = (m.poll x).retime s b := by
  simp only [poll, retime]
  cases m.keypad.released <;> rfl

/-- What a slot does depends neither on the deadlines nor on the way to deal with late ticks. -/
theorem execute_retime (m : Machine τ) (s : Option (Schedule τ)) (b : Bool) :
    (m.retime s b).execute = (m.execute.1.retime s b, m.execute.2) := by
  have slot := m.slot_execute
  generalize m.execute = r at slot ⊢
  apply Slot.eq_execute
  cases slot with
  | idle halted => exact .idle halted
  | poll on waits =>
    rw [← poll_retime]
    exact Slot.poll (m := m.retime s b) on waits
  | outside on runs far => exact .outside on runs far
  | unknown on runs fetched unknown => exact .unknown on runs fetched unknown
  | done on runs fetched decoded done =>
    have same := perform_retime m.advance s b m.pc ‹Instruction›
    rw [done] at same
    exact Slot.done (m := m.retime s b) on runs fetched decoded same
  | faulted on runs fetched decoded fault =>
    have same := perform_retime m.advance s b m.pc ‹Instruction›
    rw [fault] at same
    exact Slot.faulted (m := m.retime s b) on runs fetched decoded same

theorem move_retime (m : Machine τ) (s : Option (Schedule τ)) (b : Bool) (v : Move) :
    (m.retime s b).move v = (m.move v).retime s b := by
  cases v with
  | slot => exact congrArg Prod.fst (execute_retime m s b)
  | _ => rfl

/-- Moves can be made with any deadlines and any way to deal with late ticks. -/
theorem play_retime (m : Machine τ) (s : Option (Schedule τ)) (b : Bool) (vs : List Move) :
    (m.retime s b).play vs = (m.play vs).retime s b := by
  induction vs generalizing m with
  | nil => rfl
  | cons v vs ih => rw [play, move_retime, ih]; rfl

/-- Moves leave the way to deal with late ticks alone. -/
theorem catchUp_play (m : Machine τ) (vs : List Move) : (m.play vs).catchUp = m.catchUp := by
  have same : m.play vs = (m.play vs).retime m.schedule m.catchUp := play_retime m m.schedule m.catchUp vs
  rw [same]
  rfl

/-- Moves leave the deadlines alone. -/
theorem schedule_play (m : Machine τ) (vs : List Move) : (m.play vs).schedule = m.schedule := by
  have same : m.play vs = (m.play vs).retime m.schedule m.catchUp := play_retime m m.schedule m.catchUp vs
  rw [same]
  rfl

end Machine

end Chip8
