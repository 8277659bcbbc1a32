import Chip8.Machine.Command
import Chip8.Proofs.Moves
import Chip8.Proofs.Timing.Strike

/-!
# What a tick does

A tick that finds the machine running runs as many slots as the clock of the instructions strikes, but none after a
fault, and then as many steps of the timers as their clock strikes.

* `Machine.slotPhase_eq` and `Machine.timerPhase_eq` say this of the two parts of a tick, the loops of a machine that
  catches up included; `Machine.tick_of_none` and `Machine.tick_of_fault` put them together, in terms of the slots that
  are run (`Machine.executeUpTo`);
* `Machine.slotsAt` and `Machine.stepsAt` count the slots and steps of a tick, `Machine.moves` lists the moves of a
  command and `Machine.historyMoves` those of a history;
* a machine after a command is the machine after its moves, up to the deadlines and the way to deal with late ticks
  (`Machine.retime_apply`, `Machine.retime_after`).
-/

namespace Chip8

open TimeBase (later reached period)
open Clock (Strike strike makeUp postponed)

/-- Does the command leave the program and its run in place? -/
def Command.goesOn {τ : Type} : Command τ → Bool
  | .load _ | .reset => false
  | .execute | .tick _ | .setKey .. | .releaseAll | .setCatchUp _ => true

namespace Machine

section Slots

variable {τ : Type}

/-- The number of slots that are run of so many: all of them, or those up to the first that faults. -/
def slotsUpTo (m : Machine τ) (k : Nat) : Nat :=
  match m.executeUpTo 0 k with
  | (_, ran, none) => ran
  | (_, before, some _) => before + 1

/-- The slots that ran before are only added to the count. -/
theorem executeUpTo_eq (m : Machine τ) (ran k : Nat) :
    m.executeUpTo ran k = ((m.executeUpTo 0 k).1, ran + (m.executeUpTo 0 k).2.1, (m.executeUpTo 0 k).2.2) := by
  induction k generalizing m ran with
  | zero => rfl
  | succ k ih =>
    unfold executeUpTo
    rcases m.execute with ⟨next, _ | f⟩
    · simp only []
      rw [ih next (ran + 1), ih next (0 + 1)]
      simp only [Nat.zero_add, Nat.add_assoc]
    · rfl

theorem executeUpTo_succ {m next : Machine τ} (slot : m.execute = (next, none)) (k : Nat) :
    m.executeUpTo 0 (k + 1) =
      ((next.executeUpTo 0 k).1, (next.executeUpTo 0 k).2.1 + 1, (next.executeUpTo 0 k).2.2) := by
  rw [executeUpTo, slot]
  simp only []
  rw [executeUpTo_eq, Nat.zero_add, Nat.add_comm]

theorem executeUpTo_of_succ {m next n : Machine τ} {k ran : Nat} {f : Option Fault}
    (slot : m.execute = (next, none)) (h : m.executeUpTo 0 (k + 1) = (n, ran, f)) :
    ∃ others, ran = others + 1 ∧ next.executeUpTo 0 k = (n, others, f) := by
  rw [executeUpTo_succ slot, Prod.mk.injEq, Prod.mk.injEq] at h
  obtain ⟨last, counted, fault⟩ := h
  exact ⟨(next.executeUpTo 0 k).2.1, counted.symm, Prod.ext last (Prod.ext rfl fault)⟩

/-- A slot without a fault is run, and so are those that the machine after it runs. -/
theorem slotsUpTo_of_none {m next : Machine τ} (slot : m.execute = (next, none)) (k : Nat) :
    m.slotsUpTo (k + 1) = next.slotsUpTo k + 1 := by
  rw [slotsUpTo, slotsUpTo, executeUpTo_succ slot]
  rcases next.executeUpTo 0 k with ⟨n, ran, _ | f⟩ <;> rfl

/-- A slot with a fault is the last one that is run. -/
theorem slotsUpTo_of_fault {m next : Machine τ} {f : Fault} (slot : m.execute = (next, some f)) (k : Nat) :
    m.slotsUpTo (k + 1) = 1 := by
  rw [slotsUpTo, executeUpTo, slot]

/-- A fault among some slots is the end of more slots too. -/
theorem executeUpTo_add_of_fault {m n : Machine τ} {k ran : Nat} {f : Fault}
    (h : m.executeUpTo 0 k = (n, ran, some f)) (l : Nat) : m.executeUpTo 0 (k + l) = (n, ran, some f) := by
  induction k generalizing m ran with
  | zero => simp [executeUpTo] at h
  | succ k ih =>
    rw [Nat.add_right_comm]
    cases slot : m.execute with
    | mk next fault =>
      cases fault with
      | some g =>
        rw [executeUpTo, slot] at h ⊢
        exact h
      | none =>
        obtain ⟨others, rfl, rest⟩ := executeUpTo_of_succ slot h
        rw [executeUpTo_succ slot, ih rest]

/-- Slots without a fault are all run, and more slots go on from there. -/
theorem executeUpTo_add_of_none {m n : Machine τ} {k ran : Nat} (h : m.executeUpTo 0 k = (n, ran, none)) :
    ran = k ∧ ∀ l, m.executeUpTo 0 (k + l) = n.executeUpTo k l := by
  induction k generalizing m ran with
  | zero =>
    simp only [executeUpTo, Prod.mk.injEq, and_true] at h
    obtain ⟨rfl, rfl⟩ := h
    refine ⟨rfl, ?_⟩
    intro l
    rw [Nat.zero_add]
  | succ k ih =>
    cases slot : m.execute with
    | mk next fault =>
      cases fault with
      | some g =>
        rw [executeUpTo, slot] at h
        simp at h
      | none =>
        obtain ⟨others, rfl, rest⟩ := executeUpTo_of_succ slot h
        obtain ⟨rfl, more⟩ := ih rest
        refine ⟨rfl, ?_⟩
        intro l
        rw [Nat.add_right_comm, executeUpTo_succ slot, more, executeUpTo_eq n others, executeUpTo_eq n (others + 1),
          Nat.add_right_comm others 1]

/-- Running slots is making the move that often. -/
theorem executeUpTo_fst (m : Machine τ) (k : Nat) :
    (m.executeUpTo 0 k).1 = m.play (List.replicate (m.slotsUpTo k) .slot) := by
  induction k generalizing m with
  | zero => rfl
  | succ k ih =>
    have made : m.move .slot = m.execute.1 := rfl
    cases slot : m.execute with
    | mk next fault =>
      rw [slot] at made
      cases fault with
      | none => rw [executeUpTo_succ slot, slotsUpTo_of_none slot, List.replicate_succ, play, made, ih]
      | some f =>
        rw [executeUpTo, slot, slotsUpTo_of_fault slot]
        exact made.symm

theorem executeUpTo_retime (m : Machine τ) (s : Option (Schedule τ)) (b : Bool) (ran k : Nat) :
    (m.retime s b).executeUpTo ran k = ((m.executeUpTo ran k).1.retime s b, (m.executeUpTo ran k).2) := by
  induction k generalizing m ran with
  | zero => rfl
  | succ k ih =>
    unfold executeUpTo
    rw [execute_retime]
    rcases m.execute with ⟨next, _ | f⟩
    · exact ih next (ran + 1)
    · rfl

private theorem catchUp_of_executeUpTo {m n : Machine τ} {k ran : Nat} {f : Option Fault}
    (h : m.executeUpTo 0 k = (n, ran, f)) : n.catchUp = m.catchUp := by
  have same : (m.executeUpTo 0 k).1 = n := congrArg Prod.fst h
  rw [← same, executeUpTo_fst]
  exact m.catchUp_play _

end Slots

variable {τ : Type} [TimeBase τ]

/-! ### The two clocks -/

/-- What the clock of the instructions does at a tick. -/
def instructionStrike (m : Machine τ) (now : τ) : Strike τ :=
  strike m.catchUp instructionHz (m.scheduleAt now).instruction now

/-- What the clock of the timers does at a tick. -/
def timerStrike (m : Machine τ) (now : τ) : Strike τ := strike m.catchUp timerHz (m.scheduleAt now).timer now

/-- What slots come to, as many as a clock strikes: all of them are run until its next deadline, or those up to one that
faults, at the deadline at which it was due. -/
def runSlots (m : Machine τ) (due : Strike τ) (deadline : τ) : Machine τ × τ × Option Fault :=
  match m.executeUpTo 0 due.times with
  | (n, _, none) => (n, due.deadline, none)
  | (n, ran, some f) => (n, postponed instructionHz ran deadline, some f)

theorem runSlots_of_none {m n : Machine τ} {due : Strike τ} {ran : Nat}
    (slots : m.executeUpTo 0 due.times = (n, ran, none)) (deadline : τ) :
    m.runSlots due deadline = (n, due.deadline, none) := by
  rw [runSlots, slots]

theorem runSlots_of_fault {m n : Machine τ} {due : Strike τ} {ran : Nat} {f : Fault}
    (slots : m.executeUpTo 0 due.times = (n, ran, some f)) (deadline : τ) :
    m.runSlots due deadline = (n, postponed instructionHz ran deadline, some f) := by
  rw [runSlots, slots]

private theorem overdueSlots_eq (m : Machine τ) (now deadline : τ) (k : Nat) :
    overdueSlots now k m deadline = m.runSlots (makeUp instructionHz now k deadline) deadline := by
  induction k generalizing m deadline with
  | zero => rfl
  | succ k ih =>
    unfold overdueSlots makeUp
    split
    · cases slot : m.execute with
      | mk next fault =>
        cases fault with
        | none =>
          -- the other slots start one period later
          simp only []
          rw [ih, instructionPeriod, runSlots, runSlots, executeUpTo_succ slot]
          rcases next.executeUpTo 0 _ with ⟨n, ran, _ | f⟩ <;> rfl
        | some f =>
          simp only [runSlots, executeUpTo, slot]
          rfl
    · rfl

/-- The slots of a tick are as many as the clock of the instructions strikes, up to one that faults. -/
theorem slotPhase_eq (m : Machine τ) (now deadline : τ) :
    m.slotPhase now deadline = m.runSlots (strike m.catchUp instructionHz deadline now) deadline := by
  unfold slotPhase strike
  cases m.catchUp with
  | true => exact overdueSlots_eq m now deadline instructionHz
  | false =>
    simp only [Bool.false_eq_true, if_false]
    split
    · simp only [runSlots, executeUpTo]
      rcases m.execute with ⟨next, _ | f⟩ <;> rfl
    · rfl

private theorem overdueSteps_eq (m : Machine τ) (now deadline : τ) (k : Nat) :
    overdueSteps now k m deadline =
      (m.play (List.replicate (makeUp timerHz now k deadline).times .timers),
        (makeUp timerHz now k deadline).deadline) := by
  induction k generalizing m deadline with
  | zero => rfl
  | succ k ih =>
    unfold overdueSteps makeUp
    split
    · exact ih _ _
    · rfl

theorem catchUp_slotPhase (m : Machine τ) (now deadline : τ) : (m.slotPhase now deadline).1.catchUp = m.catchUp := by
  rw [slotPhase_eq]
  rcases slots : m.executeUpTo 0 (strike m.catchUp instructionHz deadline now).times with ⟨n, ran, _ | f⟩
  · rw [runSlots_of_none slots]
    exact catchUp_of_executeUpTo slots
  · rw [runSlots_of_fault slots]
    exact catchUp_of_executeUpTo slots

/-- The steps of the timers in a tick are as many as their clock strikes. -/
theorem timerPhase_eq (m : Machine τ) (now deadline : τ) :
    m.timerPhase now deadline =
      (m.play (List.replicate (strike m.catchUp timerHz deadline now).times .timers),
        (strike m.catchUp timerHz deadline now).deadline) := by
  unfold timerPhase strike
  cases m.catchUp with
  | true => exact overdueSteps_eq m now deadline timerHz
  | false =>
    simp only [Bool.false_eq_true, if_false]
    split <;> rfl

theorem catchUp_timerPhase (m : Machine τ) (now deadline : τ) : (m.timerPhase now deadline).1.catchUp = m.catchUp := by
  rw [timerPhase_eq]
  exact m.catchUp_play _

/-! ### One tick -/

/-- A tick whose slots raise no fault goes on to the steps of the timers, and sets both deadlines. -/
theorem tick_of_none {m n : Machine τ} (on : m.halted = false) {now : τ} {ran : Nat}
    (slots : m.executeUpTo 0 (m.instructionStrike now).times = (n, ran, none)) :
    m.tick now =
      ((n.play (List.replicate (m.timerStrike now).times .timers)).retime
        (some ⟨(m.instructionStrike now).deadline, (m.timerStrike now).deadline⟩) m.catchUp, none) := by
  have phase : m.slotPhase now (m.scheduleAt now).instruction = (n, (m.instructionStrike now).deadline, none) :=
    (m.slotPhase_eq now _).trans (runSlots_of_none slots _)
  have mode : n.catchUp = m.catchUp := catchUp_of_executeUpTo slots
  have timers : n.timerPhase now (m.scheduleAt now).timer =
      (n.play (List.replicate (m.timerStrike now).times .timers), (m.timerStrike now).deadline) := by
    rw [timerPhase_eq, mode]
    rfl
  have mode' : (n.play (List.replicate (m.timerStrike now).times .timers)).catchUp = m.catchUp :=
    (n.catchUp_play _).trans mode
  rw [tick, on, if_neg Bool.false_ne_true, phase, ← mode']
  simp only [timers]
  rfl

/-- A tick that meets a fault ends there: the deadline of the instructions has moved by one period for each slot
before, and that of the timers has not moved. -/
theorem tick_of_fault {m n : Machine τ} (on : m.halted = false) {now : τ} {ran : Nat} {f : Fault}
    (slots : m.executeUpTo 0 (m.instructionStrike now).times = (n, ran, some f)) :
    m.tick now =
      (n.retime (some ⟨postponed instructionHz ran (m.scheduleAt now).instruction, (m.scheduleAt now).timer⟩) m.catchUp,
        some f) := by
  have phase : m.slotPhase now (m.scheduleAt now).instruction =
      (n, postponed instructionHz ran (m.scheduleAt now).instruction, some f) :=
    (m.slotPhase_eq now _).trans (runSlots_of_fault slots _)
  have mode : n.catchUp = m.catchUp := catchUp_of_executeUpTo slots
  rw [tick, on, if_neg Bool.false_ne_true, phase, ← mode]
  rfl

/-! ### The moves of a command -/

/-- The number of slots in a tick: as many as the clock strikes, up to one that faults. -/
def slotsAt (m : Machine τ) (now : τ) : Nat :=
  if m.halted then 0 else m.slotsUpTo (m.instructionStrike now).times

/-- The number of steps of the timers in a tick: none in one that faults. -/
def stepsAt (m : Machine τ) (now : τ) : Nat :=
  if m.halted then 0 else if (m.tick now).2.isSome then 0 else (m.timerStrike now).times

/-- The moves of a command that goes on with the run. -/
def moves (m : Machine τ) : Command τ → List Move
  | .load _ | .reset | .setCatchUp _ => []
  | .execute => [.slot]
  | .tick now => List.replicate (m.slotsAt now) .slot ++ List.replicate (m.stepsAt now) .timers
  | .setKey key pressed => [.setKey key pressed]
  | .releaseAll => [.releaseAll]

/-- The moves of a history that goes on with the run. -/
def historyMoves (m : Machine τ) : List (Command τ) → List Move
  | [] => []
  | c :: rest => m.moves c ++ (m.apply c).1.historyMoves rest

theorem historyMoves_append (m : Machine τ) (h g : List (Command τ)) :
    m.historyMoves (h ++ g) = m.historyMoves h ++ (m.after h).historyMoves g := by
  induction h generalizing m with
  | nil => rfl
  | cons c h ih => rw [List.cons_append, historyMoves, historyMoves, ih, List.append_assoc, after]

theorem slotsAt_eq {m : Machine τ} (on : m.halted = false) (now : τ) :
    m.slotsAt now = m.slotsUpTo (m.instructionStrike now).times := by
  rw [slotsAt, on, if_neg Bool.false_ne_true]

theorem stepsAt_of_fault {m : Machine τ} {now : τ} {f : Fault} (fault : (m.tick now).2 = some f) :
    m.stepsAt now = 0 := by
  rw [stepsAt, fault, Option.isSome_some, if_pos rfl, ite_self]

theorem stepsAt_of_clean {m : Machine τ} (on : m.halted = false) {now : τ} (clean : (m.tick now).2 = none) :
    m.stepsAt now = (m.timerStrike now).times := by
  rw [stepsAt, on, if_neg Bool.false_ne_true, clean, Option.isSome_none, if_neg Bool.false_ne_true]

private theorem moves_tick_of_halted {m : Machine τ} (halted : m.halted = true) (now : τ) :
    m.moves (.tick now) = [] := by
  simp [moves, slotsAt, stepsAt, halted]

/-- A tick makes its moves, slots first, and sets the deadlines. -/
theorem tick_eq_play (m : Machine τ) (now : τ) :
    ∃ s, (m.tick now).1 = (m.play (m.moves (.tick now))).retime s m.catchUp := by
  cases halted : m.halted with
  | true =>
    refine ⟨m.schedule, ?_⟩
    rw [moves_tick_of_halted halted, tick, if_pos halted]
    rfl
  | false =>
    have last := m.executeUpTo_fst (m.instructionStrike now).times
    rcases slots : m.executeUpTo 0 (m.instructionStrike now).times with ⟨n, ran, _ | f⟩
    · have ticked := tick_of_none halted slots
      refine ⟨some ⟨(m.instructionStrike now).deadline, (m.timerStrike now).deadline⟩, ?_⟩
      rw [slots] at last
      rw [moves, slotsAt_eq halted, stepsAt_of_clean halted (by rw [ticked]), play_append, ← last, ticked]
    · have ticked := tick_of_fault halted slots
      refine ⟨some ⟨postponed instructionHz ran (m.scheduleAt now).instruction, (m.scheduleAt now).timer⟩, ?_⟩
      rw [slots] at last
      -- the timers do not step any more
      rw [moves, slotsAt_eq halted, stepsAt_of_fault (by rw [ticked]), List.replicate_zero, List.append_nil, ← last,
        ticked]

/-- A machine after a command that goes on with the run is the machine after its moves, up to the deadlines and the
way to deal with late ticks. -/
theorem retime_apply (m : Machine τ) {c : Command τ} (on : c.goesOn = true) (s : Option (Schedule τ)) (b : Bool) :
    (m.apply c).1.retime s b = (m.play (m.moves c)).retime s b := by
  cases c with
  | load image => simp [Command.goesOn] at on
  | reset => simp [Command.goesOn] at on
  | tick now =>
    obtain ⟨s', eq⟩ := tick_eq_play m now
    change (m.tick now).1.retime s b = _
    rw [eq, retime_retime]
  | _ => rfl

/-- A machine after a history that goes on with the run is the machine after its moves, up to the deadlines and the
way to deal with late ticks. -/
theorem retime_after (m : Machine τ) {h : List (Command τ)} (on : ∀ c ∈ h, c.goesOn = true)
    (s : Option (Schedule τ)) (b : Bool) :
    (m.after h).retime s b = (m.play (m.historyMoves h)).retime s b := by
  induction h generalizing m with
  | nil => rfl
  | cons c rest ih =>
    have step := retime_apply m (on c (by simp)) s b
    have later := ih (m.apply c).1 fun d hd => on d (by simp [hd])
    -- the deadlines that the first command leaves decide on the moves of the others, but not on their effect
    rw [after, later, historyMoves, play_append]
    rw [← play_retime, step, play_retime]

end Machine

end Chip8
