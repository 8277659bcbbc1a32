import Chip8.Proofs.Invariant
import Chip8.Proofs.Timing.Tick

/-!
# Ticks without a fault

A tick that raises no fault makes a move for each strike of the two clocks.

* `Machine.tick_of_clean` and `Machine.moves_of_clean` are the case of one such tick, after which the machine still
  runs;
* over several ticks, slots and steps are counted by `Machine.slotsOver` and `Machine.stepsOver`, and without a fault
  these are the strikes of the two clocks (`Machine.counts_of_clean`).
-/

namespace Chip8

open Clock (strikes)

namespace Machine

section Slots

variable {τ : Type}

theorem halted_execute {m : Machine τ} (on : m.halted = false) (clean : m.execute.2 = none) :
    m.execute.1.halted = false := by
  have slot := m.slot_execute
  generalize m.execute = r at slot clean ⊢
  cases slot with
  | idle | unknown => exact on
  | poll =>
    unfold poll
    split <;> exact on
  | outside | faulted => contradiction
  | done _ _ _ _ done => exact (control_of_perform done).2.1.trans on

private theorem halted_of_executeUpTo {m n : Machine τ} {k ran : Nat} (on : m.halted = false)
    (h : m.executeUpTo 0 k = (n, ran, none)) : n.halted = false := by
  induction k generalizing m ran with
  | zero =>
    obtain rfl : m = n := congrArg Prod.fst h
    exact on
  | succ k ih =>
    have on' := m.halted_execute on
    cases slot : m.execute with
    | mk next fault =>
      rw [slot] at on'
      cases fault with
      | some g =>
        rw [executeUpTo, slot] at h
        simp at h
      | none =>
        obtain ⟨others, -, rest⟩ := executeUpTo_of_succ slot h
        exact ih (on' rfl) rest

theorem halted_play_timers (m : Machine τ) (k : Nat) :
    (m.play (List.replicate k .timers)).halted = m.halted := by
  induction k generalizing m with
  | zero => rfl
  | succ k ih => exact ih m.stepTimers

end Slots

variable {τ : Type} [TimeBase τ]

/-! ### One tick -/

/-- A tick without a fault runs all the slots for which the clock strikes. -/
theorem executeUpTo_of_clean {m : Machine τ} (on : m.halted = false) {now : τ} (clean : (m.tick now).2 = none) :
    ∃ n, m.executeUpTo 0 (m.instructionStrike now).times = (n, (m.instructionStrike now).times, none) := by
  rcases slots : m.executeUpTo 0 (m.instructionStrike now).times with ⟨n, ran, _ | f⟩
  · obtain ⟨all, -⟩ := executeUpTo_add_of_none slots
    exact ⟨n, by rw [all]⟩
  · rw [tick_of_fault on slots] at clean
    contradiction

theorem slotsAt_of_clean {m : Machine τ} (on : m.halted = false) {now : τ} (clean : (m.tick now).2 = none) :
    m.slotsAt now = (m.instructionStrike now).times := by
  obtain ⟨n, slots⟩ := executeUpTo_of_clean on clean
  rw [slotsAt_eq on, slotsUpTo, slots]

/-- A tick without a fault makes a move for each strike of a clock, slots first. -/
theorem moves_of_clean {m : Machine τ} (on : m.halted = false) {now : τ} (clean : (m.tick now).2 = none) :
    m.moves (.tick now) =
      List.replicate (m.instructionStrike now).times .slot ++ List.replicate (m.timerStrike now).times .timers := by
  rw [moves, slotsAt_of_clean on clean, stepsAt_of_clean on clean]

/-- A tick without a fault makes its moves and sets both deadlines, and the machine goes on. -/
theorem tick_of_clean {m : Machine τ} (on : m.halted = false) {now : τ} (clean : (m.tick now).2 = none) :
    (m.tick now).1 =
        (m.play (m.moves (.tick now))).retime
          (some ⟨(m.instructionStrike now).deadline, (m.timerStrike now).deadline⟩) m.catchUp ∧
      (m.tick now).1.halted = false := by
  obtain ⟨n, slots⟩ := executeUpTo_of_clean on clean
  have played : n = m.play (List.replicate (m.instructionStrike now).times .slot) := by
    have last := m.executeUpTo_fst (m.instructionStrike now).times
    rw [slotsUpTo, slots] at last
    exact last
  have same := congrArg Prod.fst (tick_of_none on slots)
  refine ⟨?_, ?_⟩
  · rw [moves_of_clean on clean, play_append, ← played]
    exact same
  · rw [same]
    exact (halted_play_timers n _).trans (halted_of_executeUpTo on slots)

/-! ### Several ticks -/

/-- The number of slots in ticks at some times. -/
def slotsOver (m : Machine τ) (times : List τ) : Nat := (m.historyMoves (times.map .tick)).count .slot

/-- The number of steps of the timers in ticks at some times. -/
def stepsOver (m : Machine τ) (times : List τ) : Nat := (m.historyMoves (times.map .tick)).count .timers

theorem ticks_cons {m : Machine τ} {now : τ} (first : (m.tick now).2 = none) (times : List τ) :
    m.ticks (now :: times) = (m.tick now).1.ticks times := by
  have step : m.tick now = ((m.tick now).1, none) := Prod.ext rfl first
  rw [ticks, step]

theorem ticks_cons_of_fault {m n : Machine τ} {now : τ} {f : Fault} (first : m.tick now = (n, some f))
    (times : List τ) : m.ticks (now :: times) = (n, some f) := by
  rw [ticks, first]

private theorem ticks_cons_of_clean {m : Machine τ} {now : τ} {times : List τ}
    (clean : (m.ticks (now :: times)).2 = none) :
    (m.tick now).2 = none ∧ m.ticks (now :: times) = (m.tick now).1.ticks times := by
  have first : (m.tick now).2 = none := by
    cases step : m.tick now with
    | mk n fault =>
      cases fault with
      | none => rfl
      | some f =>
        rw [ticks_cons_of_fault step] at clean
        contradiction
  exact ⟨first, ticks_cons first times⟩

/-- Ticks that raise no fault are a history. -/
theorem ticks_of_clean {m : Machine τ} {times : List τ} (clean : (m.ticks times).2 = none) :
    (m.ticks times).1 = m.after (times.map .tick) := by
  induction times generalizing m with
  | nil => rfl
  | cons now times ih =>
    obtain ⟨-, rest⟩ := ticks_cons_of_clean clean
    rw [rest] at clean ⊢
    exact ih clean

/-- Ticks that raise no fault make their moves, and set the deadlines. -/
theorem retime_ticks_of_clean {m : Machine τ} {times : List τ} (clean : (m.ticks times).2 = none)
    (s : Option (Schedule τ)) (b : Bool) :
    (m.ticks times).1.retime s b = (m.play (m.historyMoves (times.map .tick))).retime s b := by
  rw [ticks_of_clean clean]
  exact m.retime_after (by simp [Command.goesOn]) s b

theorem clean_of_append {m : Machine τ} {past times : List τ} (clean : (m.ticks (past ++ times)).2 = none) :
    (m.ticks past).2 = none ∧ ((m.ticks past).1.ticks times).2 = none := by
  induction past generalizing m with
  | nil => exact ⟨rfl, clean⟩
  | cons now past ih =>
    rw [List.cons_append] at clean
    obtain ⟨first, rest⟩ := ticks_cons_of_clean clean
    rw [rest] at clean
    obtain ⟨before, after⟩ := ih clean
    rw [ticks_cons first]
    exact ⟨before, after⟩

private theorem count_moves (k l : Nat) :
    (List.replicate k Move.slot ++ List.replicate l Move.timers).count .slot = k ∧
      (List.replicate k Move.slot ++ List.replicate l Move.timers).count .timers = l := by
  simp [List.count_append, List.count_replicate]

/-- One more tick adds its own slots and steps. -/
theorem counts_append_singleton {m : Machine τ} {past : List τ} (clean : (m.ticks past).2 = none) (now : τ) :
    m.slotsOver (past ++ [now]) = m.slotsOver past + (m.ticks past).1.slotsAt now ∧
      m.stepsOver (past ++ [now]) = m.stepsOver past + (m.ticks past).1.stepsAt now := by
  have last : ∀ n : Machine τ, n.historyMoves [.tick now] =
      List.replicate (n.slotsAt now) .slot ++ List.replicate (n.stepsAt now) .timers := by
    intro n
    simp [historyMoves, moves]
  unfold slotsOver stepsOver
  have counted := count_moves ((m.ticks past).1.slotsAt now) ((m.ticks past).1.stepsAt now)
  rw [← last] at counted
  rw [List.map_append, historyMoves_append, ← ticks_of_clean clean, List.map_singleton, List.count_append,
    List.count_append, counted.1, counted.2]
  exact ⟨rfl, rfl⟩

private theorem counts_cons {m : Machine τ} (on : m.halted = false) {now : τ} (first : (m.tick now).2 = none)
    (times : List τ) :
    m.slotsOver (now :: times) = (m.instructionStrike now).times + (m.tick now).1.slotsOver times ∧
      m.stepsOver (now :: times) = (m.timerStrike now).times + (m.tick now).1.stepsOver times := by
  have counted := count_moves (m.instructionStrike now).times (m.timerStrike now).times
  rw [← moves_of_clean on first] at counted
  have split : m.historyMoves ((now :: times).map .tick) =
      m.moves (.tick now) ++ (m.tick now).1.historyMoves (times.map .tick) := rfl
  unfold slotsOver stepsOver
  rw [split, List.count_append, List.count_append, counted.1, counted.2]
  exact ⟨rfl, rfl⟩

/-- In ticks that raise no fault, there is a slot for each strike of the clock of the instructions, and a step of the
timers for each strike of theirs. -/
theorem counts_of_clean {m : Machine τ} (on : m.halted = false) {now : τ} {times : List τ}
    (clean : (m.ticks (now :: times)).2 = none) :
    m.slotsOver (now :: times) = strikes m.catchUp instructionHz (m.scheduleAt now).instruction (now :: times) ∧
      m.stepsOver (now :: times) = strikes m.catchUp timerHz (m.scheduleAt now).timer (now :: times) := by
  induction times generalizing m now with
  | nil => exact counts_cons on (ticks_cons_of_clean clean).1 []
  | cons next times ih =>
    obtain ⟨first, rest⟩ := ticks_cons_of_clean clean
    obtain ⟨same, on'⟩ := tick_of_clean on first
    obtain ⟨slots, steps⟩ := counts_cons on first (next :: times)
    obtain ⟨slots', steps'⟩ := ih on' (rest ▸ clean)
    -- the other ticks find the deadlines and the mode that the first one leaves
    have mode : (m.tick now).1.catchUp = m.catchUp := by
      rw [same]
      rfl
    have schedule : (m.tick now).1.scheduleAt next =
        ⟨(m.instructionStrike now).deadline, (m.timerStrike now).deadline⟩ := by
      rw [scheduleAt, same]
      rfl
    rw [slots, steps, slots', steps', mode, schedule]
    exact ⟨rfl, rfl⟩

/-- After a reset both clocks start with the first tick. -/
theorem counts_of_reset (m : Machine τ) {start : τ} {times : List τ}
    (clean : (m.reset.ticks (start :: times)).2 = none) :
    m.reset.slotsOver (start :: times) = strikes m.catchUp instructionHz start (start :: times) ∧
      m.reset.stepsOver (start :: times) = strikes m.catchUp timerHz start (start :: times) :=
  counts_of_clean rfl clean

end Machine

end Chip8
