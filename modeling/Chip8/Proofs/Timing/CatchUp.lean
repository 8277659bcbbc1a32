import Chip8.Proofs.Timing.Clock
import Chip8.Proofs.Timing.Counts
import Mathlib.Tactic.NormNum

/-!
# What a machine that catches up makes up for

With exact times, a tick of a machine that catches up runs one slot for each deadline of the instructions that has
passed (`Clock.overdue`), but no more than a second's worth, and then one step of the timers for each of theirs; both
clocks are due later then (`Clock.caughtUp`).  If ticks are never more than a second apart nothing is given up, so from
a reset on the machine runs a slot and a step for each period since the first tick, whatever ticks lie in between.
-/

namespace Chip8

open Clock (overdue caughtUp)

namespace Machine

/-- What a tick of a machine that catches up makes up for, and what this adds up to from a reset on. -/
theorem catches_up {m : Machine Rat} (mode : m.catchUp = true) :
    (∀ deadline deadline' now : Rat, m.halted = false → m.schedule = some ⟨deadline, deadline'⟩ →
        (m.tick now).2 = none →
      m.moves (.tick now) =
          List.replicate (min 500 (overdue 500 deadline now)) .slot ++
            List.replicate (min 60 (overdue 60 deadline' now)) .timers ∧
        (m.tick now).1 =
          (m.play (m.moves (.tick now))).retime (some ⟨caughtUp 500 deadline now, caughtUp 60 deadline' now⟩) true ∧
        now < caughtUp 500 deadline now ∧ now < caughtUp 60 deadline' now) ∧
      ∀ (start : Rat) (times : List Rat), (start :: times).IsChain (fun a b => a ≤ b ∧ b - a ≤ 1) →
        (m.reset.ticks (start :: times)).2 = none →
      let last := (start :: times).getLast (List.cons_ne_nil _ _)
      (∀ s b, (m.reset.ticks (start :: times)).1.retime s b =
          (m.reset.play (m.reset.historyMoves ((start :: times).map .tick))).retime s b) ∧
        m.reset.slotsOver (start :: times) = ⌊(last - start) * 500⌋₊ + 1 ∧
        m.reset.stepsOver (start :: times) = ⌊(last - start) * 60⌋₊ + 1 := by
  constructor
  · intro deadline deadline' now on schedule clean
    have due : m.scheduleAt now = ⟨deadline, deadline'⟩ := by
      rw [scheduleAt, schedule]
      rfl
    have instructions : m.instructionStrike now = ⟨min 500 (overdue 500 deadline now), caughtUp 500 deadline now⟩ := by
      rw [instructionStrike, mode, due]
      exact Clock.strike_true_eq (by decide) deadline now
    have timers : m.timerStrike now = ⟨min 60 (overdue 60 deadline' now), caughtUp 60 deadline' now⟩ := by
      rw [timerStrike, mode, due]
      exact Clock.strike_true_eq (by decide) deadline' now
    have moves := moves_of_clean on clean
    have result := (tick_of_clean on clean).1
    rw [instructions, timers] at moves result
    rw [mode] at result
    exact ⟨moves, result, Clock.lt_caughtUp (by decide) deadline now, Clock.lt_caughtUp (by decide) deadline' now⟩
  · intro start times gaps clean last
    obtain ⟨slots, steps⟩ := counts_of_reset m clean
    rw [mode] at slots steps
    refine ⟨?_, ?_, ?_⟩
    · exact retime_ticks_of_clean clean
    · rw [slots]
      exact Clock.strikes_eq (by decide) start times gaps
    · rw [steps]
      exact Clock.strikes_eq (by decide) start times gaps

/-- A program that waits for a key, with a tick that comes so late that just a second's worth is overdue. -/
theorem catches_up_a_second :
    let m : Machine Rat := (fresh (.cycle [] 0) true).after [.load [0xF0, 0x0A]]
    let n := (m.reset.tick 0).1
    n.schedule = some ⟨1 / 500, 1 / 60⟩ ∧ (n.tick 1).2 = none ∧
      n.moves (.tick 1) = List.replicate 500 .slot ++ List.replicate 60 .timers ∧
      (n.tick 1).1.schedule = some ⟨501 / 500, 61 / 60⟩ ∧
      m.reset.slotsOver [0, 1] = 501 ∧ m.reset.stepsOver [0, 1] = 61 := by
  intro m n
  obtain ⟨on, mode, schedule, clean, clean'⟩ : n.halted = false ∧ n.catchUp = true ∧
      n.schedule = some ⟨1 / 500, 1 / 60⟩ ∧ (n.tick 1).2 = none ∧ (m.reset.ticks [0, 1]).2 = none := by decide +kernel
  obtain ⟨moves, result, -⟩ := (catches_up mode).1 (1 / 500) (1 / 60) 1 on schedule clean
  obtain ⟨-, slots, steps⟩ := (catches_up (m := m) rfl).2 0 [1] (by norm_num) clean'
  have second : overdue 500 (1 / 500) 1 = 500 := by
    have floor : ⌊((1 : Rat) - 1 / 500) * (500 : Nat)⌋₊ = 499 := (Nat.floor_eq_iff (by norm_num)).2 (by norm_num)
    rw [overdue, if_pos (by norm_num), floor]
  have second' : overdue 60 (1 / 60) 1 = 60 := by
    have floor : ⌊((1 : Rat) - 1 / 60) * (60 : Nat)⌋₊ = 59 := (Nat.floor_eq_iff (by norm_num)).2 (by norm_num)
    rw [overdue, if_pos (by norm_num), floor]
  have next : caughtUp 500 (1 / 500) 1 = 501 / 500 := by
    rw [caughtUp, second, if_pos (by norm_num)]
    norm_num
  have next' : caughtUp 60 (1 / 60) 1 = 61 / 60 := by
    rw [caughtUp, second', if_pos (by norm_num)]
    norm_num
  rw [second, second'] at moves
  rw [next, next'] at result
  refine ⟨schedule, clean, moves, by rw [result]; rfl, ?_, ?_⟩
  · have floor : ⌊((1 : Rat) - 0) * 500⌋₊ = 500 := (Nat.floor_eq_iff (by norm_num)).2 (by norm_num)
    exact slots.trans (congrArg (· + 1) floor)
  · have floor : ⌊((1 : Rat) - 0) * 60⌋₊ = 60 := (Nat.floor_eq_iff (by norm_num)).2 (by norm_num)
    exact steps.trans (congrArg (· + 1) floor)

end Machine

end Chip8
