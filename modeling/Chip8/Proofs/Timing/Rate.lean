import Chip8.Proofs.Timing.Clock
import Chip8.Proofs.Timing.Counts
import Mathlib.Tactic.NormNum

/-!
# The rate of a machine that does not catch up

With exact times, the slots and the steps of the timers that a machine runs from a reset on, as long as it raises no
fault (`Machine.rate_of_clean`):

* whatever the times of the ticks are, there is at most one for each period up to the latest tick, and one more;
* if the ticks are never more than one period apart, there is exactly this many, without any drift;
* if the ticks are always one period apart or more, there is one in every tick.
-/

namespace Chip8

namespace Machine

private theorem counts_eq_length {m : Machine Rat} (mode : m.catchUp = false) {times : List Rat}
    (clean : (m.reset.ticks times).2 = none) :
    (times.IsChain (fun a b => 1 / 500 ≤ b - a) → m.reset.slotsOver times = times.length) ∧
      (times.IsChain (fun a b => 1 / 60 ≤ b - a) → m.reset.stepsOver times = times.length) := by
  cases times with
  | nil => exact ⟨fun _ => rfl, fun _ => rfl⟩
  | cons start times =>
    obtain ⟨slots, steps⟩ := counts_of_reset m clean
    rw [slots, steps, mode]
    exact ⟨Clock.strikes_eq_length (by decide) start times, Clock.strikes_eq_length (by decide) start times⟩

/-- With ticks a period apart or more, each of them runs one slot or one step. -/
private theorem one_per_tick {m : Machine Rat} (mode : m.catchUp = false) {past rest : List Rat} {now : Rat}
    (clean : (m.reset.ticks (past ++ now :: rest)).2 = none) :
    ((past ++ now :: rest).IsChain (fun a b => 1 / 500 ≤ b - a) → (m.reset.ticks past).1.slotsAt now = 1) ∧
      ((past ++ now :: rest).IsChain (fun a b => 1 / 60 ≤ b - a) → (m.reset.ticks past).1.stepsAt now = 1) := by
  rw [List.append_cons] at clean ⊢
  obtain ⟨clean, -⟩ := clean_of_append clean
  obtain ⟨before, -⟩ := clean_of_append clean
  -- the counts with and without the tick differ by one
  obtain ⟨slots, steps⟩ := counts_eq_length mode clean
  obtain ⟨slots', steps'⟩ := counts_eq_length mode before
  obtain ⟨oneMore, oneMore'⟩ := counts_append_singleton before now
  rw [List.length_append, List.length_singleton] at slots steps
  constructor
  · intro gaps
    have total := slots gaps.left_of_append
    have earlier := slots' gaps.left_of_append.left_of_append
    omega
  · intro gaps
    have total := steps gaps.left_of_append
    have earlier := steps' gaps.left_of_append.left_of_append
    omega

/-- The rate of a machine that does not catch up, from a reset on. -/
theorem rate_of_clean {m : Machine Rat} (mode : m.catchUp = false) {start : Rat} {times : List Rat}
    (clean : (m.reset.ticks (start :: times)).2 = none) :
    let all := start :: times
    let last := all.getLast (List.cons_ne_nil _ _)
    (∀ s b, (m.reset.ticks all).1.retime s b = (m.reset.play (m.reset.historyMoves (all.map .tick))).retime s b) ∧
      (∀ latest, (∀ t ∈ all, t ≤ latest) →
        m.reset.slotsOver all ≤ ⌊(latest - start) * 500⌋₊ + 1 ∧
          m.reset.stepsOver all ≤ ⌊(latest - start) * 60⌋₊ + 1) ∧
      (all.IsChain (fun a b => a ≤ b ∧ b - a ≤ 1 / 500) →
        m.reset.slotsOver all = ⌊(last - start) * 500⌋₊ + 1) ∧
      (all.IsChain (fun a b => a ≤ b ∧ b - a ≤ 1 / 60) →
        m.reset.stepsOver all = ⌊(last - start) * 60⌋₊ + 1) ∧
      (all.IsChain (fun a b => 1 / 500 ≤ b - a) →
        ∀ past now rest, all = past ++ now :: rest → (m.reset.ticks past).1.slotsAt now = 1) ∧
      (all.IsChain (fun a b => 1 / 60 ≤ b - a) →
        ∀ past now rest, all = past ++ now :: rest → (m.reset.ticks past).1.stepsAt now = 1) := by
  intro all last
  obtain ⟨slots, steps⟩ := counts_of_reset m clean
  rw [mode] at slots steps
  refine ⟨?_, ?_, ?_, ?_, ?_, ?_⟩
  · exact retime_ticks_of_clean clean
  · intro latest bound
    rw [slots, steps]
    exact ⟨Clock.strikes_le (by decide) bound, Clock.strikes_le (by decide) bound⟩
  · intro gaps
    rw [slots]
    exact Clock.strikes_eq (by decide) start times gaps
  · intro gaps
    rw [steps]
    exact Clock.strikes_eq (by decide) start times gaps
  · intro gaps past now rest split
    change (m.reset.ticks all).2 = none at clean
    rw [split] at clean gaps
    exact (one_per_tick mode clean).1 gaps
  · intro gaps past now rest split
    change (m.reset.ticks all).2 = none at clean
    rw [split] at clean gaps
    exact (one_per_tick mode clean).2 gaps

/-- A program that jumps to itself, with ticks right at the deadlines of both clocks. -/
theorem rate_of_clean_at_deadlines :
    let m : Machine Rat := (fresh (.cycle [] 0) false).after [.load [0x12, 0x00]]
    let fast : List Rat := [0, 1 / 1000, 1 / 500]
    let slow : List Rat := [0, 1 / 60, 1 / 30]
    (m.reset.ticks fast).2 = none ∧ (m.reset.ticks slow).2 = none ∧
      m.reset.slotsOver fast = 2 ∧ m.reset.stepsOver fast = 1 ∧
      m.reset.slotsOver slow ≤ 17 ∧ m.reset.stepsOver slow = 3 ∧
      (m.reset.ticks [0, 1 / 60]).1.slotsAt (1 / 30) = 1 ∧ (m.reset.ticks [0, 1 / 60]).1.stepsAt (1 / 30) = 1 := by
  intro m fast slow
  have clean : (m.reset.ticks fast).2 = none := by decide +kernel
  have clean' : (m.reset.ticks slow).2 = none := by decide +kernel
  obtain ⟨-, -, slots, steps, -, -⟩ := rate_of_clean (m := m) rfl clean
  obtain ⟨-, most, -, steps', slot, step⟩ := rate_of_clean (m := m) rfl clean'
  have one : ⌊((1 / 500 : Rat) - 0) * 500⌋₊ = 1 := (Nat.floor_eq_iff (by norm_num)).2 (by norm_num)
  have none : ⌊((1 / 500 : Rat) - 0) * 60⌋₊ = 0 := Nat.floor_eq_zero.2 (by norm_num)
  have sixteen : ⌊((1 / 30 : Rat) - 0) * 500⌋₊ = 16 := (Nat.floor_eq_iff (by norm_num)).2 (by norm_num)
  have two : ⌊((1 / 30 : Rat) - 0) * 60⌋₊ = 2 := (Nat.floor_eq_iff (by norm_num)).2 (by norm_num)
  refine ⟨clean, clean', ?_, ?_, ?_, ?_, ?_, ?_⟩
  · exact (slots (by norm_num)).trans (congrArg (· + 1) one)
  · exact (steps (by norm_num)).trans (congrArg (· + 1) none)
  · exact (most (1 / 30) (by norm_num)).1.trans_eq (congrArg (· + 1) sixteen)
  · exact (steps' (by norm_num)).trans (congrArg (· + 1) two)
  · exact slot (by norm_num) [0, 1 / 60] (1 / 30) [] rfl
  · exact step (by norm_num) [0, 1 / 60] (1 / 30) [] rfl

end Machine

end Chip8
