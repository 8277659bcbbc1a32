import Chip8.Proofs.Timing.Strike
import Mathlib.Data.Rat.Floor
import Mathlib.Tactic.FieldSimp
import Mathlib.Tactic.Linarith
import Mathlib.Tactic.Positivity

/-!
# Clocks in exact time

With exact times, how often a clock strikes is known from the times alone.

* A clock that makes up strikes once for each deadline that has passed (`Clock.makeUp_eq`);
* as long as ticks do not lie too far apart, the deadlines of a clock stay on the grid of periods from its first tick
  on (`Clock.OnGrid`), which gives its number of strikes (`Clock.strikes_eq`).  With ticks at any times it can only
  fall behind (`Clock.strikes_le`), and with ticks a period apart it strikes at every one (`Clock.strikes_eq_length`).
-/

namespace Chip8

open TimeBase (later reached period)

namespace Clock

variable {hz : Nat} {start deadline now : Rat}

/-- The number of deadlines that have passed at time `now`. -/
def overdue (hz : Nat) (deadline now : Rat) : Nat :=
  if deadline ≤ now then ⌊(now - deadline) * hz⌋₊ + 1 else 0

/-- The deadline after those that have passed, or after one period if these are more than a second's worth. -/
def caughtUp (hz : Nat) (deadline now : Rat) : Rat :=
  if overdue hz deadline now ≤ hz then deadline + overdue hz deadline now / hz else now + 1 / hz

private theorem reached_iff : reached deadline now = true ↔ deadline ≤ now := decide_eq_true_iff

private theorem later_period (hz : Nat) (deadline : Rat) : later deadline (period hz) = deadline + 1 / hz := rfl

private theorem overdue_of_lt (early : now < deadline) : overdue hz deadline now = 0 := if_neg (not_le.2 early)

private theorem overdue_of_le (positive : 0 < hz) (due : deadline ≤ now) :
    overdue hz deadline now = overdue hz (deadline + 1 / hz) now + 1 := by
  have hz0 : (0 : Rat) < hz := by exact_mod_cast positive
  have shift : (now - deadline) * hz = (now - (deadline + 1 / hz)) * hz + 1 := by
    field_simp
    ring
  by_cases again : deadline + 1 / hz ≤ now
  · have nonneg : 0 ≤ (now - (deadline + 1 / hz)) * hz := mul_nonneg (by linarith) hz0.le
    rw [overdue, overdue, if_pos due, if_pos again, shift, Nat.floor_add_one nonneg]
  · have small : (now - deadline) * hz < 1 := by
      rw [shift]
      have negative : (now - (deadline + 1 / hz)) * hz < 0 := mul_neg_of_neg_of_pos (by linarith) hz0
      linarith
    rw [overdue_of_lt (not_le.1 again), overdue, if_pos due, Nat.floor_eq_zero.2 small]

theorem postponed_eq (hz n : Nat) (deadline : Rat) : postponed hz n deadline = deadline + n / hz := by
  induction n generalizing deadline with
  | zero => simp [postponed]
  | succ n ih =>
    rw [postponed, ih, later_period]
    push_cast
    ring

/-- A clock that makes up strikes once for each deadline that has passed.  If these are too many, its next deadline lies
one period ahead. -/
theorem makeUp_eq (positive : 0 < hz) (n : Nat) (deadline now : Rat) :
    makeUp hz now n deadline =
      ⟨min n (overdue hz deadline now),
        if overdue hz deadline now ≤ n then deadline + overdue hz deadline now / hz else now + 1 / hz⟩ := by
  induction n generalizing deadline with
  | zero =>
    rw [makeUp, Machine.cutDeadline]
    by_cases due : deadline ≤ now
    · rw [if_pos (reached_iff.2 due), overdue_of_le positive due, if_neg (by omega), Nat.zero_min]
      rfl
    · rw [if_neg (mt reached_iff.1 due), overdue_of_lt (not_le.1 due)]
      simp
  | succ n ih =>
    rw [makeUp]
    by_cases due : deadline ≤ now
    · have next : deadline + 1 / hz + (overdue hz (deadline + 1 / hz) now : Nat) / (hz : Rat) =
          deadline + ((overdue hz (deadline + 1 / hz) now + 1 : Nat) : Rat) / hz := by
        push_cast
        ring
      rw [if_pos (reached_iff.2 due), later_period, ih, overdue_of_le positive due, next]
      simp only [Nat.add_min_add_right, Nat.add_le_add_iff_right]
    · rw [if_neg (mt reached_iff.1 due), overdue_of_lt (not_le.1 due)]
      simp

/-- The deadline after all that have passed lies ahead. -/
theorem lt_add_overdue (positive : 0 < hz) (deadline now : Rat) :
    now < deadline + overdue hz deadline now / hz := by
  have hz0 : (0 : Rat) < hz := by exact_mod_cast positive
  by_cases due : deadline ≤ now
  · have floor : (now - deadline) * hz < ⌊(now - deadline) * hz⌋₊ + 1 := Nat.lt_floor_add_one _
    have ahead : now - deadline < (⌊(now - deadline) * hz⌋₊ + 1) / hz := (lt_div_iff₀ hz0).2 floor
    rw [overdue, if_pos due]
    push_cast
    linarith
  · rw [overdue_of_lt (not_le.1 due)]
    simpa using due

/-- The deadline after all that have passed lies at most one period ahead. -/
theorem add_overdue_le (positive : 0 < hz) (due : deadline ≤ now) :
    deadline + overdue hz deadline now / hz ≤ now + 1 / hz := by
  have hz0 : (0 : Rat) < hz := by exact_mod_cast positive
  have floor : (⌊(now - deadline) * hz⌋₊ : Rat) ≤ (now - deadline) * hz :=
    Nat.floor_le (mul_nonneg (by linarith) hz0.le)
  have behind : (⌊(now - deadline) * hz⌋₊ : Rat) / hz ≤ now - deadline := (div_le_iff₀ hz0).2 floor
  rw [overdue, if_pos due]
  push_cast
  rw [add_div]
  linarith

/-- A clock that catches up strikes for every deadline that has passed, up to a second's worth. -/
theorem strike_true_eq (positive : 0 < hz) (deadline now : Rat) :
    strike true hz deadline now = ⟨min hz (overdue hz deadline now), caughtUp hz deadline now⟩ := by
  rw [strike, if_pos rfl, makeUp_eq positive, caughtUp]

/-- A clock that has caught up is due later. -/
theorem lt_caughtUp (positive : 0 < hz) (deadline now : Rat) : now < caughtUp hz deadline now := by
  unfold caughtUp
  split
  · exact lt_add_overdue positive deadline now
  · have length : (0 : Rat) < 1 / hz := by positivity
    linarith

/-- A clock that is less than a second late has no more deadlines behind it than it can make up for. -/
theorem overdue_le (positive : 0 < hz) (late : now < deadline + 1) : overdue hz deadline now ≤ hz := by
  have hz0 : (0 : Rat) < hz := by exact_mod_cast positive
  by_cases due : deadline ≤ now
  · have small : (now - deadline) * hz < hz := by
      have := mul_lt_mul_of_pos_right (show now - deadline < 1 by linarith) hz0
      linarith
    rw [overdue, if_pos due]
    exact (Nat.floor_lt (mul_nonneg (by linarith) hz0.le)).2 small
  · rw [overdue_of_lt (not_le.1 due)]
    exact Nat.zero_le _

/-- A clock that is less than a second late strikes for every deadline that has passed. -/
theorem strike_true_of_lt (positive : 0 < hz) (late : now < deadline + 1) :
    strike true hz deadline now = ⟨overdue hz deadline now, deadline + overdue hz deadline now / hz⟩ := by
  have few := overdue_le positive late
  rw [strike_true_eq positive, caughtUp, if_pos few, Nat.min_eq_right few]

/-- The clock struck `n` times since its first tick at `start`, the last tick was at time `now`, and the deadline is the
first point of the grid of periods behind it. -/
structure OnGrid (hz : Nat) (start : Rat) (n : Nat) (deadline now : Rat) : Prop where
  grid : deadline = start + n / hz
  ahead : now < deadline
  close : deadline ≤ now + 1 / hz

/-- The longest time between two ticks that keeps a clock on its grid. -/
def maxGap (catchUp : Bool) (hz : Nat) : Rat := if catchUp then 1 else 1 / hz

namespace OnGrid

variable {n : Nat} {next : Rat}

/-- Before its first tick, a clock is as if it had ticked one period earlier. -/
theorem first (positive : 0 < hz) (start : Rat) : OnGrid hz start 0 start (start - 1 / hz) := by
  have hz0 : (0 : Rat) < 1 / hz := by positivity
  exact ⟨by simp, by linarith, by linarith⟩

/-- Until the next tick, the clock is at most one point of its grid behind. -/
private theorem strike_false (at' : OnGrid hz start n deadline now) (mono : now ≤ next) (gap : next ≤ now + 1 / hz) :
    OnGrid hz start (n + (strike false hz deadline next).times) (strike false hz deadline next).deadline next := by
  obtain ⟨grid, ahead, close⟩ := at'
  rw [strike, if_neg Bool.false_ne_true]
  by_cases due : deadline ≤ next
  · have early : ¬reached (later deadline (period hz)) next = true := by
      rw [reached_iff, later_period]
      linarith
    rw [if_pos (reached_iff.2 due), Machine.nextDeadline, if_neg early, later_period]
    refine ⟨?_, by simp only []; linarith, by simp only []; linarith⟩
    simp only [grid]
    push_cast
    ring
  · rw [if_neg (mt reached_iff.1 due)]
    exact ⟨by simpa using grid, not_le.1 due, by simp only []; linarith⟩

private theorem strike_true (positive : 0 < hz) (at' : OnGrid hz start n deadline now) (mono : now ≤ next)
    (gap : next ≤ now + 1) :
    OnGrid hz start (n + (strike true hz deadline next).times) (strike true hz deadline next).deadline next := by
  obtain ⟨grid, ahead, close⟩ := at'
  rw [strike_true_of_lt positive (by linarith)]
  refine ⟨?_, lt_add_overdue positive deadline next, ?_⟩
  · simp only [grid]
    push_cast
    ring
  · by_cases due : deadline ≤ next
    · exact add_overdue_le positive due
    · rw [overdue_of_lt (not_le.1 due), Nat.cast_zero, zero_div]
      linarith

/-- A tick that does not come too late leaves the clock on its grid. -/
theorem strike (positive : 0 < hz) (at' : OnGrid hz start n deadline now) {catchUp : Bool} (mono : now ≤ next)
    (gap : next - now ≤ maxGap catchUp hz) :
    OnGrid hz start (n + (Clock.strike catchUp hz deadline next).times)
      (Clock.strike catchUp hz deadline next).deadline next := by
  unfold maxGap at gap
  cases catchUp with
  | true =>
    rw [if_pos rfl] at gap
    exact at'.strike_true positive mono (by linarith)
  | false =>
    rw [if_neg Bool.false_ne_true] at gap
    exact at'.strike_false mono (by linarith)

/-- Where the clock is on its grid tells how often it struck. -/
theorem eq_floor (positive : 0 < hz) (at' : OnGrid hz start n deadline now) (begun : start ≤ now) :
    n = ⌊(now - start) * hz⌋₊ + 1 := by
  obtain ⟨grid, ahead, close⟩ := at'
  have hz0 : (0 : Rat) < hz := by exact_mod_cast positive
  have above : (now - start) * hz < n := by
    have : now - start < n / hz := by linarith
    exact (lt_div_iff₀ hz0).1 this
  have below : (n : Rat) ≤ (now - start) * hz + 1 := by
    have : (n : Rat) / hz ≤ now - start + 1 / hz := by linarith
    rw [div_le_iff₀ hz0, add_mul, one_div_mul_cancel hz0.ne'] at this
    exact this
  have nonneg : 0 ≤ (now - start) * hz := mul_nonneg (by linarith) hz0.le
  obtain ⟨k, rfl⟩ : ∃ k, n = k + 1 := by
    refine ⟨n - 1, (Nat.sub_add_cancel ?_).symm⟩
    have : (0 : Rat) < n := by linarith
    exact_mod_cast this
  push_cast at above below
  rw [(Nat.floor_eq_iff nonneg).2 ⟨by linarith, above⟩]

/-- Ticks that do not come too late leave the clock on its grid. -/
theorem strikes (positive : 0 < hz) (at' : OnGrid hz start n deadline now) {catchUp : Bool} {times : List Rat}
    (gaps : (now :: times).IsChain fun a b => a ≤ b ∧ b - a ≤ maxGap catchUp hz) :
    ∃ d, OnGrid hz start (n + Clock.strikes catchUp hz deadline times) d ((now :: times).getLast (by simp)) := by
  induction times generalizing n deadline now with
  | nil => exact ⟨deadline, at'⟩
  | cons next times ih =>
    obtain ⟨⟨mono, gap⟩, gaps⟩ := List.isChain_cons_cons.1 gaps
    obtain ⟨d, last⟩ := ih (at'.strike positive mono gap) gaps
    refine ⟨d, ?_⟩
    rw [Clock.strikes, ← Nat.add_assoc, List.getLast_cons (by simp)]
    exact last

end OnGrid

/-- At ticks that do not come too late, a clock strikes once for each period since its first tick, and at this tick. -/
theorem strikes_eq (positive : 0 < hz) {catchUp : Bool} (start : Rat) (times : List Rat)
    (gaps : (start :: times).IsChain fun a b => a ≤ b ∧ b - a ≤ maxGap catchUp hz) :
    strikes catchUp hz start (start :: times) =
      ⌊((start :: times).getLast (by simp) - start) * hz⌋₊ + 1 := by
  have short : 1 / (hz : Rat) ≤ maxGap catchUp hz := by
    unfold maxGap
    split
    · have one : (1 : Rat) ≤ hz := by exact_mod_cast positive
      exact (div_le_one (by linarith)).2 one
    · exact le_refl _
  have hz0 : (0 : Rat) < 1 / hz := by positivity
  have all : ((start - 1 / hz) :: start :: times).IsChain fun a b => a ≤ b ∧ b - a ≤ maxGap catchUp hz :=
    List.isChain_cons_cons.2 ⟨⟨by linarith, by linarith⟩, gaps⟩
  obtain ⟨d, last⟩ := (OnGrid.first positive start).strikes positive all
  rw [Nat.zero_add, List.getLast_cons (by simp)] at last
  apply last.eq_floor positive
  have sorted : (start :: times).Pairwise (· ≤ ·) := (gaps.imp fun a b h => h.1).pairwise
  exact sorted.rel_getLast (by simp)

/-- A deadline that was met moves by one period at least, and lies one period ahead at most. -/
private theorem nextDeadline_bounds (hz : Nat) (due : deadline ≤ now) :
    deadline + 1 / hz ≤ Machine.nextDeadline deadline now (period hz) ∧
      Machine.nextDeadline deadline now (period hz) ≤ now + 1 / hz := by
  have both : deadline + 1 / (hz : Rat) ≤ now + 1 / hz := by linarith
  unfold Machine.nextDeadline
  split
  · exact ⟨both, le_refl _⟩
  · exact ⟨le_refl _, both⟩

/-- With ticks at any times, the last strike of a clock that makes up for nothing was at a deadline that had come. -/
private theorem last_strike (hz : Nat) (deadline : Rat) {latest : Rat} {times : List Rat}
    (bound : ∀ t ∈ times, t ≤ latest) :
    strikes false hz deadline times = 0 ∨ deadline + (strikes false hz deadline times - 1) / hz ≤ latest := by
  induction times generalizing deadline with
  | nil => exact .inl rfl
  | cons now times ih =>
    have here : now ≤ latest := bound now (by simp)
    have rest : ∀ t ∈ times, t ≤ latest := fun t h => bound t (by simp [h])
    rw [strikes, strike, if_neg Bool.false_ne_true]
    by_cases due : deadline ≤ now
    · have next := (nextDeadline_bounds hz due).1
      rw [if_pos (reached_iff.2 due)]
      simp only []
      right
      generalize Machine.nextDeadline deadline now (period hz) = d at next ⊢
      push_cast
      rw [add_sub_cancel_left]
      rcases ih d rest with none | last
      · rw [none, Nat.cast_zero, zero_div]
        linarith
      · rw [sub_div] at last
        linarith
    · rw [if_neg (mt reached_iff.1 due)]
      simpa using ih deadline rest

/-- With ticks at any times, a clock that makes up for nothing strikes no more often than once for each period up to the
latest tick, and once more. -/
theorem strikes_le (positive : 0 < hz) {deadline latest : Rat} {times : List Rat} (bound : ∀ t ∈ times, t ≤ latest) :
    strikes false hz deadline times ≤ ⌊(latest - deadline) * hz⌋₊ + 1 := by
  have hz0 : (0 : Rat) < hz := by exact_mod_cast positive
  rcases last_strike hz deadline bound with none | last
  · omega
  · have passed : (strikes false hz deadline times : Rat) - 1 ≤ (latest - deadline) * hz :=
      (div_le_iff₀ hz0).1 (by linarith)
    have floor := Nat.lt_floor_add_one ((latest - deadline) * hz)
    have small : (strikes false hz deadline times : Rat) < (⌊(latest - deadline) * hz⌋₊ + 1 + 1 : Nat) := by
      push_cast
      linarith
    exact Nat.lt_succ_iff.1 (by exact_mod_cast small)

/-- With ticks that are one period apart or more, a clock that makes up for nothing strikes at every tick. -/
theorem strikes_eq_length (positive : 0 < hz) (start : Rat) (times : List Rat)
    (gaps : (start :: times).IsChain fun a b => 1 / (hz : Rat) ≤ b - a) :
    strikes false hz start (start :: times) = (start :: times).length := by
  have hz0 : (0 : Rat) < 1 / hz := by positivity
  -- at each tick the deadline is at most one period ahead of the tick before
  suffices all : ∀ (deadline now : Rat) (times : List Rat), deadline ≤ now + 1 / hz →
      (now :: times).IsChain (fun a b => 1 / (hz : Rat) ≤ b - a) →
      strikes false hz deadline times = times.length from
    all start (start - 1 / hz) (start :: times) (by linarith) (List.isChain_cons_cons.2 ⟨by linarith, gaps⟩)
  intro deadline now times
  induction times generalizing deadline now with
  | nil =>
    intro _ _
    rfl
  | cons next times ih =>
    intro close gaps
    obtain ⟨gap, gaps⟩ := List.isChain_cons_cons.1 gaps
    have due : deadline ≤ next := by linarith
    have close' := (nextDeadline_bounds hz due).2
    rw [strikes, strike, if_neg Bool.false_ne_true, if_pos (reached_iff.2 due), ih _ next close' gaps, List.length_cons,
      Nat.add_comm]

end Clock

end Chip8
