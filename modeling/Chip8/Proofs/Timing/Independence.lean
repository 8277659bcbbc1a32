import Chip8.Proofs.Timing.Clock
import Chip8.Proofs.Timing.Counts
import Chip8.Proofs.Timing.Cpu
import Mathlib.Tactic.NormNum

/-!
# Schedules that cannot be told apart

With exact times, a machine that catches up and is never more than a second late has run, after each tick, just the
slots whose deadlines have passed (`Clock.strikes_eq`).  The ticks decide how slots and steps of the timers mix, but a
program that does not read the delay timer does not notice.  So from a reset on, two schedules with the same first and
the same last tick lead to the same state, up to the timers, and to the same fault
(`Machine.schedule_independent`).
-/

namespace Chip8

open Clock (overdue strikes)

namespace Machine

/-- What one tick that comes less than a second late does: it runs the slots whose deadlines have passed. -/
private theorem tick_slots {a b : Machine Rat} (on : a.halted = false) (mode : a.catchUp = true) {now : Rat}
    (late : now < (a.scheduleAt now).instruction + 1) (same : a.cpu = b.cpu)
    (unread : a.readsDelayIn (a.moves (.tick now)) = false) :
    let d := (a.scheduleAt now).instruction
    let r := b.executeUpTo 0 (overdue 500 d now)
    (a.tick now).1.cpu = r.1.cpu ∧ (a.tick now).2 = r.2.2 ∧
      (a.tick now).1.schedule.map Schedule.instruction = some (d + r.2.1 / 500) := by
  intro d r
  have due : a.instructionStrike now = ⟨overdue 500 d now, d + overdue 500 d now / 500⟩ := by
    rw [instructionStrike, mode]
    exact Clock.strike_true_of_lt (by decide) late
  have unread' : a.readsDelayIn (List.replicate (a.slotsUpTo (overdue 500 d now)) .slot) = false := by
    rw [moves, readsDelayIn_append, Bool.or_eq_false_iff, slotsAt_eq on, due] at unread
    exact unread.1
  obtain ⟨state, rest⟩ := executeUpTo_of_cpu_eq same 0 unread'
  rcases slots : a.executeUpTo 0 (overdue 500 d now) with ⟨n, ran, _ | f⟩
  · have all : ran = overdue 500 d now := (executeUpTo_add_of_none slots).1
    rw [slots] at state rest
    have ticked := tick_of_none on (by rw [due]; exact slots)
    rw [ticked]
    refine ⟨?_, congrArg Prod.snd rest, ?_⟩
    · exact (cpu_play_timers n _).trans state
    · rw [due, ← congrArg Prod.fst rest, all]
      rfl
  · rw [slots] at state rest
    have ticked := tick_of_fault on (by rw [due]; exact slots)
    rw [ticked]
    refine ⟨state, congrArg Prod.snd rest, ?_⟩
    rw [← congrArg Prod.fst rest, Clock.postponed_eq]
    rfl

private theorem scheduleAt_of_map {a : Machine Rat} {d : Rat} (h : a.schedule.map Schedule.instruction = some d)
    (now : Rat) : (a.scheduleAt now).instruction = d := by
  obtain ⟨s, schedule, rfl⟩ := Option.map_eq_some_iff.1 h
  rw [scheduleAt, schedule]
  rfl

/-- If ticks read nothing, the first does not, and unless it raises a fault the others do not. -/
private theorem unread_cons {a : Machine Rat} (on : a.halted = false) {now : Rat} {times : List Rat}
    (unread : a.readsDelayIn (a.historyMoves ((now :: times).map .tick)) = false) :
    a.readsDelayIn (a.moves (.tick now)) = false ∧
      ((a.tick now).2 = none →
        (a.tick now).1.readsDelayIn ((a.tick now).1.historyMoves (times.map .tick)) = false) := by
  have split : a.historyMoves ((now :: times).map .tick) =
      a.moves (.tick now) ++ (a.tick now).1.historyMoves (times.map .tick) := rfl
  rw [split, readsDelayIn_append, Bool.or_eq_false_iff] at unread
  obtain ⟨first, rest⟩ := unread
  refine ⟨first, ?_⟩
  intro clean
  generalize (a.tick now).1.historyMoves (times.map .tick) = later at rest ⊢
  rw [(tick_of_clean on clean).1, readsDelayIn_retime]
  exact rest

/-- What several ticks do that are at most a second apart: they run the slots for which the clock strikes. -/
private theorem ticks_slots {a b : Machine Rat} (on : a.halted = false) (mode : a.catchUp = true) {now : Rat}
    {times : List Rat} (late : now < (a.scheduleAt now).instruction + 1)
    (gaps : (now :: times).IsChain fun p q => p ≤ q ∧ q - p ≤ 1) (same : a.cpu = b.cpu)
    (unread : a.readsDelayIn (a.historyMoves ((now :: times).map .tick)) = false) :
    let d := (a.scheduleAt now).instruction
    let r := b.executeUpTo 0 (strikes true 500 d (now :: times))
    (a.ticks (now :: times)).1.cpu = r.1.cpu ∧ (a.ticks (now :: times)).2 = r.2.2 ∧
      (a.ticks (now :: times)).1.schedule.map Schedule.instruction = some (d + r.2.1 / 500) := by
  induction times generalizing a b now with
  | nil =>
    intro d r
    have one : strikes true 500 d [now] = overdue 500 d now := by
      rw [strikes, Clock.strike_true_of_lt (by decide) late]
      rfl
    have single : a.ticks [now] = a.tick now := by
      unfold ticks
      rcases a.tick now with ⟨n, _ | f⟩ <;> rfl
    rw [single]
    simp only [r]
    rw [one]
    exact tick_slots on mode late same (unread_cons on unread).1
  | cons next times ih =>
    intro d r
    obtain ⟨⟨mono, gap⟩, gaps⟩ := List.isChain_cons_cons.1 gaps
    obtain ⟨unread, unread'⟩ := unread_cons on unread
    obtain ⟨state, fault, deadline⟩ := tick_slots on mode late same unread
    have total : strikes true 500 d (now :: next :: times) =
        overdue 500 d now + strikes true 500 (d + overdue 500 d now / 500) (next :: times) := by
      rw [strikes, Clock.strike_true_of_lt (by decide) late]
      rfl
    simp only [r]
    rw [total]
    rcases slots : b.executeUpTo 0 (overdue 500 d now) with ⟨n, ran, _ | f⟩
    · -- the other ticks go on where the slots of the first end
      obtain ⟨rfl, more⟩ := executeUpTo_add_of_none slots
      rw [slots] at state fault deadline
      obtain ⟨ticked, on'⟩ := tick_of_clean on fault
      have mode' : (a.tick now).1.catchUp = true := by
        rw [ticked]
        exact mode
      have due : ((a.tick now).1.scheduleAt next).instruction = d + overdue 500 d now / 500 :=
        scheduleAt_of_map deadline next
      have ahead : now < d + overdue 500 d now / (500 : Nat) := Clock.lt_add_overdue (by decide) d now
      have late' : next < ((a.tick now).1.scheduleAt next).instruction + 1 := by
        rw [due]
        push_cast at ahead
        linarith
      have rest := ih on' mode' late' gaps state (unread' fault)
      rw [due] at rest
      obtain ⟨state', fault', deadline'⟩ := rest
      rw [ticks_cons fault, more, executeUpTo_eq]
      refine ⟨state', fault', ?_⟩
      rw [deadline']
      push_cast
      ring_nf
    · have all : a.ticks (now :: next :: times) = a.tick now := by
        rw [slots] at fault
        rw [ticks_cons_of_fault (Prod.ext rfl fault)]
        exact Prod.ext rfl fault.symm
      rw [all, executeUpTo_add_of_fault slots, ← slots]
      exact ⟨state, fault, deadline⟩

/-- Two schedules from a reset on that have the first and the last tick in common, without gaps of more than a second:
if neither run reads the delay timer, they lead to the same state, up to the timers, to the same deadline and to the
same fault. -/
theorem schedule_independent {m : Machine Rat} (mode : m.catchUp = true) {start : Rat} {times times' : List Rat}
    (gaps : (start :: times).IsChain fun a b => a ≤ b ∧ b - a ≤ 1)
    (gaps' : (start :: times').IsChain fun a b => a ≤ b ∧ b - a ≤ 1)
    (last : (start :: times).getLast (List.cons_ne_nil _ _) = (start :: times').getLast (List.cons_ne_nil _ _))
    (unread : m.reset.readsDelayIn (m.reset.historyMoves ((start :: times).map .tick)) = false)
    (unread' : m.reset.readsDelayIn (m.reset.historyMoves ((start :: times').map .tick)) = false) :
    (m.reset.ticks (start :: times)).1.cpu = (m.reset.ticks (start :: times')).1.cpu ∧
      (m.reset.ticks (start :: times)).1.schedule.map Schedule.instruction =
        (m.reset.ticks (start :: times')).1.schedule.map Schedule.instruction ∧
      (m.reset.ticks (start :: times)).2 = (m.reset.ticks (start :: times')).2 ∧
      -- the timers have a say in nothing else
      ∀ a b : Machine Rat, a.cpu = b.cpu →
        (∀ vs, a.readsDelayIn vs = false → (a.play vs).cpu = (b.play vs).cpu) ∧
          (a.readsDelay = false → a.execute.2 = b.execute.2) := by
  have late : start < (m.reset.scheduleAt start).instruction + 1 := lt_add_one start
  have slots : strikes true 500 start (start :: times) = strikes true 500 start (start :: times') := by
    have count : strikes true 500 start (start :: times) = _ := Clock.strikes_eq (by decide) start times gaps
    have count' : strikes true 500 start (start :: times') = _ := Clock.strikes_eq (by decide) start times' gaps'
    rw [count, count', last]
  obtain ⟨state, fault, deadline⟩ := ticks_slots (a := m.reset) (b := m.reset) rfl mode late gaps rfl unread
  obtain ⟨state', fault', deadline'⟩ := ticks_slots (a := m.reset) (b := m.reset) rfl mode late gaps' rfl unread'
  have anchor : (m.reset.scheduleAt start).instruction = start := rfl
  rw [anchor, ← slots] at state' fault' deadline'
  refine ⟨state.trans state'.symm, deadline.trans deadline'.symm, fault.trans fault'.symm, ?_⟩
  intro a b same
  exact ⟨fun vs unread => play_of_cpu_eq same unread, fun unread => (execute_of_cpu_eq same unread).2⟩

/-- A program that sets the delay timer and then returns without a call: the fault comes in the middle of a late tick,
and not in the same tick of both schedules. -/
theorem schedule_independent_of_fault :
    let m : Machine Rat := (fresh (.cycle [] 0) true).after [.load [0x60, 0xFF, 0xF0, 0x15, 0x00, 0xEE]]
    (m.reset.ticks [0, 1]).2 = some (.stackUnderflow 0x204) ∧
      (m.reset.ticks [0, 1 / 500, 1 / 2, 1]).2 = some (.stackUnderflow 0x204) ∧
      (m.reset.ticks [0, 1]).1.cpu = (m.reset.ticks [0, 1 / 500, 1 / 2, 1]).1.cpu := by
  intro m
  obtain ⟨fault, unread, unread'⟩ : (m.reset.ticks [0, 1]).2 = some (.stackUnderflow 0x204) ∧
      m.reset.readsDelayIn (m.reset.historyMoves [.tick 0, .tick 1]) = false ∧
      m.reset.readsDelayIn (m.reset.historyMoves [.tick 0, .tick (1 / 500), .tick (1 / 2), .tick 1]) = false := by
    decide +kernel
  have same := @schedule_independent m rfl 0 [1] [1 / 500, 1 / 2, 1] (by norm_num) (by norm_num) rfl unread unread'
  exact ⟨fault, same.2.2.1.symm.trans fault, same.1⟩

end Machine

end Chip8
