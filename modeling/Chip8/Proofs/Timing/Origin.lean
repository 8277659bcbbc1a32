import Chip8.Proofs.Restart
import Chip8.Proofs.Timing.Clock
import Chip8.Proofs.Timing.Tick
import Mathlib.Tactic.NormNum

/-!
# The origin of time

A host may count its seconds from any moment on.  In exact arithmetic a tick compares times only with each other, so
with the deadlines and all ticks moved by the same length a machine goes through the same states, but for the
deadlines, and raises the same faults (`Machine.transcript_delayed`).  After a reset there are no deadlines to move:
the first tick sets them, so there only the ticks need to be moved (`BareMachine.origin_independent`).
-/

namespace Chip8

open TimeBase (later reached)
open Clock (Strike strike makeUp postponed)

/-- The same command, with its time moved by some length. -/
def Command.delayed (c : Rat) : Command Rat → Command Rat
  | .tick now => .tick (now + c)
  | e => e

/-- Does the command tell the time, or what happens on the keypad? -/
def Command.isEvent {τ : Type} : Command τ → Bool
  | .tick _ | .setKey .. | .releaseAll => true
  | .load _ | .reset | .execute | .setCatchUp _ => false

def Schedule.delayed (c : Rat) (s : Schedule Rat) : Schedule Rat := ⟨s.instruction + c, s.timer + c⟩

namespace Clock

variable (c : Rat)

def Strike.delayed (s : Strike Rat) : Strike Rat := ⟨s.times, s.deadline + c⟩

private theorem reached_delayed (deadline now : Rat) : reached (deadline + c) (now + c) = reached deadline now :=
  decide_eq_decide.2 (add_le_add_iff_right c)

private theorem later_delayed (time length : Rat) : later (time + c) length = later time length + c :=
  add_right_comm time c length

private theorem nextDeadline_delayed (deadline now length : Rat) :
    Machine.nextDeadline (deadline + c) (now + c) length = Machine.nextDeadline deadline now length + c := by
  unfold Machine.nextDeadline
  rw [later_delayed, later_delayed, reached_delayed]
  split <;> rfl

private theorem cutDeadline_delayed (deadline now length : Rat) :
    Machine.cutDeadline (deadline + c) (now + c) length = Machine.cutDeadline deadline now length + c := by
  unfold Machine.cutDeadline
  rw [later_delayed, reached_delayed]
  split <;> rfl

private theorem makeUp_delayed (hz : Nat) (now deadline : Rat) (n : Nat) :
    makeUp hz (now + c) n (deadline + c) = (makeUp hz now n deadline).delayed c := by
  induction n generalizing deadline with
  | zero =>
    unfold makeUp
    rw [cutDeadline_delayed]
    rfl
  | succ n ih =>
    unfold makeUp
    rw [reached_delayed, later_delayed, ih]
    split <;> rfl

/-- A clock takes no notice of the origin of time. -/
theorem strike_delayed (catchUp : Bool) (hz : Nat) (deadline now : Rat) :
    strike catchUp hz (deadline + c) (now + c) = (strike catchUp hz deadline now).delayed c := by
  unfold strike
  rw [makeUp_delayed, reached_delayed, nextDeadline_delayed]
  split
  · rfl
  · split <;> rfl

private theorem postponed_delayed (hz n : Nat) (deadline : Rat) :
    postponed hz n (deadline + c) = postponed hz n deadline + c := by
  rw [postponed_eq, postponed_eq, add_right_comm]

end Clock

namespace Machine

/-- The machine with its deadlines moved by some length. -/
def delayed (c : Rat) (m : Machine Rat) : Machine Rat := m.retime (m.schedule.map (·.delayed c)) m.catchUp

private theorem scheduleAt_delayed (c : Rat) (m : Machine Rat) (now : Rat) :
    (m.delayed c).scheduleAt (now + c) = (m.scheduleAt now).delayed c := by
  have schedule : (m.delayed c).schedule = m.schedule.map (·.delayed c) := rfl
  unfold scheduleAt
  rw [schedule]
  cases m.schedule <;> rfl

private theorem instructionStrike_delayed (c : Rat) (m : Machine Rat) (now : Rat) :
    (m.delayed c).instructionStrike (now + c) = (m.instructionStrike now).delayed c := by
  unfold instructionStrike
  rw [scheduleAt_delayed]
  exact Clock.strike_delayed c m.catchUp _ _ now

private theorem timerStrike_delayed (c : Rat) (m : Machine Rat) (now : Rat) :
    (m.delayed c).timerStrike (now + c) = (m.timerStrike now).delayed c := by
  unfold timerStrike
  rw [scheduleAt_delayed]
  exact Clock.strike_delayed c m.catchUp _ _ now

private theorem tick_delayed (c : Rat) (m : Machine Rat) (now : Rat) :
    (m.delayed c).tick (now + c) = ((m.tick now).1.delayed c, (m.tick now).2) := by
  cases on : m.halted with
  | true =>
    have on' : (m.delayed c).halted = true := on
    rw [tick, tick, if_pos on, if_pos on']
  | false =>
    have on' : (m.delayed c).halted = false := on
    have instructions := m.instructionStrike_delayed c now
    have run := m.executeUpTo_retime (m.schedule.map (·.delayed c)) m.catchUp 0 (m.instructionStrike now).times
    have due : ((m.delayed c).instructionStrike (now + c)).times = (m.instructionStrike now).times := by
      rw [instructions]
      rfl
    rcases slots : m.executeUpTo 0 (m.instructionStrike now).times with ⟨n, ran, _ | f⟩
    · rw [slots, ← due] at run
      rw [tick_of_none on slots, tick_of_none on' run, instructions, timerStrike_delayed, play_retime]
      rfl
    · rw [slots, ← due] at run
      rw [tick_of_fault on slots, tick_of_fault on' run, scheduleAt_delayed]
      simp only [Schedule.delayed, Clock.postponed_delayed]
      rfl

private theorem apply_delayed (c : Rat) (m : Machine Rat) (e : Command Rat) :
    (m.delayed c).apply (e.delayed c) = ((m.apply e).1.delayed c, (m.apply e).2) := by
  cases e with
  | load image =>
    simp only [Command.delayed, apply, load_eq]
    by_cases large : maxProgramSize < image.length
    · rw [if_pos large, if_pos large]
    · rw [if_neg large, if_neg large]
      rfl
  | execute =>
    have slot := m.execute_retime (m.schedule.map (·.delayed c)) m.catchUp
    have schedule : m.execute.1.schedule = m.schedule := m.schedule_play [.slot]
    have mode : m.execute.1.catchUp = m.catchUp := m.catchUp_play [.slot]
    simp only [Command.delayed, apply, delayed]
    rw [slot, schedule, mode]
  | tick now =>
    simp only [Command.delayed, apply]
    rw [tick_delayed]
  | reset | setKey | releaseAll | setCatchUp => rfl

/-- With the deadlines and all ticks moved by the same length, a machine goes through the same states, but for the
deadlines, and raises the same faults. -/
theorem transcript_delayed (c : Rat) (m : Machine Rat) (h : List (Command Rat)) :
    (m.delayed c).transcript ((h.map (·.delayed c)).map .command) =
      (m.transcript (h.map .command)).map fun r => (r.1.delayed c, r.2) := by
  induction h generalizing m with
  | nil => rfl
  | cons e rest ih =>
    simp only [List.map_cons, transcript, answer]
    rw [apply_delayed, ih]

theorem after_delayed (c : Rat) (m : Machine Rat) (h : List (Command Rat)) :
    (m.delayed c).after (h.map (·.delayed c)) = (m.after h).delayed c := by
  induction h generalizing m with
  | nil => rfl
  | cons e rest ih => rw [List.map_cons, after, apply_delayed, ih, after]

private theorem isSome_schedule_tick {m : Machine Rat} (ready : m.halted = false ∨ m.schedule.isSome = true)
    (now : Rat) : (m.tick now).1.schedule.isSome = true := by
  cases on : m.halted with
  | true =>
    rw [tick, if_pos on]
    simpa [on] using ready
  | false =>
    rcases slots : m.executeUpTo 0 (m.instructionStrike now).times with ⟨n, ran, _ | f⟩
    · rw [tick_of_none on slots]
      rfl
    · rw [tick_of_fault on slots]
      rfl

/-- The first of some ticks sets the deadlines, unless the machine is halted before. -/
private theorem isSome_schedule_after {m : Machine Rat} (ready : m.halted = false ∨ m.schedule.isSome = true)
    {h : List (Command Rat)} (events : ∀ e ∈ h, e.isEvent = true)
    (ticks : m.schedule.isSome = true ∨ ∃ now, .tick now ∈ h) : (m.after h).schedule.isSome = true := by
  induction h generalizing m with
  | nil =>
    obtain set | ⟨now, none⟩ := ticks
    · exact set
    · simp at none
  | cons e rest ih =>
    have first : e.isEvent = true := events e (by simp)
    have events' : ∀ d ∈ rest, d.isEvent = true := fun d hd => events d (by simp [hd])
    cases e with
    | load | reset | execute | setCatchUp => contradiction
    | tick now =>
      have set := isSome_schedule_tick ready now
      exact ih (.inr set) events' (.inl set)
    | setKey | releaseAll =>
      have ticks' : m.schedule.isSome = true ∨ ∃ now, .tick now ∈ rest := by simpa using ticks
      exact ih ready events' ticks'

end Machine

namespace BareMachine

/-- After a reset, ticks and events on the keypad raise the same faults and lead to the same state if all ticks come
later by some length, but for the deadlines, which are later by it too. -/
theorem origin_independent (random : RandomSource) (catchUp : Bool) (g : List (Command Rat)) (c : Rat)
    {h : List (Command Rat)} (events : ∀ e ∈ h, e.isEvent = true) (ticks : ∃ now, .tick now ∈ h) :
    let m := ((Machine.fresh random catchUp).after g).reset
    let s := (((fresh random catchUp).after g).apply .reset).1
    let late := h.map (·.delayed c)
    (m.transcript (late.map .command)).map Prod.snd = (m.transcript (h.map .command)).map Prod.snd ∧
      (∃ d e, (m.after h).schedule = some ⟨d, e⟩ ∧
        m.after late = { m.after h with schedule := some ⟨d + c, e + c⟩ }) ∧
      (∃ p, s = ofMachine m p) ∧
      (s.transcript (late.map .command)).map Prod.snd = (s.transcript (h.map .command)).map Prod.snd ∧
      (s.after late).seen =
        { (s.after h).seen with
          instructionDeadline := (s.after h).instructionDeadline + c
          timerDeadline := (s.after h).timerDeadline + c } := by
  intro m s late
  -- a machine that has no deadlines yet has none to move
  have delayed : m.delayed c = m := rfl
  have troubles : (m.transcript (late.map .command)).map Prod.snd = (m.transcript (h.map .command)).map Prod.snd := by
    have moved := Machine.transcript_delayed c m h
    rw [delayed] at moved
    rw [moved, List.map_map]
    rfl
  have set : (m.after h).schedule.isSome = true := Machine.isSome_schedule_after (.inl rfl) events (.inr ticks)
  obtain ⟨⟨d, e⟩, schedule⟩ := Option.isSome_iff_exists.1 set
  have last : m.after late = { m.after h with schedule := some ⟨d + c, e + c⟩ } := by
    have moved := Machine.after_delayed c m h
    rw [delayed] at moved
    rw [moved, Machine.delayed, schedule]
    rfl
  -- the same for the bare forms
  have fit : ((Machine.fresh random catchUp : Machine Rat).after g).Fit :=
    (Machine.sound_after_fresh random catchUp g).toFit
  have fit' : m.Fit := fit.apply .reset
  obtain ⟨p, before⟩ := after_fresh random catchUp g
  have same : s = ofMachine m p := by
    simp only [s]
    rw [before, apply_reset_ofMachine _ p fit]
  have stops : ∀ calls, (s.transcript calls).map Prod.snd =
      ((m.transcript calls).map Prod.snd).map (Option.map Stop.trouble) := by
    intro calls
    rw [same, transcript_ofMachine fit', List.map_map, List.map_map]
    rfl
  obtain ⟨q, run⟩ := after_ofMachine m p fit' h
  obtain ⟨q', run'⟩ := after_ofMachine m p fit' late
  refine ⟨troubles, ⟨d, e, schedule, last⟩, ⟨p, same⟩, ?_, ?_⟩
  · rw [stops, stops, troubles]
  · rw [same, run, run', last]
    simp only [ofMachine, seen, schedule]
    rfl

/-- A program that waits for a key and then returns from no call, run an hour later. -/
theorem origin_independent_wait :
    let s := (((fresh (.cycle [] 0) true : BareMachine Rat).after [.load [0xF0, 0x0A, 0x00, 0xEE]]).apply .reset).1
    let h : List (Command Rat) := [.tick 2, .setKey 5 true, .setKey 5 false, .tick (2 + 1 / 100), .tick 9]
    let late := h.map (·.delayed 3600)
    (s.transcript (late.map .command)).map Prod.snd =
        [none, none, none, some (.trouble (.fault (.stackUnderflow 0x202))), none] ∧
      (s.after late).instructionDeadline = 3602 + 2 / 500 := by
  intro s h late
  have events : ∀ e ∈ h, e.isEvent = true := by decide +kernel
  have ticks : ∃ now, .tick now ∈ h := ⟨9, by decide +kernel⟩
  have quiet : (s.transcript (h.map .command)).map Prod.snd =
      [none, none, none, some (.trouble (.fault (.stackUnderflow 0x202))), none] := by decide +kernel
  have due : (s.after h).instructionDeadline = 2 + 2 / 500 := by decide +kernel
  obtain ⟨-, -, -, stops, last⟩ :=
    origin_independent (.cycle [] 0) true [.load [0xF0, 0x0A, 0x00, 0xEE]] 3600 events ticks
  have visible : ∀ t : BareMachine Rat, t.instructionDeadline = t.seen.instructionDeadline := fun _ => rfl
  refine ⟨stops.trans quiet, ?_⟩
  rw [visible, last, due]
  norm_num

end BareMachine

end Chip8
