import Chip8.Machine.Execute

/-!
# Ticks

A host tells the machine the time by ticks.  Instructions fall due 500 times a second and the timers 60 times.

* The first tick after a reset sets both deadlines to its time, so both are due at once;
* as a rule a tick runs at most one slot and one step of the timers, in this order, and a deadline that is still not
  ahead of the tick after its period was added is set to one period after the tick (`nextDeadline`): a late host slows
  the machine down;
* a machine that catches up runs every slot and then every step that is overdue, up to one second's worth of each
  (`overdueSlots`, `overdueSteps`);
* a fault ends the tick at once: the deadline of the slot that caused it stays, and the timers are left alone.
-/

namespace Chip8

open TimeBase (later reached)

namespace Machine

variable {τ : Type} [TimeBase τ]

/-- The deadline after one that was met at time `now`. -/
def nextDeadline (deadline now period : τ) : τ :=
  if reached (later deadline period) now then later now period else later deadline period

/-- The deadline left over when no more may be made up for at time `now`: one that is still due gives way. -/
def cutDeadline (deadline now period : τ) : τ := if reached deadline now then later now period else deadline

/-- Runs the slots overdue at time `now`, up to the given number, and gives the next deadline. -/
def overdueSlots (now : τ) : Nat → Machine τ → τ → Machine τ × τ × Option Fault
  | 0, m, deadline => (m, cutDeadline deadline now instructionPeriod, none)
  | n + 1, m, deadline =>
    if reached deadline now then
      match m.execute with
      | (stopped, some fault) => (stopped, deadline, some fault)
      | (next, none) => overdueSlots now n next (later deadline instructionPeriod)
    else (m, deadline, none)

/-- Performs the steps of the timers overdue at time `now`, up to the given number, and gives the next deadline. -/
def overdueSteps (now : τ) : Nat → Machine τ → τ → Machine τ × τ
  | 0, m, deadline => (m, cutDeadline deadline now timerPeriod)
  | n + 1, m, deadline =>
    if reached deadline now then overdueSteps now n m.stepTimers (later deadline timerPeriod) else (m, deadline)

/-- The part of a tick that runs instructions. -/
def slotPhase (m : Machine τ) (now deadline : τ) : Machine τ × τ × Option Fault :=
  if m.catchUp then overdueSlots now instructionHz m deadline
  else if reached deadline now then
    match m.execute with
    | (stopped, some fault) => (stopped, deadline, some fault)
    | (next, none) => (next, nextDeadline deadline now instructionPeriod, none)
  else (m, deadline, none)

/-- The part of a tick that counts the timers down. -/
def timerPhase (m : Machine τ) (now deadline : τ) : Machine τ × τ :=
  if m.catchUp then overdueSteps now timerHz m deadline
  else if reached deadline now then (m.stepTimers, nextDeadline deadline now timerPeriod)
  else (m, deadline)

/-- The deadlines in force at a tick. -/
def scheduleAt (m : Machine τ) (now : τ) : Schedule τ := m.schedule.getD ⟨now, now⟩

/-- Advances the machine to time `now`. -/
def tick (m : Machine τ) (now : τ) : Machine τ × Option Fault :=
  if m.halted then (m, none)
  else match m.slotPhase now (m.scheduleAt now).instruction with
    | (stopped, deadline, some fault) =>
      ({ stopped with schedule := some ⟨deadline, (m.scheduleAt now).timer⟩ }, some fault)
    | (ran, deadline, none) =>
      let (stepped, timer) := ran.timerPhase now (m.scheduleAt now).timer
      ({ stepped with schedule := some ⟨deadline, timer⟩ }, none)

/-- Advances the machine to one time after the other and stops at a fault. -/
def ticks (m : Machine τ) : List τ → Machine τ × Option Fault
  | [] => (m, none)
  | now :: rest =>
    match m.tick now with
    | (stopped, some fault) => (stopped, some fault)
    | (next, none) => next.ticks rest

end Machine

end Chip8
