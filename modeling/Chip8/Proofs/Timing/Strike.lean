import Chip8.Machine.Tick

/-!
# Strikes

The machine has a clock for its instructions and one for its timers.  What a tick does to a clock depends on nothing but
its deadline, the time and the way to deal with late ticks; it is said here once for both clocks.

* `Clock.strike` is how often a clock strikes at a tick, and its next deadline; `Clock.strikes` counts over several
  ticks;
* a clock that is less than one period late strikes alike in both ways (`Clock.strike_true`).
-/

namespace Chip8

open TimeBase (later reached period)

namespace Clock

variable {τ : Type} [TimeBase τ]

/-- What a clock does at a tick. -/
structure Strike (τ : Type) where
  times : Nat
  /-- When the clock is due again. -/
  deadline : τ
deriving DecidableEq

/-- Strikes for every deadline that is reached at time `now`, up to the given number of times. -/
def makeUp (hz : Nat) (now : τ) : Nat → τ → Strike τ
  | 0, deadline => ⟨0, Machine.cutDeadline deadline now (period hz)⟩
  | n + 1, deadline =>
    if reached deadline now then
      let rest := makeUp hz now n (later deadline (period hz))
      ⟨rest.times + 1, rest.deadline⟩
    else ⟨0, deadline⟩

/-- What a clock of some strikes a second does at time `now`. -/
def strike (catchUp : Bool) (hz : Nat) (deadline now : τ) : Strike τ :=
  if catchUp then makeUp hz now hz deadline
  else if reached deadline now then ⟨1, Machine.nextDeadline deadline now (period hz)⟩
  else ⟨0, deadline⟩

/-- How often a clock strikes at ticks at some times. -/
def strikes (catchUp : Bool) (hz : Nat) : τ → List τ → Nat
  | _, [] => 0
  | deadline, now :: rest =>
    (strike catchUp hz deadline now).times + strikes catchUp hz (strike catchUp hz deadline now).deadline rest

/-- A deadline moved by some periods. -/
def postponed (hz : Nat) : Nat → τ → τ
  | 0, deadline => deadline
  | n + 1, deadline => postponed hz n (later deadline (period hz))

/-- Is the clock less than one period late, if it is due at all? -/
def InTime (hz : Nat) (deadline now : τ) : Prop :=
  reached deadline now = true → reached (later deadline (period hz)) now = false

/-- A clock that is in time strikes once if it is due, whether it makes up for late ticks or not. -/
theorem strike_true {hz : Nat} (positive : 0 < hz) {deadline now : τ} (inTime : InTime hz deadline now) :
    strike true hz deadline now = strike false hz deadline now := by
  obtain ⟨n, rfl⟩ : ∃ n, hz = n + 1 := ⟨hz - 1, by omega⟩
  unfold strike
  rw [if_pos rfl, if_neg Bool.false_ne_true, makeUp]
  by_cases due : reached deadline now = true
  · have early := inTime due
    have next : makeUp (n + 1) now n (later deadline (period (n + 1))) = ⟨0, later deadline (period (n + 1))⟩ := by
      cases n with
      | zero => rw [makeUp, Machine.cutDeadline, early, if_neg Bool.false_ne_true]
      | succ n => rw [makeUp, early, if_neg Bool.false_ne_true]
    rw [if_pos due, if_pos due, next, Machine.nextDeadline, early, if_neg Bool.false_ne_true]
  · rw [if_neg due, if_neg due]

end Clock

end Chip8
