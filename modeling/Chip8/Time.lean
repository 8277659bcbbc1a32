/-!
# Time

The machine and its window read a clock.  What a time is stays open: `TimeBase` asks for just the operations that they
use, and both the binary64 numbers, in which clocks tell seconds, and the rational numbers, in which the arithmetic of
periods is exact, provide them.

A comparison with a number that is not a number is false, so a deadline or a clock of that kind makes nothing due.
-/

namespace Chip8

/-- Numbers that can serve as times in seconds. -/
class TimeBase (τ : Type) where
  /-- The time at which clocks begin. -/
  zero : τ
  /-- The time that lies so much later. -/
  later (time length : τ) : τ
  /-- The length from a time on to another. -/
  since (start now : τ) : τ
  /-- Is a deadline reached, or a length as great as asked for? -/
  reached (deadline now : τ) : Bool
  /-- The time between two events that happen so often a second. -/
  period (hz : Nat) : τ
  /-- How often a second something happened that was counted over a length of time. -/
  rate (count : Nat) (length : τ) : τ

/-- Times as binary64 numbers. -/
instance TimeBase.binary64 : TimeBase Float where
  zero := 0.0
  later time length := time + length
  since start now := now - start
  reached deadline now := decide (deadline ≤ now)
  period hz := 1.0 / Float.ofNat hz
  rate count length := Float.ofNat count / length

/-- Times as rational numbers. -/
instance TimeBase.exact : TimeBase Rat where
  zero := 0
  later time length := time + length
  since start now := now - start
  reached deadline now := decide (deadline ≤ now)
  period hz := 1 / hz
  rate count length := count / length

/-- How many instructions the machine executes in a second. -/
def instructionHz : Nat := 500

/-- How often the timers of the machine count down in a second. -/
def timerHz : Nat := 60

/-- The time from one instruction to the next. -/
def instructionPeriod {τ : Type} [TimeBase τ] : τ := TimeBase.period instructionHz

/-- The time from one step of the timers to the next. -/
def timerPeriod {τ : Type} [TimeBase τ] : τ := TimeBase.period timerHz

end Chip8
