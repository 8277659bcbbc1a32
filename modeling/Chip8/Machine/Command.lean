import Chip8.Machine.Tick

/-!
# Histories

Everything that a host can do to a machine is a `Command`; a history is a list of them.  `Machine.apply` gives the
machine after a command and what went wrong, if anything did; `Machine.after` is the machine after a history, in which
refused images and faults do not keep later commands from being applied.
-/

namespace Chip8

/-- An action of the host on the machine. -/
inductive Command (τ : Type) where
  | load (image : List UInt8)
  | reset
  | execute
  | tick (now : τ)
  | setKey (key : Int) (pressed : Bool)
  | releaseAll
  /-- Choose whether late ticks make up for everything that is overdue. -/
  | setCatchUp (catchUp : Bool)
deriving DecidableEq

/-- What can go wrong with a command. -/
inductive Trouble where
  | image (error : ImageError)
  | fault (fault : Fault)
deriving DecidableEq

namespace Machine

variable {τ : Type} [TimeBase τ]

def apply (m : Machine τ) : Command τ → Machine τ × Option Trouble
  | .load image =>
    match m.load image with
    | .ok loaded => (loaded, none)
    | .error e => (m, some (.image e))
  | .reset => (m.reset, none)
  | .execute => let (next, fault) := m.execute; (next, fault.map .fault)
  | .tick now => let (next, fault) := m.tick now; (next, fault.map .fault)
  | .setKey key pressed => ({ m with keypad := m.keypad.set key pressed }, none)
  | .releaseAll => ({ m with keypad := m.keypad.releaseAll }, none)
  | .setCatchUp catchUp => ({ m with catchUp := catchUp }, none)

/-- The machine after a history. -/
def after (m : Machine τ) : List (Command τ) → Machine τ
  | [] => m
  | c :: rest => (m.apply c).1.after rest

end Machine

end Chip8
