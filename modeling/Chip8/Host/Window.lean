import Chip8.Frame
import Chip8.Host.Input
import Chip8.Machine.Tick
import Chip8.Sound.Speaker
import Chip8.Text.Fixed

/-!
# The window

The window runs a machine.  Each round of its loop takes in the events that have come up, lets the machine tick, turns
the tone on or off and shows the display, the latter at most 60 times a second.

* `Window.create` makes a window, unless there is no speaker for it, and `Window.start` begins its loop;
* `Window.round` is a round of the loop, at a time and with events.  All events of the round are taken in; if one of
  them asks to quit, the machine does not tick any more;
* `Window.run` is the whole loop on a script of rounds, behind which the window is closed.  Whichever way the loop ends,
  the speaker is shut down.

The window measures how often a second it shows the display, over lengths of at least one second.
-/

namespace Chip8

/-- The smallest and the largest size of a pixel of the display. -/
def scaleBounds : Nat × Nat := (1, 32)

/-- How often a second the display is shown at most. -/
def presentHz : Nat := 60

/-- A window and the machine that runs in it. -/
structure Window (τ : Type) where
  machine : Machine τ
  speaker : Speaker
  /-- The size of a pixel of the display. -/
  scale : Nat
  running : Bool
  quitRequested : Bool
  /-- The time from which on the display may be shown again. -/
  nextPresent : τ
  /-- How often the display was shown since `countedFrom`. -/
  shown : Nat
  /-- Since when showing the display is counted. -/
  countedFrom : τ
  /-- How often a second the display was shown, once that was measured. -/
  fps : Option τ
  /-- The picture in the window, once there is one. -/
  picture : Option Frame

namespace Window

variable {τ : Type} [TimeBase τ]

/-- A size of a pixel within the bounds. -/
def clampScale (scale : Int) : Nat := (max (scaleBounds.1 : Int) (min (scaleBounds.2 : Int) scale)).toNat

/-- A window for a machine that has not shown anything yet. -/
def fresh (machine : Machine τ) (scale : Int) (speaker : Speaker) : Window τ where
  machine := machine
  speaker := speaker
  scale := clampScale scale
  running := false
  quitRequested := false
  nextPresent := TimeBase.zero
  shown := 0
  countedFrom := TimeBase.zero
  fps := none
  picture := none

/-- A window for a machine; the calls are those of its speaker. -/
def create (machine : Machine τ) (scale : Int) (mixer : Mixer) (sound : Bool) :
    Except WaveError (Window τ × List MixerCall) :=
  match Speaker.create mixer sound with
  | .error e => .error e
  | .ok (speaker, calls) => .ok (fresh machine scale speaker, calls)

def size (w : Window τ) : Nat × Nat := (Display.width * w.scale, Display.height * w.scale)

def start (w : Window τ) (now : τ) : Window τ := { w with running := true, shown := 0, countedFrom := now }

def handleEvents (w : Window τ) (events : List HostEvent) : Window τ :=
  let input := Input.handleAll ⟨w.machine.keypad, w.quitRequested⟩ events
  { w with machine := { w.machine with keypad := input.keypad }, quitRequested := input.quitRequested }

/-- Counts a showing of the display. -/
def measure (w : Window τ) (now : τ) : Window τ :=
  let length := TimeBase.since w.countedFrom now
  if TimeBase.reached (TimeBase.period 1) length then
    { w with fps := some (TimeBase.rate (w.shown + 1) length), shown := 0, countedFrom := now }
  else { w with shown := w.shown + 1 }

/-- Shows the display if it is time to. -/
def present (w : Window τ) (now : τ) : Window τ :=
  if TimeBase.reached w.nextPresent now then
    { w with
      picture := some (Frame.ofDisplay w.machine.display pixelOff pixelOn)
      nextPresent := TimeBase.later now (TimeBase.period presentHz) }.measure now
  else w

/-- What came of a round. -/
inductive Outcome where
  /-- The loop goes on, after some calls to the mixer. -/
  | continued (calls : List MixerCall)
  | stopped
  | faulted (fault : Fault)
deriving DecidableEq

def round (w : Window τ) (now : τ) (events : List HostEvent) : Window τ × Outcome :=
  let w := w.handleEvents events
  if w.quitRequested then ({ w with running := false }, .stopped)
  else match w.machine.tick now with
    | (machine, some fault) => ({ w with machine := machine }, .faulted fault)
    | (machine, none) =>
      let (speaker, calls) := w.speaker.update machine.soundActive
      ({ w with machine := machine, speaker := speaker }.present now, .continued calls)

/-- A run of the loop. -/
structure Run (τ : Type) where
  /-- The window after each round that was completed, and the calls to the mixer in it. -/
  rounds : List (Window τ × List MixerCall)
  /-- The window at the end. -/
  last : Window τ
  /-- The calls to the mixer at the end. -/
  calls : List MixerCall
  /-- The fault that ended the run, if one did. -/
  fault : Option Fault

def finish (w : Window τ) (fault : Option Fault) : Run τ :=
  let (speaker, calls) := w.speaker.shutdown
  ⟨[], { w with speaker := speaker }, calls, fault⟩

/-- The rounds of a script, behind which the window is closed. -/
def rounds (w : Window τ) : List (τ × List HostEvent) → Run τ
  | [] => { w with quitRequested := true, running := false }.finish none
  | (now, events) :: rest =>
    match w.round now events with
    | (next, .continued calls) =>
      let run := next.rounds rest
      { run with rounds := (next, calls) :: run.rounds }
    | (stopped, .stopped) => stopped.finish none
    | (stopped, .faulted fault) => stopped.finish (some fault)

/-- The whole loop, begun at a time. -/
def run (w : Window τ) (now : τ) (script : List (τ × List HostEvent)) : Run τ := (w.start now).rounds script

def title : String := "CHIP-8 Interpreter"

/-- The text in the title bar of the window. -/
def caption (w : Window Float) : String :=
  match w.fps with
  | none => title
  | some fps => title ++ "  [" ++ Text.oneDecimal fps ++ " fps]"

end Window

end Chip8
