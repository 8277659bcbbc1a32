import Chip8.Host.Window

/-!
# The bare loop of the window

The loop of the window once more, as a program of the host that changes the window one field after the other, calls the
mixer where a call is due and ends early with an exception.  `Window` has the results of all this in its functions, and
its mixer does not fail; here

* a round that faults is left in the middle, and everything that was changed before stays changed;
* a mixer can refuse to stop a channel, which is an exception too, and shutting the speaker down has to catch it;
* the speaker is shut down behind the loop whatever ends it (`Host.run`).

A host keeps a record of what it did: all calls to the mixer, the window at the end of each round that let the machine
tick, and how often the speaker was shut down.
-/

namespace Chip8

open TimeBase (later reached period)

/-- Why something that the host does ended early. -/
inductive Interruption where
  | fault (fault : Fault)
  /-- The mixer failed. -/
  | mixer
deriving DecidableEq

/-- A window, and what was done with it so far. -/
structure Host (τ : Type) where
  window : Window τ
  /-- The calls to the mixer. -/
  calls : List MixerCall
  /-- The window at the end of each round in which the machine ticked. -/
  rounds : List (Window τ)
  /-- How often the speaker was shut down. -/
  shutdowns : Nat

/-- Something that a host does, which may end early and then keeps what it has changed so far. -/
abbrev HostAction (τ α : Type) := EStateM Interruption (Host τ) α

namespace Host

variable {τ : Type}

def call (c : MixerCall) : HostAction τ Unit := modify fun h => { h with calls := h.calls ++ [c] }

def changeWindow (f : Window τ → Window τ) : HostAction τ Unit := modify fun h => { h with window := f h.window }

def changeSpeaker (f : Speaker → Speaker) : HostAction τ Unit :=
  changeWindow fun w => { w with speaker := f w.speaker }

def changeKeypad (f : Keypad → Keypad) : HostAction τ Unit :=
  changeWindow fun w => { w with machine := { w.machine with keypad := f w.machine.keypad } }

def requestQuit : HostAction τ Unit := changeWindow fun w => { w with quitRequested := true }

/-! ### Events -/

def send (code : Int) (pressed : Bool) : HostAction τ Unit :=
  match keyOf? code with
  | none => return ()
  | some key => changeKeypad (·.set key.val pressed)

def handle : HostEvent → HostAction τ Unit
  | .quit => requestQuit
  | .keyDown code => if code = escapeCode then requestQuit else send code true
  | .keyUp code => send code false
  | .focusLost => changeKeypad (·.releaseAll)
  | .other => return ()

/-- Handles all events that are waiting. -/
def poll : List HostEvent → HostAction τ Unit
  | [] => return ()
  | e :: rest => do
    handle e
    poll rest

/-! ### The tone -/

def startTone : HostAction τ Unit := do
  changeSpeaker fun s => { s with playing := true }
  if (← get).window.speaker.hasChannel then
    call .unpause

def stopTone : HostAction τ Unit := do
  changeSpeaker fun s => { s with playing := false }
  if (← get).window.speaker.hasChannel then
    call .pause

def updateTone (active : Bool) : HostAction τ Unit := do
  let playing := (← get).window.speaker.playing
  if active && !playing then
    startTone
  else if !active && playing then
    stopTone

/-- Stops the channel, which the mixer may refuse after it was called. -/
def stopChannel : HostAction τ Unit := do
  call .stop
  if (← get).window.speaker.mixer.stopFails then
    throw .mixer

/-- Stops the channel, whether the mixer refuses or not. -/
def silence : HostAction τ Unit := do
  try
    stopChannel
  catch
    | .mixer => pure ()
    | e => throw e

def shutDown : HostAction τ Unit := do
  modify fun h => { h with shutdowns := h.shutdowns + 1 }
  if (← get).window.speaker.hasChannel then
    silence
    changeSpeaker fun s => { s with hasChannel := false }
  changeSpeaker fun s => { s with playing := false }
  if (← get).window.speaker.mixerRunning then
    call .quit
    changeSpeaker fun s => { s with mixerRunning := false }

/-! ### The loop -/

variable [TimeBase τ]

def tick (now : τ) : HostAction τ Unit := do
  let (machine, fault) := (← get).window.machine.tick now
  changeWindow fun w => { w with machine := machine }
  match fault with
  | none => return ()
  | some f => throw (.fault f)

/-- Counts a showing of the display, and measures how often a second it is shown. -/
def measure (now : τ) : HostAction τ Unit := do
  changeWindow fun w => { w with shown := w.shown + 1 }
  let w := (← get).window
  let length := TimeBase.since w.countedFrom now
  if reached (period 1) length then
    changeWindow fun w => { w with fps := some (TimeBase.rate w.shown length) }
    changeWindow fun w => { w with shown := 0 }
    changeWindow fun w => { w with countedFrom := now }

def present (now : τ) : HostAction τ Unit := do
  if reached (← get).window.nextPresent now then
    changeWindow fun w => { w with picture := some (Frame.ofDisplay w.machine.display pixelOff pixelOn) }
    changeWindow fun w => { w with nextPresent := later now (period presentHz) }
    measure now

def round (now : τ) (events : List HostEvent) : HostAction τ Unit := do
  poll events
  if (← get).window.quitRequested then
    changeWindow fun w => { w with running := false }
  else
    tick now
    updateTone (← get).window.machine.soundActive
    present now
    modify fun h => { h with rounds := h.rounds ++ [h.window] }

/-- The rounds of a script from a time on, as long as the window is running.  Behind the script it is closed. -/
def loop (now : τ) : List (τ × List HostEvent) → HostAction τ Unit
  | [] => round now [.quit]
  | (time, events) :: rest => do
    round time events
    if (← get).window.running then
      loop time rest

/-- The whole loop, begun at a time, and what comes behind it. -/
def run (now : τ) (script : List (τ × List HostEvent)) : HostAction τ Unit := do
  changeWindow fun w => { w with running := true }
  changeWindow fun w => { w with countedFrom := now }
  changeWindow fun w => { w with shown := 0 }
  try
    loop now script
  finally
    shutDown

/-- What an action leaves, and why it ended early, if it did. -/
def act (h : Host τ) (a : HostAction τ Unit) : Host τ × Option Interruption :=
  match a.run h with
  | .ok () next => (next, none)
  | .error e next => (next, some e)

/-- A host with a window with which nothing was done yet; the calls are those that were made for the window. -/
def opened (w : Window τ) (calls : List MixerCall) : Host τ := ⟨w, calls, [], 0⟩

end Host

end Chip8
