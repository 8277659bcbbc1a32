import Chip8.Keypad

/-!
# Host events

What the window's events do to the keypad.  The keypad lies on the left of the keyboard:

    Keypad         Keyboard
    1 2 3 C        1 2 3 4
    4 5 6 D        Q W E R
    7 8 9 E        A S D F
    A 0 B F        Z X C V

Closing the window and pressing Escape ask the host to quit; losing the focus lets go of all keys, since the window does
not see keys that are released elsewhere.
-/

namespace Chip8

/-- The keys of the keyboard, by the code of their unshifted character, and what they are on the keypad. -/
def keyMap : List (Int × Key) :=
  [(49, .ofNat 0x1), (50, .ofNat 0x2), (51, .ofNat 0x3), (52, .ofNat 0xC),
   (97, .ofNat 0x7), (99, .ofNat 0xB), (100, .ofNat 0x9), (101, .ofNat 0x6),
   (102, .ofNat 0xE), (113, .ofNat 0x4), (114, .ofNat 0xD), (115, .ofNat 0x8),
   (118, .ofNat 0xF), (119, .ofNat 0x5), (120, .ofNat 0x0), (122, .ofNat 0xA)]

/-- The key of the keypad for a code of the keyboard. -/
def keyOf? (code : Int) : Option Key := (keyMap.find? fun e => e.1 == code).map (·.2)

def escapeCode : Int := 27

/-- An event of the window. -/
inductive HostEvent where
  | keyDown (code : Int)
  | keyUp (code : Int)
  | quit
  | focusLost
  | other
deriving DecidableEq, Repr

/-- What events act on. -/
structure Input where
  keypad : Keypad
  quitRequested : Bool
deriving DecidableEq

namespace Input

/-- Passes a key of the keyboard on to the keypad. -/
def send (i : Input) (code : Int) (pressed : Bool) : Input :=
  match keyOf? code with
  | none => i
  | some key => { i with keypad := i.keypad.set key.val pressed }

def handle (i : Input) : HostEvent → Input
  | .quit => { i with quitRequested := true }
  | .keyDown code => if code = escapeCode then { i with quitRequested := true } else i.send code true
  | .keyUp code => i.send code false
  | .focusLost => { i with keypad := i.keypad.releaseAll }
  | .other => i

def handleAll (i : Input) (events : List HostEvent) : Input := events.foldl handle i

end Input

end Chip8
