import Chip8.Display
import Chip8.Text.Numeral

/-!
# Frames

A frame is the picture of a display in two colours.

* `buildFrame` colours a row-major list of pixels, each zero for off or one for on, and refuses colours that are none,
  lists of the wrong length and other pixel values, in this order;
* `Frame.ofDisplay` is the frame of a display.
-/

namespace Chip8

open Text (decimal misfit)

/-- A colour. -/
structure Colour where
  red : UInt8
  green : UInt8
  blue : UInt8
deriving DecidableEq, Repr

def pixelOff : Colour := ⟨20, 20, 20⟩

def pixelOn : Colour := ⟨255, 255, 255⟩

/-- Three numbers that are meant as the components of a colour. -/
structure Shade where
  red : Int
  green : Int
  blue : Int
deriving DecidableEq, Repr

/-- The components of a colour. -/
def Colour.shade (c : Colour) : Shade := ⟨c.red.toNat, c.green.toNat, c.blue.toNat⟩

/-- Why a frame cannot be built. -/
inductive FrameError where
  /-- A component of a colour is no byte. -/
  | componentOutOfRange (value : Int)
  /-- The number of pixels is not that of a display. -/
  | wrongSize (size : Nat)
  /-- The value of a pixel is neither zero nor one. -/
  | pixelOutOfRange (value : UInt8)
deriving DecidableEq, Repr

def FrameError.message : FrameError → String
  | componentOutOfRange value => misfit value "uint8"
  | wrongSize size => "cannot reshape array of size " ++ decimal size ++ " into shape (32,64)"
  | pixelOutOfRange value =>
    "index " ++ decimal value.toNat ++ " is out of bounds for axis 0 with size 2"

def component (value : Int) : Except FrameError UInt8 :=
  if 0 ≤ value ∧ value < 256 then .ok (UInt8.ofNat value.toNat) else .error (.componentOutOfRange value)

/-- The colour with the given components, of which the first that is no byte is refused. -/
def Shade.colour (s : Shade) : Except FrameError Colour := do
  let red ← component s.red
  let green ← component s.green
  let blue ← component s.blue
  return ⟨red, green, blue⟩

/-- A picture of 64 by 32 pixels. -/
structure Frame where
  /-- The colours of the pixels, row by row from the top. -/
  colours : List Colour
deriving DecidableEq, Repr

namespace Frame

def at? (f : Frame) (x y : Nat) : Option Colour := if x < 64 then f.colours[y * 64 + x]? else none

def ofDisplay (d : Display) (off on : Colour) : Frame :=
  ⟨d.pixels.toList.map fun lit => if lit then on else off⟩

end Frame

def pixelColour (off on : Colour) (pixel : UInt8) : Except FrameError Colour :=
  if pixel = 0 then .ok off else if pixel = 1 then .ok on else .error (.pixelOutOfRange pixel)

/-- The frame of a list of pixels. -/
def buildFrame (pixels : List UInt8) (off on : Shade) : Except FrameError Frame := do
  let off ← off.colour
  let on ← on.colour
  if pixels.length ≠ 2048 then throw (.wrongSize pixels.length)
  let colours ← pixels.mapM (pixelColour off on)
  return ⟨colours⟩

/-- The pixels of a display, each zero or one. -/
def Display.bytes (d : Display) : List UInt8 := d.pixels.toList.map fun lit => if lit then 1 else 0

/-- The frame of a display in the given colours. -/
def render (d : Display) (off on : Shade) : Except FrameError Frame := buildFrame d.bytes off on

end Chip8
