import Chip8.Text.Numeral

/-!
# The display

A display of 64 by 32 pixels, each on or off.

* A sprite is a list of rows of eight pixels.  `spriteCells` lists the pixels that it covers, row by row, with both
  coordinates taken modulo the size of the display;
* `Display.drawSprite` flips those pixels one after the other and tells whether one of them was switched off;
* `Display.pixelAt?` looks a pixel up by its row-major index, where negative indices count from the end.
-/

namespace Chip8

/-- A pixel of the display, by its row-major index. -/
abbrev Cell := Fin 2048

/-- The pixel in a column and row, both taken modulo the size of the display. -/
def cell (x y : Nat) : Cell := ⟨y % 32 * 64 + x % 64, by omega⟩

/-- Is the pixel in column `c`, counted from the left, on in a row of eight pixels?  Only the low eight bits of the
row count. -/
def rowBit (row : Int) (c : Nat) : Bool := (row >>> (7 - c)) % 2 == 1

/-- The pixels covered by one row of a sprite with its left end at `(x, y)`, from left to right. -/
def rowCells (x y : Nat) (row : Int) : List Cell :=
  ((List.range 8).filter (rowBit row)).map fun c => cell (x + c) y

/-- The pixels covered by a sprite with its corner at `(x, y)`, row by row.  A pixel that several rows cover is
listed once for each. -/
def spriteCells (x y : Nat) : List Int → List Cell
  | [] => []
  | row :: rest => rowCells x y row ++ spriteCells x (y + 1) rest

/-- The pixels of the display. -/
structure Display where
  /-- Which pixels are on, row by row from the top. -/
  pixels : Vector Bool 2048
deriving DecidableEq

namespace Display

def width : Nat := 64

def height : Nat := 32

def blank : Display := ⟨Vector.replicate 2048 false⟩

def isLit (d : Display) (p : Cell) : Bool := d.pixels[p]

/-- The display with one pixel changed to its opposite. -/
def flip (d : Display) (p : Cell) : Display := ⟨d.pixels.set p (!d.pixels[p])⟩

/-- Flips pixels one after the other; the truth value says whether one of them was on when its turn came. -/
def flips (d : Display) : List Cell → Display × Bool
  | [] => (d, false)
  | p :: ps =>
    let rest := flips (d.flip p) ps
    (rest.1, d.isLit p || rest.2)

/-- Draws a sprite with its corner at `(x, y)`; the truth value says whether a pixel was switched off.  A corner
outside the display draws nothing. -/
def drawSprite (d : Display) (x y : Int) (rows : List Int) : Display × Bool :=
  if 0 ≤ x ∧ x < 64 ∧ 0 ≤ y ∧ y < 32 then d.flips (spriteCells x.toNat y.toNat rows) else (d, false)

/-- The number of pixels that are on. -/
def litCount (d : Display) : Nat := d.pixels.toList.count true

/-- The pixel with a row-major index; the indices from `-2048` to `-1` count from the end, and others give `none`. -/
def pixelAt? (d : Display) (index : Int) : Option Bool :=
  let i := if index < 0 then index + 2048 else index
  if 0 ≤ i then d.pixels[i.toNat]? else none

/-- The complaint about an index without a pixel. -/
def misplaced (index : Int) : String :=
  if Text.fitsLong index then "bytearray index out of range" else "cannot fit 'int' into an index-sized integer"

/-- The row-major index of a column and row, which are not checked. -/
def index (x y : Int) : Int := x + y * 64

def row (d : Display) (y : Nat) : List Bool := (List.range 64).map fun x => d.isLit (cell x y)

def summary (d : Display) : String := "FrameBuffer(64x32, lit=" ++ Text.decimal d.litCount ++ ")"

/-- Flipping some pixels and then others is flipping all of them. -/
theorem flips_append (d : Display) (ps qs : List Cell) :
    d.flips (ps ++ qs) =
      (((d.flips ps).1.flips qs).1, (d.flips ps).2 || ((d.flips ps).1.flips qs).2) := by
  induction ps generalizing d with
  | nil => simp [flips]
  | cons p ps ih =>
    simp only [List.cons_append, flips, ih, Bool.or_assoc]

/-- Flipping a pixel changes this pixel and no other. -/
theorem isLit_flip (d : Display) (p q : Cell) : (d.flip p).isLit q = if p = q then !d.isLit q else d.isLit q := by
  simp only [flip, isLit, Fin.getElem_fin, Vector.getElem_set, Fin.ext_iff]
  split
  · rename_i h; simp [h]
  · rfl

end Display

end Chip8
