import Chip8.Frame
import Chip8.Proofs.Bare.Simulation
import Chip8.Proofs.Redrawing

/-!
# The bare renderer

The picture of a display once more, made in the steps in which a renderer makes it.  `buildFrame` colours one pixel
after the other, row by row; here

* the pixels are laid out in rows, and the number of each is looked up in a table of two colours (`buildRows`);
* the rows are turned into columns, which are put onto a surface that takes no other shape (`Surface.render`).

Every step refuses what it cannot deal with.  `buildFrame_eq` says that both ways to make a picture agree, whatever the
pixels and the colours are; `Surface.render_bytes` is the surface that shows a display.

The pixels come from a bare display, a list of numbers that drawing and clearing change in place (`DisplayCall`), and
`BareMachine.run_makeCalls` says that they are those of a `Display`.
-/

namespace Chip8

/-! ### Surfaces -/

structure Surface where
  width : Nat
  height : Nat
  /-- The colours of the pixels, column by column from the left. -/
  columns : List (List Colour)
deriving DecidableEq

/-- Why a picture does not get onto a surface. -/
inductive RenderError where
  /-- There is no picture. -/
  | frame (error : FrameError)
  /-- The picture does not have the shape of the surface. -/
  | misshapen
deriving DecidableEq

def colourTable (off on : Shade) : Except FrameError (List Colour) := do
  let off ← off.colour
  let on ← on.colour
  return [off, on]

/-- Lays pixels out in the rows of a display. -/
def inRows (pixels : List UInt8) : Except FrameError (List (List UInt8)) :=
  if pixels.length = Display.height * Display.width then
    .ok ((List.range Display.height).map fun y => (pixels.drop (y * Display.width)).take Display.width)
  else .error (.wrongSize pixels.length)

/-- The entry of a table of colours for a pixel. -/
def lookUp (table : List Colour) (pixel : UInt8) : Except FrameError Colour :=
  match table[pixel.toNat]? with
  | some colour => .ok colour
  | none => .error (.pixelOutOfRange pixel)

/-- The coloured rows of a list of pixels. -/
def buildRows (pixels : List UInt8) (off on : Shade) : Except FrameError (List (List Colour)) := do
  let table ← colourTable off on
  let rows ← inRows pixels
  rows.mapM fun row => row.mapM (lookUp table)

def turned {α : Type} (rows : List (List α)) : List (List α) :=
  (List.range Display.width).map fun x => rows.filterMap (·[x]?)

namespace Surface

/-- A black surface of the size of a display. -/
def blank : Surface :=
  ⟨Display.width, Display.height, List.replicate Display.width (List.replicate Display.height ⟨0, 0, 0⟩)⟩

/-- Does a surface have the size of a display? -/
def Fits (s : Surface) : Prop := s.width = Display.width ∧ s.height = Display.height

def at? (s : Surface) (x y : Nat) : Option Colour := s.columns[x]?.bind (·[y]?)

def frame (s : Surface) : Frame := ⟨(List.range Display.height).flatMap fun y => s.columns.filterMap (·[y]?)⟩

/-- Puts columns onto a surface in place of those that it has. -/
def blit (s : Surface) (columns : List (List Colour)) : Except RenderError Surface :=
  if columns.length = s.width ∧ ∀ c ∈ columns, c.length = s.height then .ok { s with columns := columns }
  else .error .misshapen

/-- Shows pixels on a surface. -/
def render (s : Surface) (pixels : List UInt8) (off on : Shade) : Except RenderError Surface :=
  match buildRows pixels off on with
  | .error e => .error (.frame e)
  | .ok rows => s.blit (turned rows)

/-- Does a surface show a display in the given colours? -/
def Shows (s : Surface) (d : Display) (off on : Colour) : Prop :=
  ∀ x y : Nat, x < 64 → y < 32 →
    ∃ lit, d.pixelAt? (Display.index x y) = some lit ∧ s.at? x y = some (if lit then on else off)

end Surface

/-! ### Rows -/

theorem inRows_of_length {pixels : List UInt8} (size : pixels.length = 2048) :
    inRows pixels = .ok ((List.range 32).map fun y => (pixels.drop (y * 64)).take 64) := if_pos size

private theorem flatten_rows {α : Type} (xs : List α) (n : Nat) :
    ((List.range n).map fun y => (xs.drop (y * 64)).take 64).flatten = xs.take (n * 64) := by
  induction n with
  | zero => simp
  | succ n ih =>
    rw [List.range_succ, List.map_append, List.flatten_append, ih, Nat.succ_mul, List.take_add]
    simp

/-- Working through rows that follow each other is working through one list. -/
private theorem mapM_flatten {α β ε : Type} (f : α → Except ε β) (xss : List (List α)) :
    xss.flatten.mapM f = (xss.mapM fun xs : List α => xs.mapM f).map List.flatten := by
  induction xss with
  | nil => rfl
  | cons xs xss ih =>
    rw [List.flatten_cons, List.mapM_append, List.mapM_cons, ih]
    cases xs.mapM f with
    | error e => rfl
    | ok ys => cases xss.mapM fun xs : List α => xs.mapM f <;> rfl

private theorem mapM_of_ok {α β ε : Type} {f : α → Except ε β} {g : α → β} {xs : List α}
    (works : ∀ x ∈ xs, f x = .ok (g x)) : xs.mapM f = .ok (xs.map g) := by
  induction xs with
  | nil => rfl
  | cons x xs ih =>
    rw [List.mapM_cons, works x (by simp), ih fun y member => works y (by simp [member])]
    rfl

theorem lookUp_eq (off on : Colour) (pixel : UInt8) : lookUp [off, on] pixel = pixelColour off on pixel := by
  unfold lookUp pixelColour
  by_cases zero : pixel = 0
  · rw [if_pos zero, zero]
    rfl
  · by_cases one : pixel = 1
    · rw [if_neg zero, if_pos one, one]
      rfl
    · have large : [off, on].length ≤ pixel.toNat := by
        have positive : pixel.toNat ≠ 0 := fun h => zero (UInt8.toNat_inj.1 h)
        have several : pixel.toNat ≠ 1 := fun h => one (UInt8.toNat_inj.1 h)
        simp only [List.length_cons, List.length_nil]
        omega
      rw [if_neg zero, if_neg one, List.getElem?_eq_none large]

/-- Both ways to colour pixels give the same picture or the same error. -/
theorem buildFrame_eq (pixels : List UInt8) (off on : Shade) :
    buildFrame pixels off on = (buildRows pixels off on).map fun rows => ⟨rows.flatten⟩ := by
  unfold buildFrame buildRows colourTable
  rcases off.colour with e | off
  · rfl
  rcases on.colour with e | on
  · rfl
  by_cases size : pixels.length = 2048
  · -- both look the pixels up in the same order, in rows or all in a row
    have whole : pixels = ((List.range 32).map fun y => (pixels.drop (y * 64)).take 64).flatten := by
      rw [flatten_rows, List.take_of_length_le (by omega)]
    have rows := inRows_of_length size
    generalize (List.range 32).map (fun y => (pixels.drop (y * 64)).take 64) = laidOut at whole rows
    have same : pixelColour off on = lookUp [off, on] := funext fun pixel => (lookUp_eq off on pixel).symm
    have colours : pixels.mapM (pixelColour off on) =
        (laidOut.mapM fun row : List UInt8 => row.mapM (lookUp [off, on])).map List.flatten := by
      rw [whole, same, mapM_flatten]
    simp only [bind, Except.bind, pure, Except.pure, rows, colours]
    rw [if_neg (fun other => other size)]
    cases laidOut.mapM fun row : List UInt8 => row.mapM (lookUp [off, on]) <;> rfl
  · have rows : inRows pixels = .error (.wrongSize pixels.length) := if_neg size
    simp only [bind, Except.bind, pure, Except.pure, rows]
    rw [if_pos size]
    rfl

/-! ### Displays -/

private theorem component_toNat (b : UInt8) : component b.toNat = .ok b := by
  have small : b.toNat < 256 := b.toNat_lt
  have whole : (0 : Int) ≤ b.toNat ∧ (b.toNat : Int) < 256 := by omega
  rw [component, if_pos whole]
  simp

theorem colour_shade (c : Colour) : c.shade.colour = .ok c := by
  unfold Shade.colour Colour.shade
  rw [component_toNat, component_toNat, component_toNat]
  rfl

def Display.colourAt (d : Display) (off on : Colour) (x y : Nat) : Colour := if d.isLit (cell x y) then on else off

theorem length_bytes (d : Display) : d.bytes.length = 2048 := by
  simp [Display.bytes]

theorem getElem?_bytes (d : Display) {x y : Nat} (wide : x < 64) (high : y < 32) :
    d.bytes[x + y * 64]? = some (if d.isLit (cell x y) then 1 else 0) := by
  have place : x + y * 64 = (cell x y).val := by
    rw [cell]
    simp only
    omega
  have inside : (cell x y).val < 2048 := (cell x y).isLt
  rw [place]
  simp [Display.bytes, Display.isLit, inside]
  rfl

private theorem row_bytes (d : Display) {y : Nat} (high : y < 32) :
    (d.bytes.drop (y * 64)).take 64 = (List.range 64).map fun x => if d.isLit (cell x y) then 1 else 0 := by
  apply List.ext_getElem?
  intro x
  rw [List.getElem?_take, List.getElem?_drop, List.getElem?_map, Nat.add_comm]
  by_cases wide : x < 64
  · rw [if_pos wide, List.getElem?_range wide, getElem?_bytes d wide high]
    rfl
  · rw [if_neg wide, List.getElem?_eq_none (by simpa using wide)]
    rfl

theorem buildRows_of_ok {pixels : List UInt8} {off on : Shade} {table : List Colour} {rows : List (List UInt8)}
    (colours : colourTable off on = .ok table) (laidOut : inRows pixels = .ok rows) :
    buildRows pixels off on = rows.mapM fun row : List UInt8 => row.mapM (lookUp table) := by
  unfold buildRows
  rw [colours, laidOut]
  rfl

theorem buildRows_bytes (d : Display) (off on : Colour) :
    buildRows d.bytes off.shade on.shade =
      .ok ((List.range 32).map fun y => (List.range 64).map fun x => d.colourAt off on x y) := by
  have table : colourTable off.shade on.shade = .ok [off, on] := by
    unfold colourTable
    rw [colour_shade, colour_shade]
    rfl
  have coloured : ∀ y ∈ List.range 32, ((d.bytes.drop (y * 64)).take 64).mapM (lookUp [off, on]) =
      .ok ((List.range 64).map fun x => d.colourAt off on x y) := by
    intro y high
    rw [row_bytes d (List.mem_range.1 high), List.mapM_map]
    apply mapM_of_ok
    intro x _
    unfold Display.colourAt
    simp only [Function.comp_apply]
    cases d.isLit (cell x y) <;> rfl
  rw [buildRows_of_ok table (inRows_of_length (length_bytes d)), List.mapM_map]
  exact mapM_of_ok coloured

private theorem filterMap_range {α : Type} (f : Nat → Nat → α) (n : Nat) {k x : Nat} (within : x < k) :
    ((List.range n).map fun y => (List.range k).map (f y)).filterMap (·[x]?) = (List.range n).map fun y => f y x := by
  have inside : (List.range k)[x]? = some x := List.getElem?_range within
  rw [List.filterMap_map, ← List.filterMap_eq_map]
  apply List.filterMap_congr
  intro y _
  simp only [Function.comp_apply, List.getElem?_map, inside, Option.map_some]

private theorem turned_range {α : Type} (f : Nat → Nat → α) :
    turned ((List.range 32).map fun y => (List.range 64).map fun x => f x y) =
      (List.range 64).map fun x => (List.range 32).map fun y => f x y := by
  apply List.map_congr_left
  intro x wide
  exact filterMap_range (fun y x => f x y) 32 (List.mem_range.1 wide)

theorem pixelAt?_index (d : Display) {x y : Nat} (wide : x < 64) (high : y < 32) :
    d.pixelAt? (Display.index x y) = some (d.isLit (cell x y)) := by
  have place : Display.index x y = ((cell x y).val : Int) := by
    simp only [Display.index, cell]
    omega
  have inside : (cell x y).val < 2048 := (cell x y).isLt
  have natural : ¬((cell x y).val : Int) < 0 := by omega
  rw [place, Display.pixelAt?]
  simp [natural, Display.isLit, inside]

/-- The picture of a display is the one that the step-by-step renderer makes. -/
theorem render_eq (d : Display) (off on : Colour) : render d off.shade on.shade = .ok (Frame.ofDisplay d off on) := by
  have coloured : d.bytes.mapM (pixelColour off on) = .ok (d.pixels.toList.map fun lit => if lit then on else off) := by
    unfold Display.bytes
    rw [List.mapM_map]
    apply mapM_of_ok
    intro lit _
    cases lit <;> rfl
  unfold render buildFrame
  rw [colour_shade, colour_shade]
  simp only [bind, Except.bind, pure, Except.pure, coloured, length_bytes]
  rfl

/-- A surface of the size of a display shows it in any two colours, whatever was on the surface before. -/
theorem Surface.render_bytes {s : Surface} (fits : s.Fits) (d : Display) (off on : Colour) :
    ∃ t : Surface, s.render d.bytes off.shade on.shade = .ok t ∧ t.Fits ∧ t.Shows d off on ∧
      t.frame = Frame.ofDisplay d off on := by
  obtain ⟨width, height⟩ := fits
  have shape : ((List.range 64).map fun x => (List.range 32).map fun y => d.colourAt off on x y).length = s.width ∧
      ∀ c ∈ (List.range 64).map fun x => (List.range 32).map fun y => d.colourAt off on x y, c.length = s.height := by
    rw [width, height]
    simp [Display.width, Display.height]
  refine ⟨{ s with columns := (List.range 64).map fun x => (List.range 32).map fun y => d.colourAt off on x y },
    ?_, ⟨width, height⟩, ?_, ?_⟩
  · unfold render
    rw [buildRows_bytes]
    simp only [turned_range]
    exact if_pos shape
  · intro x y wide high
    refine ⟨d.isLit (cell x y), pixelAt?_index d wide high, ?_⟩
    simp [at?, List.getElem?_range wide, List.getElem?_range high, Display.colourAt]
  · have rows : (⟨((List.range 32).map fun y => (List.range 64).map fun x => d.colourAt off on x y).flatten⟩ : Frame) =
        Frame.ofDisplay d off on := by
      have both := (render_eq d off on).symm.trans (buildFrame_eq d.bytes off.shade on.shade)
      rw [buildRows_bytes] at both
      exact (Except.ok.inj both).symm
    rw [← rows, frame, List.flatMap_def]
    apply congrArg fun rows => Frame.mk (List.flatten rows)
    apply List.map_congr_left
    intro y high
    exact filterMap_range (d.colourAt off on) 64 (List.mem_range.1 high)

/-! ### Drawing and clearing -/

/-- Something that is done to a display. -/
inductive DisplayCall where
  | draw (drawing : Drawing)
  | clear

namespace Display

def call (d : Display) : DisplayCall → Display
  | .draw drawing => d.draw drawing
  | .clear => blank

end Display

namespace BareMachine

variable {τ : Type} [TimeBase τ]

/-- Makes a call on the display.  A corner to the left of the display or above it draws nothing. -/
def makeCall : DisplayCall → Action τ Unit
  | .draw ⟨x, y, rows⟩ => do
    if 0 ≤ x ∧ 0 ≤ y then
      let _ ← drawSprite x.toNat y.toNat rows
  | .clear => clearDisplay

def makeCalls : List DisplayCall → Action τ Unit
  | [] => return ()
  | c :: rest => do
    makeCall c
    makeCalls rest

private theorem run_makeCall (m : Machine τ) (p : Nat) (c : DisplayCall) :
    (makeCall c).run (ofMachine m p) = .ok () (ofMachine { m with display := m.display.call c } p) := by
  cases c with
  | clear => exact run_clearDisplay m p
  | draw drawing =>
    obtain ⟨x, y, rows⟩ := drawing
    by_cases whole : 0 ≤ x ∧ 0 ≤ y
    · obtain ⟨column, rfl⟩ := Int.eq_ofNat_of_zero_le whole.1
      obtain ⟨row, rfl⟩ := Int.eq_ofNat_of_zero_le whole.2
      rw [makeCall, if_pos whole, Int.toNat_natCast, Int.toNat_natCast, EStateM.run_bind, run_drawSprite]
      rfl
    · have outside : ¬(0 ≤ x ∧ x < 64 ∧ 0 ≤ y ∧ y < 32) := fun inside => whole ⟨inside.1, inside.2.2.1⟩
      have same : m.display.call (.draw ⟨x, y, rows⟩) = m.display := by
        rw [Display.call, Display.draw, Display.drawSprite, if_neg outside]
      rw [makeCall, if_neg whole, same]
      rfl

/-- Calls on the display never crash, and leave the pixels of the display after them. -/
theorem run_makeCalls (m : Machine τ) (p : Nat) (calls : List DisplayCall) :
    (makeCalls calls).run (ofMachine m p) =
      .ok () (ofMachine { m with display := calls.foldl Display.call m.display } p) := by
  induction calls generalizing m with
  | nil => rfl
  | cons c rest ih =>
    rw [makeCalls, EStateM.run_bind, run_makeCall]
    exact ih _

end BareMachine

end Chip8
