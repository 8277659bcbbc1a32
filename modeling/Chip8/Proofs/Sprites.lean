import Mathlib.Algebra.BigOperators.Fin
import Mathlib.Data.Fintype.Fin
import Mathlib.Data.Int.Bitwise
import Chip8.Display

/-!
# Drawing sprites

What a sprite does to every pixel of the display.  The places of a sprite are the eight columns of its rows.  A place is
on if its bit of the row is set, and it falls on a pixel, where the display goes on at its opposite edge.  `hits` is the
number of places of a sprite that are on and fall on a pixel; this can be more than one if the sprite has more rows than
the display.

* Flipping pixels one after the other changes those that are flipped an odd number of times (`Display.isLit_flips`).  It
  switches a pixel off just if one that is on is flipped, or one that is off is flipped at least twice
  (`Display.switchesOff_flips`);
* a sprite covers a pixel as often as it hits it (`count_spriteCells`), by induction on its rows;
* `Display.pixels_of_drawSprite` puts this together for every sprite and corner.
-/

namespace Chip8

def Cell.column (p : Cell) : Nat := p.val % 64

def Cell.row (p : Cell) : Nat := p.val / 64

/-- How many places of a sprite with its corner at `(x, y)` are on and fall on the pixel. -/
def hits (x y : Int) (rows : List Int) (p : Cell) : Nat :=
  (Finset.univ.filter fun place : Fin rows.length × Fin 8 =>
    rows[place.1].testBit (7 - place.2) = true ∧
      Cell.column p = (x + place.2.val) % 64 ∧ Cell.row p = (y + place.1.val) % 32).card

/-- How many places of a row with its left end at `(x, y)` are on and fall on the pixel. -/
def rowHits (x y row : Int) (p : Cell) : Nat :=
  (Finset.univ.filter fun c : Fin 8 =>
    row.testBit (7 - c) = true ∧ Cell.column p = (x + c.val) % 64 ∧ Cell.row p = y % 32).card

theorem cell_eq_iff (x y : Nat) (p : Cell) : cell x y = p ↔ Cell.column p = x % 64 ∧ Cell.row p = y % 32 := by
  rw [cell, Fin.ext_iff, Cell.column, Cell.row]
  simp only
  constructor
  · intro same
    omega
  · rintro ⟨column, row⟩
    omega

/-- A column counts from the left, and a bit from the right. -/
theorem rowBit_eq_testBit (row : Int) (c : Nat) : rowBit row c = row.testBit (7 - c) := by
  unfold rowBit
  generalize 7 - c = k
  have natural (n : Nat) : n.testBit k = decide ((n >>> k) % 2 = 1) := by
    rw [Nat.testBit_eq_decide_div_mod_eq, Nat.shiftRight_eq_div_pow]
  cases row with
  | ofNat n =>
    have shifted : Int.ofNat n >>> k = ((n >>> k : Nat) : Int) := rfl
    rw [shifted, Int.testBit, natural, Bool.eq_iff_iff, beq_iff_eq, decide_eq_true_iff]
    omega
  | negSucc n =>
    have shifted : Int.negSucc n >>> k = Int.negSucc (n >>> k) := rfl
    rw [shifted, Int.testBit, natural, Bool.eq_iff_iff, beq_iff_eq, Bool.not_eq_true', decide_eq_false_iff_not]
    omega

private theorem countP_range (n : Nat) (q : Nat → Bool) :
    (List.range n).countP q = (Finset.univ.filter fun i : Fin n => q i = true).card := by
  induction n generalizing q with
  | zero => rfl
  | succ n ih =>
    rw [List.range_succ_eq_map, List.countP_cons, List.countP_map, ih, Fin.card_filter_univ_succ', add_comm]
    rfl

private theorem count_rowCells (x y : Nat) (row : Int) (p : Cell) : (rowCells x y row).count p = rowHits x y row p := by
  rw [rowCells, List.count, List.countP_map, List.countP_filter, countP_range, rowHits]
  congr 1
  apply Finset.filter_congr
  intro c _
  rw [Bool.and_eq_true, Function.comp_apply, beq_iff_eq, cell_eq_iff, rowBit_eq_testBit, and_comm]
  norm_cast

private theorem hits_cons (x y row : Int) (rows : List Int) (p : Cell) :
    hits x y (row :: rows) p = rowHits x y row p + hits x (y + 1) rows p := by
  have later (r : Nat) : y + (r + 1 : Nat) = y + 1 + r := by omega
  simp only [hits, rowHits, Finset.card_filter, Fintype.sum_prod_type]
  refine (Fin.sum_univ_succ _).trans ?_
  simp only [Fin.val_zero, Fin.val_succ, later, Int.natCast_zero, add_zero]
  rfl

/-- Among the pixels that a sprite covers, each is listed as often as the sprite hits it. -/
theorem count_spriteCells (x y : Nat) (rows : List Int) (p : Cell) :
    (spriteCells x y rows).count p = hits x y rows p := by
  induction rows generalizing y with
  | nil => rfl
  | cons row rows ih =>
    rw [spriteCells, List.count_append, count_rowCells, ih, hits_cons]
    rfl

namespace Display

/-- Flipping pixels one after the other changes those that are flipped an odd number of times. -/
theorem isLit_flips (d : Display) (ps : List Cell) (p : Cell) :
    (d.flips ps).1.isLit p = (d.isLit p ^^ decide (ps.count p % 2 = 1)) := by
  induction ps generalizing d with
  | nil => simp [flips]
  | cons q ps ih =>
    rw [flips, ih, isLit_flip]
    by_cases same : q = p
    · have odd : decide ((ps.count p + 1) % 2 = 1) = !decide (ps.count p % 2 = 1) := by
        rw [← decide_not, decide_eq_decide]
        omega
      rw [if_pos same, same, List.count_cons_self, odd, Bool.not_xor, Bool.xor_not]
    · rw [if_neg same, List.count_cons_of_ne same]

/-- Is a pixel switched off if it is flipped so many times, being on or off before? -/
def IsSwitchedOff (lit : Bool) (times : Nat) : Prop := (lit = true ∧ 1 ≤ times) ∨ (lit = false ∧ 2 ≤ times)

private theorem isSwitchedOff_succ (lit : Bool) (times : Nat) :
    IsSwitchedOff lit (times + 1) ↔ lit = true ∨ IsSwitchedOff (!lit) times := by
  cases lit with
  | true => simp [IsSwitchedOff]
  | false => simp [IsSwitchedOff]

/-- Flipping pixels one after the other switches one of them off just if one that is on is flipped, or one that is off
is flipped at least twice. -/
theorem switchesOff_flips (d : Display) (ps : List Cell) :
    (d.flips ps).2 = true ↔ ∃ p, IsSwitchedOff (d.isLit p) (ps.count p) := by
  induction ps generalizing d with
  | nil => simp [flips, IsSwitchedOff]
  | cons q ps ih =>
    have turn (p : Cell) : IsSwitchedOff (d.isLit p) ((q :: ps).count p) ↔
        (q = p ∧ d.isLit q = true) ∨ IsSwitchedOff ((d.flip q).isLit p) (ps.count p) := by
      rw [isLit_flip]
      by_cases same : q = p
      · rw [if_pos same, same, List.count_cons_self, isSwitchedOff_succ]
        simp
      · simp [same]
    rw [flips, Bool.or_eq_true, ih]
    simp only [turn, exists_or, exists_eq_left']

/-- A sprite with its corner on the display is drawn by flips of the pixels that it covers. -/
theorem exists_drawSprite_eq_flips (d : Display) {x y : Int} (inside : 0 ≤ x ∧ x < 64 ∧ 0 ≤ y ∧ y < 32)
    (rows : List Int) :
    ∃ column row : Nat, x = column ∧ y = row ∧ d.drawSprite x y rows = d.flips (spriteCells column row rows) :=
  ⟨x.toNat, y.toNat, (Int.toNat_of_nonneg inside.1).symm, (Int.toNat_of_nonneg inside.2.2.1).symm, if_pos inside⟩

/-- Drawing a sprite with its corner on the display changes every pixel that the sprite hits an odd number of times, and
no other.  It tells that a pixel was switched off just if the sprite hits one that was on, or one that was off twice or
more often.  A sprite with its corner elsewhere is not drawn. -/
theorem pixels_of_drawSprite (d : Display) (x y : Int) (rows : List Int) :
    (0 ≤ x ∧ x < 64 ∧ 0 ≤ y ∧ y < 32 →
      (∀ p, (d.drawSprite x y rows).1.isLit p = (d.isLit p ^^ decide (hits x y rows p % 2 = 1))) ∧
        ((d.drawSprite x y rows).2 = true ↔
          ∃ p, (d.isLit p = true ∧ 1 ≤ hits x y rows p) ∨ (d.isLit p = false ∧ 2 ≤ hits x y rows p))) ∧
      (¬(0 ≤ x ∧ x < 64 ∧ 0 ≤ y ∧ y < 32) → d.drawSprite x y rows = (d, false)) := by
  constructor
  · intro inside
    obtain ⟨column, rfl⟩ := Int.eq_ofNat_of_zero_le inside.1
    obtain ⟨row, rfl⟩ := Int.eq_ofNat_of_zero_le inside.2.2.1
    rw [drawSprite, if_pos inside, Int.toNat_natCast, Int.toNat_natCast]
    constructor
    · intro p
      rw [isLit_flips, count_spriteCells]
    · rw [switchesOff_flips]
      simp only [count_spriteCells, IsSwitchedOff]
  · intro outside
    rw [drawSprite, if_neg outside]

/-- The first and the last of thirty-three rows fall on the same row, and of a row only eight bits count. -/
example : (Display.blank.drawSprite 63 31 (0x80 :: List.replicate 31 0 ++ [0x180])).2 = true := by decide +kernel

end Display

end Chip8
