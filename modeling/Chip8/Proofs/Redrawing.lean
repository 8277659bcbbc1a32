import Chip8.Proofs.Sprites

/-!
# Drawing in any order

Drawings that follow each other.  Where the sprites lie and how they overlap, a drawing turns the same pixels whatever
the display shows (`Display.isLit_draw`), so after several of them a pixel has changed just if an odd number of them
turn it (`Display.isLit_drawAll`).  The order does not matter, then, and drawing everything once more undoes it
(`Display.drawAll_of_perm`).
-/

namespace Chip8

/-- A sprite and the place of its corner. -/
structure Drawing where
  x : Int
  y : Int
  rows : List Int

/-- Does the drawing change the pixel? -/
def Drawing.turns (s : Drawing) (p : Cell) : Bool :=
  decide ((0 ≤ s.x ∧ s.x < 64 ∧ 0 ≤ s.y ∧ s.y < 32) ∧ hits s.x s.y s.rows p % 2 = 1)

namespace Display

/-- The display after a drawing. -/
def draw (d : Display) (s : Drawing) : Display := (d.drawSprite s.x s.y s.rows).1

/-- The display after one drawing after the other. -/
def drawAll (d : Display) (ss : List Drawing) : Display := ss.foldl draw d

/-- A display is determined by its pixels. -/
theorem eq_of_isLit {d e : Display} (same : ∀ p, d.isLit p = e.isLit p) : d = e := by
  have pixels : d.pixels = e.pixels := Vector.ext fun i bound => same ⟨i, bound⟩
  cases d
  cases e
  exact congrArg Display.mk pixels

theorem isLit_draw (d : Display) (s : Drawing) (p : Cell) : (d.draw s).isLit p = (d.isLit p ^^ s.turns p) := by
  obtain ⟨x, y, rows⟩ := s
  by_cases inside : 0 ≤ x ∧ x < 64 ∧ 0 ≤ y ∧ y < 32
  · obtain ⟨column, row, rfl, rfl, drawn⟩ := d.exists_drawSprite_eq_flips inside rows
    rw [draw, drawn, isLit_flips, count_spriteCells]
    simp only [Drawing.turns, inside, and_self, true_and]
  · rw [draw, drawSprite, if_neg inside]
    simp only [Drawing.turns, inside, false_and, decide_false, Bool.xor_false]

/-- After several drawings those pixels have changed that an odd number of them turn. -/
theorem isLit_drawAll (d : Display) (ss : List Drawing) (p : Cell) :
    (d.drawAll ss).isLit p = (d.isLit p ^^ decide (ss.countP (·.turns p) % 2 = 1)) := by
  induction ss generalizing d with
  | nil => simp [drawAll]
  | cons s ss ih =>
    have rest : d.drawAll (s :: ss) = (d.draw s).drawAll ss := rfl
    rw [rest, ih, isLit_draw, List.countP_cons, Bool.xor_assoc]
    congr 1
    cases s.turns p with
    | false => simp
    | true =>
      rw [if_pos rfl, Bool.true_xor, ← decide_not, decide_eq_decide]
      omega

/-- The order of drawings does not matter, and drawing all of them again in any order brings the display back. -/
theorem drawAll_of_perm (d : Display) {ss ts : List Drawing} (reordered : ss.Perm ts) :
    d.drawAll ts = d.drawAll ss ∧ (d.drawAll ss).drawAll ts = d := by
  constructor
  · apply eq_of_isLit
    intro p
    rw [isLit_drawAll, isLit_drawAll, reordered.countP_eq]
  · apply eq_of_isLit
    intro p
    rw [isLit_drawAll, isLit_drawAll, reordered.countP_eq, Bool.xor_assoc, Bool.xor_self, Bool.xor_false]

/-- Two sprites overlap each other and what is drawn already, around the corner of the display; a third has its corner
elsewhere. -/
theorem drawAll_of_perm_overlap :
    let d := blank.draw ⟨0, 0, [0xC0]⟩
    let a : Drawing := ⟨63, 31, [0xC0, 0xC0]⟩
    let b : Drawing := ⟨62, 31, [-1, 0x1F0]⟩
    let c : Drawing := ⟨64, 0, [0xFF]⟩
    [a, b, c].Perm [c, b, a] ∧ d.isLit (cell 1 0) = true ∧ (d.drawAll [a, b, c]).isLit (cell 1 0) = false ∧
      d.drawAll [c, b, a] = d.drawAll [a, b, c] ∧ (d.drawAll [a, b, c]).drawAll [c, b, a] = d := by
  intro d a b c
  have reordered : [a, b, c].Perm [c, b, a] := (List.reverse_perm [a, b, c]).symm
  obtain ⟨same, back⟩ := drawAll_of_perm d reordered
  have changed : d.isLit (cell 1 0) = true ∧ (d.drawAll [a, b, c]).isLit (cell 1 0) = false := by decide +kernel
  exact ⟨reordered, changed.1, changed.2, same, back⟩

end Display

end Chip8
