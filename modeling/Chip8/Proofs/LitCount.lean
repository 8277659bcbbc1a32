import Chip8.Machine.Command
import Chip8.Proofs.Slot
import Chip8.Proofs.Sprites

/-!
# How many pixels are on

What drawing a sprite does to the number of pixels that are on.  Each flip switches a pixel on or off, so the number
grows by the flips and shrinks by two for each one that switches off (`Display.litCount_flips`).  The truth value that
comes with a drawing says whether there was such a flip (`Display.switchesOff_iff`).

No pixel is flipped twice by a sprite that is not higher than the display (`hits_le_one`).  Then the flips are the bits
of the sprite that are set (`length_spriteCells`), and those that switch off belong to the pixels under the sprite that
were on (`Display.switchOffs_of_nodup`).  `Machine.lit_balance` says this of drawings and of the instruction that draws,
whose flag tells it from the number of lit pixels alone.
-/

namespace Chip8

/-- How many of the low eight bits of the rows are set. -/
def setBits (rows : List Int) : Nat := (rows.map fun row => (List.range 8).countP (row.testBit ·)).sum

/-- Two places of a sprite that is not higher than the display never fall on the same pixel. -/
theorem hits_le_one (x y : Int) {rows : List Int} (low : rows.length ≤ 32) (p : Cell) : hits x y rows p ≤ 1 := by
  rw [hits, Finset.card_le_one]
  rintro ⟨r, c⟩ place ⟨r', c'⟩ place'
  simp only [Finset.mem_filter, Finset.mem_univ, true_and] at place place'
  obtain ⟨-, column, row⟩ := place
  obtain ⟨-, column', row'⟩ := place'
  have same : r.val = r'.val ∧ c.val = c'.val := by omega
  exact Prod.ext (Fin.ext same.1) (Fin.ext same.2)

private theorem length_rowCells (x y : Nat) (row : Int) :
    (rowCells x y row).length = (List.range 8).countP (row.testBit ·) := by
  -- columns count from the left and bits from the right
  have mirrored : (List.range 8).map (7 - ·) = (List.range 8).reverse := by decide
  calc
    (rowCells x y row).length = (List.range 8).countP ((row.testBit ·) ∘ (7 - ·)) := by
      rw [rowCells, List.length_map, ← List.countP_eq_length_filter, funext (rowBit_eq_testBit row)]
      rfl
    _ = (List.range 8).countP (row.testBit ·) := by rw [← List.countP_map, mirrored, List.countP_reverse]

theorem length_spriteCells (x y : Nat) (rows : List Int) : (spriteCells x y rows).length = setBits rows := by
  induction rows generalizing y with
  | nil => rfl
  | cons row rows ih =>
    rw [spriteCells, List.length_append, length_rowCells, ih]
    rfl

theorem nodup_spriteCells (x y : Nat) {rows : List Int} (low : rows.length ≤ 32) : (spriteCells x y rows).Nodup := by
  rw [List.nodup_iff_count_le_one]
  intro p
  rw [count_spriteCells]
  exact hits_le_one x y low p

namespace Display

/-- How many of the pixels that a sprite hits are on. -/
def litUnder (d : Display) (x y : Int) (rows : List Int) : Nat :=
  (Finset.univ.filter fun p : Cell => d.isLit p = true ∧ 0 < hits x y rows p).card

/-- How many flips switch a pixel off when pixels are flipped one after the other. -/
def switchOffs (d : Display) : List Cell → Nat
  | [] => 0
  | p :: ps => (d.isLit p).toNat + (d.flip p).switchOffs ps

theorem litCount_flip (d : Display) (p : Cell) : (d.flip p).litCount + 2 * (d.isLit p).toNat = d.litCount + 1 := by
  have bound : p.val < d.pixels.toList.length := by rw [Vector.length_toList]; exact p.isLt
  have place : d.pixels.toList[p.val] = d.isLit p := rfl
  have flipped : (d.flip p).litCount = (d.pixels.toList.set p.val (!d.isLit p)).count true := by
    rw [← Vector.toList_set p.isLt]
    rfl
  rw [flipped, List.count_set bound, place, ← litCount]
  cases lit : d.isLit p with
  | true =>
    have counts : 0 < d.litCount := by
      rw [litCount, List.count_pos_iff, ← lit, ← place]
      exact List.getElem_mem bound
    simp
    omega
  | false => simp

/-- Flips change the number of pixels that are on by one each, up or down. -/
theorem litCount_flips (d : Display) (ps : List Cell) :
    (d.flips ps).1.litCount + 2 * d.switchOffs ps = d.litCount + ps.length := by
  induction ps generalizing d with
  | nil => rfl
  | cons p ps ih =>
    have first := d.litCount_flip p
    have rest := ih (d.flip p)
    simp only [flips, switchOffs, List.length_cons]
    omega

theorem switchesOff_iff (d : Display) (ps : List Cell) : (d.flips ps).2 = true ↔ 0 < d.switchOffs ps := by
  induction ps generalizing d with
  | nil => simp [flips, switchOffs]
  | cons p ps ih =>
    rw [flips, switchOffs, Bool.or_eq_true, ih]
    cases d.isLit p with
    | false => simp
    | true => exact iff_of_true (.inl rfl) (Nat.add_pos_left Nat.one_pos _)

/-- If no pixel is flipped twice, those that are switched off are those that were on. -/
theorem switchOffs_of_nodup (d : Display) {ps : List Cell} (once : ps.Nodup) : d.switchOffs ps = ps.countP d.isLit := by
  induction ps generalizing d with
  | nil => rfl
  | cons p ps ih =>
    obtain ⟨fresh, once⟩ := List.nodup_cons.1 once
    have others : ps.countP (d.flip p).isLit = ps.countP d.isLit := by
      apply List.countP_congr
      intro q mem
      rw [isLit_flip, if_neg (ne_of_mem_of_not_mem mem fresh).symm]
    rw [switchOffs, ih _ once, others, List.countP_cons, Nat.add_comm]
    cases d.isLit p <;> rfl

private theorem countP_spriteCells (d : Display) (x y : Nat) {rows : List Int} (low : rows.length ≤ 32) :
    (spriteCells x y rows).countP d.isLit = d.litUnder x y rows := by
  have once := (nodup_spriteCells x y low).filter d.isLit
  rw [List.countP_eq_length_filter, ← List.toFinset_card_of_nodup once, litUnder]
  refine congrArg Finset.card (Finset.ext fun p => ?_)
  rw [List.mem_toFinset, List.mem_filter, ← List.count_pos_iff, count_spriteCells, Finset.mem_filter, and_comm]
  exact (and_iff_right (Finset.mem_univ p)).symm

/-- A sprite that is not higher than the display switches off the lit pixels that it hits and switches on the
others. -/
theorem litCount_drawSprite (d : Display) {x y : Int} (inside : 0 ≤ x ∧ x < 64 ∧ 0 ≤ y ∧ y < 32) {rows : List Int}
    (low : rows.length ≤ 32) :
    (d.drawSprite x y rows).1.litCount + 2 * d.litUnder x y rows = d.litCount + setBits rows ∧
      ((d.drawSprite x y rows).2 = true ↔ 0 < d.litUnder x y rows) := by
  obtain ⟨column, row, rfl, rfl, drawn⟩ := d.exists_drawSprite_eq_flips inside rows
  have under : d.switchOffs (spriteCells column row rows) = d.litUnder column row rows := by
    rw [switchOffs_of_nodup d (nodup_spriteCells column row low), countP_spriteCells d column row low]
  rw [drawn, ← under, switchesOff_iff, ← length_spriteCells column row rows]
  exact ⟨d.litCount_flips _, Iff.rfl⟩

end Display

namespace Machine

variable {τ : Type}

/-- A slot that draws without a fault draws the bytes at the index register, with the corner of the sprite at what the
two registers hold before the flag is set. -/
private theorem execute_of_drawSprite {m : Machine τ} {x y n : Nat} (next : m.upcoming = some (.drawSprite x y n))
    (clean : m.execute.2 = none) :
    ∃ bytes, m.memory.read? m.index n = some bytes ∧
      let drawn := m.display.drawSprite (m.reg x).toNat (m.reg y).toNat (bytes.map fun b => (b.toNat : Int))
      m.execute.1.display = drawn.1 ∧ m.execute.1.reg flagRegister = if drawn.2 then 1 else 0 := by
  have source : m.advance.memory.read? m.advance.index n = m.memory.read? m.index n := rfl
  rw [execute_of_upcoming next, perform, source] at clean ⊢
  cases read : m.memory.read? m.index n with
  | none =>
    rw [read] at clean
    contradiction
  | some bytes => exact ⟨bytes, rfl, rfl, reg_setFlag _ _⟩

/-- A sprite with its corner on the display that is not higher than the display hits no pixel twice.  The number of lit
pixels grows by the set bits of the sprite, less two for each pixel that it hits and that was on.  There is such a pixel
just if the drawing tells so, and just if the number grows by less than the set bits.

So the flag of an instruction that draws without a fault, whichever registers it takes the corner from, tells whether
the number of lit pixels grew by less than the set bits of the sprite.  With the corner elsewhere the flag is zero and
the display stays the same. -/
theorem lit_balance :
    (∀ (d : Display) (x y : Int) (rows : List Int), 0 ≤ x ∧ x < 64 ∧ 0 ≤ y ∧ y < 32 → rows.length ≤ 32 →
      let drawn := d.drawSprite x y rows
      (∀ p, hits x y rows p ≤ 1) ∧
        (drawn.1.litCount : Int) = d.litCount + setBits rows - 2 * d.litUnder x y rows ∧
        (drawn.2 = true ↔ 0 < d.litUnder x y rows) ∧
        (0 < d.litUnder x y rows ↔ drawn.1.litCount < d.litCount + setBits rows)) ∧
      ∀ (m : Machine τ) (x y n : Nat), m.upcoming = some (.drawSprite x y n) → m.execute.2 = none →
        let next := m.execute.1
        ∃ bytes, m.memory.read? m.index n = some bytes ∧
          ((m.reg x).toNat < 64 ∧ (m.reg y).toNat < 32 →
            next.reg flagRegister =
              if next.display.litCount < m.display.litCount + setBits (bytes.map fun b => (b.toNat : Int)) then 1
              else 0) ∧
          (¬((m.reg x).toNat < 64 ∧ (m.reg y).toNat < 32) →
            next.reg flagRegister = 0 ∧ next.display = m.display) := by
  constructor
  · intro d x y rows inside low drawn
    obtain ⟨balance, collision⟩ := d.litCount_drawSprite inside low
    have balance : drawn.1.litCount + 2 * d.litUnder x y rows = d.litCount + setBits rows := balance
    exact ⟨hits_le_one x y low, by omega, collision, by omega⟩
  · intro m x y n drawing clean next
    obtain ⟨bytes, read, display, flag⟩ := execute_of_drawSprite drawing clean
    refine ⟨bytes, read, fun inside => ?_, fun outside => ?_⟩
    · have height : n < 16 := fits_of_upcoming drawing (.height n) (by simp [Instruction.operands])
      have low : (bytes.map fun b => (b.toNat : Int)).length ≤ 32 := by
        rw [List.length_map, Memory.length_of_read? read]
        omega
      obtain ⟨balance, collision⟩ :=
        m.display.litCount_drawSprite (x := (m.reg x).toNat) (y := (m.reg y).toNat) (by omega) low
      rw [flag, display]
      apply ite_congr _ (fun _ => rfl) (fun _ => rfl)
      rw [collision, eq_iff_iff]
      omega
    · have kept : m.display.drawSprite (m.reg x).toNat (m.reg y).toNat (bytes.map fun b => (b.toNat : Int)) =
          (m.display, false) := if_neg (by omega)
      rw [flag, display, kept]
      exact ⟨rfl, rfl⟩

/-- A glyph is drawn over the bottom edge and then once more, with both coordinates from the flag register: the second
drawing sets the flag, so it added fewer pixels than the fourteen of the glyph. -/
theorem lit_balance_redrawn :
    let m : Machine Rat := (fresh (.cycle [] 0) false).after
      [.load [0x6F, 0x1F, 0xDF, 0xF5, 0x6F, 0x1F, 0xDF, 0xF5], .reset, .execute, .execute, .execute]
    m.upcoming = some (.drawSprite 15 15 5) ∧ m.execute.2 = none ∧ m.execute.1.reg flagRegister = 1 ∧
      m.execute.1.display.litCount < m.display.litCount + 14 ∧
      ∀ p, hits 31 31 [0xF0, 0x90, 0x90, 0x90, 0xF0] p ≤ 1 := by
  intro m
  obtain ⟨drawing, clean, flag, glyph, corner⟩ : m.upcoming = some (.drawSprite 15 15 5) ∧
      m.execute.2 = none ∧ m.execute.1.reg flagRegister = 1 ∧
      m.memory.read? m.index 5 = some [0xF0, 0x90, 0x90, 0x90, 0xF0] ∧ m.reg 15 = 31 := by decide +kernel
  obtain ⟨once, -⟩ :=
    (lit_balance (τ := Rat)).1 m.display 31 31 [0xF0, 0x90, 0x90, 0x90, 0xF0] (by decide) (by decide)
  obtain ⟨bytes, read, inside, -⟩ := lit_balance.2 m 15 15 5 drawing clean
  obtain rfl := Option.some.inj (glyph.symm.trans read)
  have bits : setBits [0xF0, 0x90, 0x90, 0x90, 0xF0] = 14 := by decide
  have tells : m.execute.1.reg flagRegister = if m.execute.1.display.litCount < m.display.litCount + 14 then 1 else 0 :=
    bits ▸ inside (by rw [corner]; decide)
  rcases Nat.lt_or_ge m.execute.1.display.litCount (m.display.litCount + 14) with fewer | more
  · exact ⟨drawing, clean, flag, fewer, once⟩
  · rw [if_neg (Nat.not_lt.2 more), flag] at tells
    exact absurd tells (by decide)

end Machine

end Chip8
