import Chip8.Proofs.Bare.Storage
import Chip8.Proofs.Faults
import Chip8.Proofs.Footprint

/-!
# Saving and restoring registers

Bytes that are stored in memory are loaded again later, whatever happens in between, as long as nothing is written over
them.

* Writing and reading the same range of memory undo each other (`Memory.read?_of_write?`, `Memory.write?_of_read?`), and
  so do loading registers and taking the first of them (`Registers.first_setFrom`);
* moves none of whose slots writes to a byte leave it alone (`Machine.cells_play`);
* `Machine.restored_of_write?` follows bytes that were written from the index register on through such moves into the
  registers that are loaded.

`Machine.save_and_restore` is about the instruction that stores registers and the one that loads them, and about decimal
digits, which are loaded in the same way.
-/

namespace Chip8

/-! ### Memory and registers -/

namespace Memory

theorem write?_of_le (m : Memory) {start : Nat} {data : List UInt8} (room : start + data.length ≤ 4096) :
    m.write? start data = some (m.store start data) := if_pos room

theorem read?_of_write? {m n : Memory} {start : Nat} {data : List UInt8} (written : m.write? start data = some n) :
    n.read? start data.length = some data := by
  have room : start + data.length ≤ 4096 := by
    apply Nat.le_of_not_lt
    intro far
    rw [(m.write?_eq_none_iff start data).2 far] at written
    contradiction
  rw [write?_of_le m room, Option.some.injEq] at written
  have front : (m.cells.toList.take start ++ data).length = start + data.length := by
    rw [List.length_append, List.length_take, Vector.length_toList]
    omega
  have before : (m.cells.toList.take start).length = start := by
    rw [List.length_take, Vector.length_toList]
    omega
  rw [read?_eq, if_pos room, ← written, toList_store m start data room, List.take_left' front, List.drop_left' before]

private theorem take_range_drop {α : Type} (xs : List α) (start length : Nat) :
    xs.take start ++ (xs.take (start + length)).drop start ++ xs.drop (start + length) = xs := by
  have front : xs.take start = (xs.take (start + length)).take start := by
    rw [List.take_take, Nat.min_eq_left (Nat.le_add_right start length)]
  rw [front, List.take_append_drop, List.take_append_drop]

theorem write?_of_read? {m : Memory} {start length : Nat} {bytes : List UInt8}
    (read : m.read? start length = some bytes) : m.write? start bytes = some m := by
  have count := length_of_read? read
  rw [read?_eq] at read
  split at read
  · rename_i room
    have room : start + bytes.length ≤ 4096 := by omega
    rw [write?_of_le m room, Option.some.injEq]
    apply eq_of_toList
    rw [toList_store m start bytes room, count, ← Option.some.inj read]
    exact take_range_drop m.cells.toList start length
  · contradiction

theorem read?_congr {m n : Memory} {start length : Nat}
    (same : ∀ k < length, n.cells[start + k]? = m.cells[start + k]?) : n.read? start length = m.read? start length := by
  unfold read?
  split
  · rename_i room
    rw [Option.some.injEq]
    apply List.ext_getElem
    · simp
    · intro k within _
      rw [List.length_ofFn] at within
      have inside : start + k < 4096 := by omega
      simpa [inside] using same k within
  · rfl

end Memory

namespace Registers

/-- Loading bytes puts them in order into the first registers and leaves the others alone. -/
theorem get_setFrom (r : Registers) {data : List UInt8} (room : data.length ≤ 16) {k : Nat} (small : k < 16) :
    (r.setFrom 0 data).get k = (data[k]?).getD (r.get k) := by
  have stored := r.toList_setFrom 0 data (by omega)
  rw [List.take_zero, List.nil_append, Nat.zero_add] at stored
  have entry := (r.setFrom 0 data).getElem?_toList small
  rw [stored] at entry
  rcases Nat.lt_or_ge k data.length with within | behind
  · rw [List.getElem?_append_left within] at entry
    rw [entry, Option.getD_some]
  · rw [List.getElem?_append_right behind, List.getElem?_drop, Nat.add_sub_cancel' behind,
      r.getElem?_toList small] at entry
    rw [List.getElem?_eq_none behind, Option.getD_none]
    exact (Option.some.inj entry).symm

theorem getElem?_first (r : Registers) {n k : Nat} (small : k < n) : (r.first n)[k]? = some (r.get k) := by
  simp [first, small]

theorem first_setFrom (r : Registers) {data : List UInt8} (room : data.length ≤ 16) :
    (r.setFrom 0 data).first data.length = data := by
  apply List.ext_getElem
  · exact length_first _ _
  · intro k _ within
    have entry := get_setFrom r room (Nat.lt_of_lt_of_le within room)
    rw [List.getElem?_eq_getElem within, Option.getD_some] at entry
    rw [List.getElem_eq_iff, getElem?_first _ within, entry]

end Registers

/-- The decimal digits of a byte are digits and make it up. -/
theorem digits_make_up (b : UInt8) :
    (b / 100).toNat ≤ 9 ∧ (b / 10 % 10).toNat ≤ 9 ∧ (b % 10).toNat ≤ 9 ∧
      100 * (b / 100).toNat + 10 * (b / 10 % 10).toNat + (b % 10).toNat = b.toNat := by
  have bound : b.toNat < 256 := b.toNat_lt
  have hundreds : (b / 100).toNat = b.toNat / 100 := UInt8.toNat_div b 100
  have tens : (b / 10 % 10).toNat = b.toNat / 10 % 10 := by rw [UInt8.toNat_mod, UInt8.toNat_div]; rfl
  have units : (b % 10).toNat = b.toNat % 10 := UInt8.toNat_mod b 10
  rw [hundreds, tens, units]
  omega

namespace Machine

variable {τ : Type}

/-! ### Bytes that nothing is written to -/

/-- Does the next slot run without a fault, and without writing to a range of bytes? -/
def spares (start length : Nat) (m : Machine τ) : Bool :=
  m.execute.2.isNone &&
    m.upcoming.all fun i => (Part.bytes start length).all fun p => !(i.footprint m.index m.stack.depth).contains p

theorem cells_execute {m : Machine τ} {start length k : Nat} (spared : m.spares start length = true)
    (within : k < length) : m.execute.1.memory.cells[start + k]? = m.memory.cells[start + k]? := by
  have byte : Part.byte (start + k) ∈ Part.bytes start length := List.mem_map_of_mem (List.mem_range.2 within)
  have outside (i : Instruction) (next : m.upcoming = some i) :
      .byte (start + k) ∉ i.footprint m.index m.stack.depth := by
    rw [spares, next, Bool.and_eq_true, Option.all_some, List.all_eq_true] at spared
    simpa using spared.2 _ byte
  exact keeps_execute (p := .byte (start + k)) (fun _ => nofun) nofun nofun outside

theorem cells_play {m : Machine τ} {start length k : Nat} {vs : List Move}
    (spared : m.everySlot (spares start length) vs = true) (within : k < length) :
    (m.play vs).memory.cells[start + k]? = m.memory.cells[start + k]? := by
  induction vs generalizing m with
  | nil => rfl
  | cons v vs ih =>
    rw [everySlot_cons] at spared
    obtain ⟨first, rest⟩ := spared
    rw [play, ih rest]
    cases v with
    | slot => exact cells_execute (first rfl) within
    | _ => rfl

/-! ### Bytes that are stored and loaded -/

theorem written_of_regDump {m : Machine τ} {x : Nat} (next : m.upcoming = some (.regDump x))
    (room : m.index + x ≤ 4095) :
    m.execute.2 = none ∧ m.memory.write? m.index (m.registers.first (x + 1)) = some m.execute.1.memory := by
  have fits : m.index + (m.registers.first (x + 1)).length ≤ 4096 := by
    rw [Registers.length_first]
    omega
  have written := m.memory.write?_of_le fits
  have result : m.execute =
      ({ m.advance with memory := m.memory.store m.index (m.registers.first (x + 1)) }, none) := by
    rw [execute_of_upcoming next]
    simp only [perform, advance, written]
  rw [result]
  exact ⟨rfl, written⟩

theorem written_of_storeBCD {m : Machine τ} {x : Nat} (next : m.upcoming = some (.storeBCD x))
    (room : m.index + 2 ≤ 4095) :
    m.execute.2 = none ∧ m.memory.write? m.index (decimalDigits (m.reg x)) = some m.execute.1.memory := by
  have fits : m.index + (decimalDigits (m.reg x)).length ≤ 4096 := Nat.succ_le_succ room
  have written := m.memory.write?_of_le fits
  have result : m.execute = ({ m.advance with memory := m.memory.store m.index (decimalDigits (m.reg x)) }, none) := by
    rw [execute_of_upcoming next]
    simp only [perform, advance, reg] at written ⊢
    simp only [written]
  rw [result]
  exact ⟨rfl, written⟩

theorem execute_of_regLoad {m : Machine τ} {x : Nat} (next : m.upcoming = some (.regLoad x)) {bytes : List UInt8}
    (read : m.memory.read? m.index (x + 1) = some bytes) :
    m.execute = ({ m.advance with registers := m.registers.setFrom 0 bytes }, none) := by
  rw [execute_of_upcoming next]
  simp only [perform, advance, read]

/-- Stored bytes that were spared since are loaded into the first registers. -/
theorem restored_of_write? {m n : Machine τ} {data : List UInt8}
    (written : m.memory.write? m.index data = some n.memory) {vs : List Move}
    (spared : n.everySlot (spares m.index data.length) vs = true) (back : (n.play vs).index = m.index) {y : Nat}
    (next : (n.play vs).upcoming = some (.regLoad y)) (fits : data.length = y + 1) :
    (n.play vs).execute.2 = none ∧
      ∀ k < 16, (n.play vs).execute.1.reg k = (data[k]?).getD ((n.play vs).reg k) := by
  have small : y < 16 := fits_of_upcoming next (.regX y) (List.mem_singleton_self _)
  have kept : (n.play vs).memory.read? m.index data.length = n.memory.read? m.index data.length :=
    Memory.read?_congr fun k within => cells_play spared within
  have read : (n.play vs).memory.read? (n.play vs).index (y + 1) = some data := by
    rw [back, ← fits, kept]
    exact Memory.read?_of_write? written
  rw [execute_of_regLoad next read]
  refine ⟨rfl, fun k bound => ?_⟩
  exact Registers.get_setFrom _ (by omega) bound

theorem clean_regDump_iff {m : Machine τ} {x : Nat} (next : m.upcoming = some (.regDump x)) :
    m.execute.2 = none ↔ m.index + x ≤ 4095 := by
  constructor
  · intro clean
    apply Nat.le_of_not_lt
    intro far
    have refused : m.memory.write? m.index (m.registers.first (x + 1)) = none := by
      rw [Memory.write?_eq_none_iff, Registers.length_first]
      omega
    rw [execute_of_upcoming next] at clean
    simp [perform, advance, refused] at clean
  · intro room
    exact (written_of_regDump next room).1

theorem clean_regLoad_iff {m : Machine τ} {x : Nat} (next : m.upcoming = some (.regLoad x)) :
    m.execute.2 = none ↔ m.index + x ≤ 4095 := by
  cases read : m.memory.read? m.index (x + 1) with
  | none =>
    have far := (m.memory.read?_eq_none_iff m.index (x + 1)).1 read
    rw [execute_of_upcoming next]
    simp only [perform, advance, read, reduceCtorEq, false_iff]
    omega
  | some bytes =>
    have inside : ¬4096 < m.index + (x + 1) := by
      rw [← m.memory.read?_eq_none_iff, read]
      exact Option.some_ne_none bytes
    rw [execute_of_regLoad next read]
    simp only [true_iff]
    omega

/-- Registers that were just loaded are stored where they came from. -/
theorem memory_of_reload {m : Machine τ} {x : Nat} (next : m.upcoming = some (.regLoad x))
    (again : m.execute.1.upcoming = some (.regDump x)) :
    m.execute.1.execute.2 = none ∧ m.execute.1.execute.1.memory = m.memory := by
  have small : x < 16 := fits_of_upcoming next (.regX x) (List.mem_singleton_self _)
  have clean : m.execute.2 = none := by
    cases fault : m.execute.2 with
    | none => rfl
    | some f =>
      obtain ⟨-, -, aborted, -⟩ := execute_of_fault fault
      have halted : m.execute.1.halted = true := by rw [aborted]; rfl
      simp [upcoming, halted] at again
  have room := (clean_regLoad_iff next).1 clean
  obtain ⟨bytes, read⟩ : ∃ bytes, m.memory.read? m.index (x + 1) = some bytes := by
    apply Option.ne_none_iff_exists'.1
    rw [Ne, Memory.read?_eq_none_iff]
    omega
  have count := Memory.length_of_read? read
  have loaded := execute_of_regLoad next read
  have index : m.execute.1.index = m.index := by rw [loaded]; rfl
  obtain ⟨clean', written⟩ := written_of_regDump again (by rw [index]; exact room)
  refine ⟨clean', ?_⟩
  -- what is stored is what was read
  have first : m.execute.1.registers.first (x + 1) = bytes := by
    rw [loaded, ← count]
    exact Registers.first_setFrom _ (by omega)
  have memory : m.execute.1.memory = m.memory := by rw [loaded]; rfl
  rw [first, index, memory, Memory.write?_of_read? read] at written
  exact (Option.some.inj written).symm

/-- Storing and loading registers fault on the same ranges and leave the index register alone.

Stored registers have their values again when as many are loaded later from the same place, whatever the slots, the
timers and the keys did in between without a fault and without writing to their bytes; the registers that are not loaded
stay as they are.  Storing registers right after they were loaded changes nothing in memory.  Decimal digits that are
loaded make up the value whose digits were stored. -/
theorem save_and_restore (m : Machine τ) (x : Nat) :
    (m.upcoming = some (.regDump x) →
      (m.execute.2 = none ↔ m.index + x ≤ 4095) ∧ m.execute.1.index = m.index ∧
        ∀ vs, m.execute.2 = none → m.execute.1.everySlot (spares m.index (x + 1)) vs = true →
          let last := m.execute.1.play vs
          last.index = m.index → last.upcoming = some (.regLoad x) →
            last.execute.2 = none ∧ (∀ k ≤ x, last.execute.1.reg k = m.reg k) ∧
              ∀ k, x < k → k < 16 → last.execute.1.reg k = last.reg k) ∧
    (m.upcoming = some (.regLoad x) →
      (m.execute.2 = none ↔ m.index + x ≤ 4095) ∧ m.execute.1.index = m.index ∧
        (m.execute.1.upcoming = some (.regDump x) →
          m.execute.1.execute.2 = none ∧ m.execute.1.execute.1.memory = m.memory)) ∧
    (m.upcoming = some (.storeBCD x) → m.index + 2 ≤ 4095 →
      m.execute.2 = none ∧
        ∀ vs, m.execute.1.everySlot (spares m.index 3) vs = true →
          let last := m.execute.1.play vs
          last.index = m.index → last.upcoming = some (.regLoad 2) →
            last.execute.2 = none ∧ (∀ k < 3, (last.execute.1.reg k).toNat ≤ 9) ∧
              100 * (last.execute.1.reg 0).toNat + 10 * (last.execute.1.reg 1).toNat + (last.execute.1.reg 2).toNat =
                (m.reg x).toNat) := by
  have index {i : Instruction} (next : m.upcoming = some i) (outside : .index ∉ i.footprint m.index m.stack.depth) :
      m.execute.1.index = m.index := by
    refine keeps_execute (p := .index) (fun _ => nofun) nofun nofun ?_
    intro j other
    obtain rfl := Option.some.inj (next.symm.trans other)
    exact outside
  refine ⟨fun next => ?_, fun next => ?_, fun next room => ?_⟩
  · have stays := index next (by simp [Instruction.footprint, Part.bytes])
    refine ⟨clean_regDump_iff next, stays, ?_⟩
    intro vs clean spared last back load
    have small : x < 16 := fits_of_upcoming next (.regX x) (List.mem_singleton_self _)
    have count := m.registers.length_first (x + 1)
    obtain ⟨-, written⟩ := written_of_regDump next ((clean_regDump_iff next).1 clean)
    rw [← count] at spared
    obtain ⟨restored, registers⟩ := restored_of_write? written spared back load count
    refine ⟨restored, fun k low => ?_, fun k high bound => ?_⟩
    · rw [registers k (by omega), m.registers.getElem?_first (Nat.lt_succ_of_le low)]
      rfl
    · rw [registers k bound, List.getElem?_eq_none (by omega)]
      rfl
  · have stays := index next (by simp [Instruction.footprint, Part.registers, Part.ofRegister])
    exact ⟨clean_regLoad_iff next, stays, memory_of_reload next⟩
  · obtain ⟨clean, written⟩ := written_of_storeBCD next room
    refine ⟨clean, ?_⟩
    intro vs spared last back load
    obtain ⟨restored, registers⟩ := restored_of_write? written spared back load rfl
    have hundreds : last.execute.1.reg 0 = m.reg x / 100 := registers 0 (by decide)
    have tens : last.execute.1.reg 1 = m.reg x / 10 % 10 := registers 1 (by decide)
    have units : last.execute.1.reg 2 = m.reg x % 10 := registers 2 (by decide)
    obtain ⟨first, second, third, total⟩ := digits_make_up (m.reg x)
    refine ⟨restored, fun k bound => ?_, by rw [hundreds, tens, units, total]⟩
    obtain rfl | rfl | rfl : k = 0 ∨ k = 1 ∨ k = 2 := by omega
    · rw [hundreds]
      exact first
    · rw [tens]
      exact second
    · rw [units]
      exact third

/-- Two registers are stored and loaded again, while the timers step and digits are written right behind them. -/
theorem save_and_restore_across :
    let program := [0x60, 0x2A, 0x61, 0x07, 0xA3, 0x00, 0xF1, 0x55, 0x60, 0xFE, 0xA3, 0x02, 0xF0, 0x33, 0xA3, 0x00,
      0xF1, 0x65]
    let m : Machine Rat := (fresh (.cycle [7] 0) false).after [.load program, .reset, .execute, .execute, .execute]
    let last := m.execute.1.play [.slot, .timers, .slot, .slot, .setKey 3 true, .slot]
    last.reg 0 = 0xFE ∧ last.execute.1.reg 0 = 0x2A ∧ last.execute.1.reg 1 = 7 := by
  intro program m last
  obtain ⟨next, clean, spared, back, load, before, first, second⟩ :
      m.upcoming = some (.regDump 1) ∧ m.execute.2 = none ∧
        m.execute.1.everySlot (spares m.index 2) [.slot, .timers, .slot, .slot, .setKey 3 true, .slot] = true ∧
        last.index = m.index ∧ last.upcoming = some (.regLoad 1) ∧ last.reg 0 = 0xFE ∧ m.reg 0 = 0x2A ∧
        m.reg 1 = 7 := by decide +kernel
  obtain ⟨-, restored, -⟩ := ((save_and_restore m 1).1 next).2.2 _ clean spared back load
  exact ⟨before, (restored 0 (by decide)).trans first, (restored 1 (by decide)).trans second⟩

end Machine

end Chip8
