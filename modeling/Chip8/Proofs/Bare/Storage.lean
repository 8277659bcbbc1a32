import Chip8.Machine.Command
import Chip8.Proofs.Slot

/-!
# Stores as lists

The stores of a machine have their sizes in their types.  Read as lists, their operations are the ones of lists:
reading an entry, changing an entry, cutting a range out and putting one in.
-/

namespace Chip8

/-- A change of one entry, continued behind it, is a change of a range. -/
private theorem splice_set {α : Type} {xs : List α} {start : Nat} (room : start < xs.length) (b : α) (bs : List α) :
    (xs.set start b).take (start + 1) ++ bs ++ (xs.set start b).drop (start + 1 + bs.length) =
      xs.take start ++ (b :: bs) ++ xs.drop (start + (b :: bs).length) := by
  have front : (xs.set start b).take (start + 1) = xs.take start ++ [b] := by
    rw [List.take_add_one, List.take_set_of_le (Nat.le_refl _)]
    simp [room]
  have back : (xs.set start b).drop (start + 1 + bs.length) = xs.drop (start + (b :: bs).length) := by
    rw [List.drop_set_of_lt (by omega), List.length_cons]
    congr 1
    omega
  rw [front, back]
  simp

namespace Registers

theorem eq_of_toList {r t : Registers} (h : r.bytes.toList = t.bytes.toList) : r = t := by
  cases r
  cases t
  exact congrArg Registers.mk (Vector.toList_inj.1 h)

theorem getElem?_toList (r : Registers) {x : Nat} (h : x < 16) : r.bytes.toList[x]? = some (r.get x) := by
  simp [get, h, Nat.mod_eq_of_lt h]

theorem toList_set (r : Registers) {x : Nat} (h : x < 16) (b : UInt8) :
    (r.set x b).bytes.toList = r.bytes.toList.set x b := by
  simp [set, Vector.toList_set, Nat.mod_eq_of_lt h]

theorem first_eq_take (r : Registers) {n : Nat} (h : n ≤ 16) : r.first n = r.bytes.toList.take n := by
  apply List.ext_getElem
  · simp [first, h]
  · intro i hi _
    have small : i < 16 := by simp [first] at hi; omega
    have entry := r.getElem?_toList small
    simp only [first, List.getElem_map, List.getElem_range, List.getElem_take]
    exact (Option.some.inj ((List.getElem?_eq_getElem (by simpa using small)).symm.trans entry)).symm

theorem toList_setFrom (r : Registers) (x : Nat) (bs : List UInt8) (room : x + bs.length ≤ 16) :
    (r.setFrom x bs).bytes.toList = r.bytes.toList.take x ++ bs ++ r.bytes.toList.drop (x + bs.length) := by
  induction bs generalizing r x with
  | nil => simp [setFrom]
  | cons b bs ih =>
    rw [List.length_cons] at room
    rw [setFrom, ih (r.set x b) (x + 1) (by omega), r.toList_set (by omega)]
    exact splice_set (by simp; omega) b bs

end Registers

namespace Memory

theorem eq_of_toList {m n : Memory} (h : m.cells.toList = n.cells.toList) : m = n := by
  cases m
  cases n
  exact congrArg Memory.mk (Vector.toList_inj.1 h)

theorem toList_store (m : Memory) (start : Nat) (data : List UInt8) (room : start + data.length ≤ 4096) :
    (m.store start data).cells.toList =
      m.cells.toList.take start ++ data ++ m.cells.toList.drop (start + data.length) := by
  induction data generalizing m start with
  | nil => simp [store]
  | cons b bs ih =>
    rw [List.length_cons] at room
    rw [store, ih _ (start + 1) (by omega)]
    have step : (m.cells.setIfInBounds start b).toList = m.cells.toList.set start b := by simp
    rw [step]
    exact splice_set (by simp; omega) b bs

theorem read?_eq (m : Memory) (start length : Nat) :
    m.read? start length =
      if start + length ≤ 4096 then some ((m.cells.toList.take (start + length)).drop start) else none := by
  unfold read?
  split
  · rename_i room
    rw [Option.some_inj]
    apply List.ext_getElem
    · simp; omega
    · intro i _ _
      simp
  · rfl

theorem fetch?_eq {m : Memory} {a : Nat} (h : a ≤ 4094) :
    ∃ high low, m.cells.toList[a]? = some high ∧ m.cells.toList[a + 1]? = some low ∧
      m.fetch? a = some (high.toNat * 256 + low.toNat) := by
  have first : a < 4096 := by omega
  have second : a + 1 < 4096 := by omega
  refine ⟨m.cells[a], m.cells[a + 1], ?_, ?_, ?_⟩
  · simp [first]
  · simp [second]
  · simp [fetch?, second]

end Memory

end Chip8
