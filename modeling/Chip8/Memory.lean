/-!
# Memory

The 4096 bytes of memory, and the font at their start.

* `Memory.read?` and `Memory.write?` access a range of addresses, and refuse one that does not lie in memory as a whole;
* `Memory.fetch?` reads the big-endian word at an address;
* `Memory.powerOn` is the memory of a machine with a program: the font, zeros, and the program from `0x200` on.
-/

namespace Chip8

def memorySize : Nat := 4096

def programStart : Nat := 0x200

/-- The number of bytes from the start of programs to the end of memory. -/
def maxProgramSize : Nat := memorySize - programStart

/-- The number of rows of a glyph, a byte each. -/
def glyphHeight : Nat := 5

def glyphCount : Nat := 16

/-- The glyphs of the hexadecimal digits, in order.  A row is the high half of a byte. -/
def font : List UInt8 :=
  [0xF0, 0x90, 0x90, 0x90, 0xF0,
   0x20, 0x60, 0x20, 0x20, 0x70,
   0xF0, 0x10, 0xF0, 0x80, 0xF0,
   0xF0, 0x10, 0xF0, 0x10, 0xF0,
   0x90, 0x90, 0xF0, 0x10, 0x10,
   0xF0, 0x80, 0xF0, 0x10, 0xF0,
   0xF0, 0x80, 0xF0, 0x90, 0xF0,
   0xF0, 0x10, 0x20, 0x40, 0x40,
   0xF0, 0x90, 0xF0, 0x90, 0xF0,
   0xF0, 0x90, 0xF0, 0x10, 0xF0,
   0xF0, 0x90, 0xF0, 0x90, 0x90,
   0xE0, 0x90, 0xE0, 0x90, 0xE0,
   0xF0, 0x80, 0x80, 0x80, 0xF0,
   0xE0, 0x90, 0x90, 0x90, 0xE0,
   0xF0, 0x80, 0xF0, 0x80, 0xF0,
   0xF0, 0x80, 0xF0, 0x80, 0x80]

/-- The address of the glyph of a digit.  A number beyond the digits gives the address at which its glyph would
stand if the font went on. -/
def glyphAddress (digit : Int) : Int := digit * glyphHeight

structure Memory where
  /-- The bytes, by address. -/
  cells : Vector UInt8 4096
deriving DecidableEq

namespace Memory

def blank : Memory := ⟨Vector.replicate 4096 0⟩

def get (m : Memory) (a : Fin 4096) : UInt8 := m.cells[a]

/-- Puts bytes in memory from an address on; those that fall beyond the end are dropped. -/
def store (m : Memory) (start : Nat) : List UInt8 → Memory
  | [] => m
  | b :: bs => store ⟨m.cells.setIfInBounds start b⟩ (start + 1) bs

/-- The bytes of a range of addresses, or `none` if the range leaves memory. -/
def read? (m : Memory) (start length : Nat) : Option (List UInt8) :=
  if h : start + length ≤ 4096 then
    some (List.ofFn fun i : Fin length => m.cells[start + i])
  else none

/-- The memory after bytes were written from an address on, or `none` if the range leaves memory. -/
def write? (m : Memory) (start : Nat) (data : List UInt8) : Option Memory :=
  if start + data.length ≤ 4096 then some (m.store start data) else none

/-- The big-endian word at an address, or `none` if one of its bytes lies outside memory. -/
def fetch? (m : Memory) (a : Nat) : Option Nat :=
  if h : a + 1 < 4096 then some (m.cells[a].toNat * 256 + m.cells[a + 1].toNat) else none

/-- The memory with the area of programs replaced by a program and zeros behind it. -/
def withProgram (m : Memory) (program : List UInt8) : Memory :=
  (m.store programStart (List.replicate maxProgramSize 0)).store programStart program

/-- The memory of a machine with a program, before its first instruction. -/
def powerOn (program : List UInt8) : Memory :=
  (blank.store 0 font).store programStart program

/-- Stored bytes are read back at their addresses, and the other addresses keep theirs. -/
theorem get_store (m : Memory) (start : Nat) (data : List UInt8) (a : Fin 4096) :
    (m.store start data).get a = if start ≤ a then (data[a.val - start]?).getD (m.get a) else m.get a := by
  induction data generalizing m start with
  | nil => simp [store]
  | cons b bs ih =>
    rw [store, ih]
    simp only [get, Fin.getElem_fin, Vector.getElem_setIfInBounds]
    rcases Nat.lt_trichotomy start a.val with h | h | h
    · obtain ⟨k, hk⟩ : ∃ k, a.val - start = k + 1 := ⟨a.val - start - 1, by omega⟩
      have hk' : a.val - (start + 1) = k := by omega
      simp [hk, hk', Nat.ne_of_lt h, Nat.le_of_lt h, Nat.succ_le_of_lt h]
    · simp [h, show ¬a.val + 1 ≤ a.val by omega]
    · simp [Nat.not_le_of_lt h, Nat.ne_of_gt h, show ¬start + 1 ≤ a.val by omega]

/-- Writing leaves the bytes before the range and behind it alone. -/
theorem getElem?_of_write? {m n : Memory} {start a : Nat} {data : List UInt8} (h : m.write? start data = some n)
    (outside : a < start ∨ start + data.length ≤ a) : n.cells[a]? = m.cells[a]? := by
  have stored : m.store start data = n := by
    unfold write? at h
    split at h
    · exact Option.some.inj h
    · simp at h
  by_cases inside : a < 4096
  · have kept : n.get ⟨a, inside⟩ = m.get ⟨a, inside⟩ := by
      rw [← stored, get_store]
      split
      · rename_i behind
        have beyond : data.length ≤ a - start := by
          have : start ≤ a := behind
          omega
        rw [List.getElem?_eq_none beyond, Option.getD_none]
      · rfl
    rw [Vector.getElem?_eq_getElem inside, Vector.getElem?_eq_getElem inside]
    exact congrArg some kept
  · rw [Vector.getElem?_eq_none (by omega), Vector.getElem?_eq_none (by omega)]

/-- A range that was read has the length that was asked for. -/
theorem length_of_read? {m : Memory} {start length : Nat} {bytes : List UInt8}
    (h : m.read? start length = some bytes) : bytes.length = length := by
  unfold read? at h
  split at h
  · obtain rfl := Option.some.inj h
    exact List.length_ofFn
  · simp at h

end Memory

end Chip8
