/-!
# Registers

The sixteen byte registers `V0` to `VF`.  Register numbers count modulo sixteen, so every number names a register.
-/

namespace Chip8

/-- The register that instructions use for carry, borrow and collision. -/
def flagRegister : Nat := 15

structure Registers where
  bytes : Vector UInt8 16
deriving DecidableEq

namespace Registers

/-- Registers that hold zeros. -/
def zeros : Registers := ⟨Vector.replicate 16 0⟩

/-- The register with the given number. -/
def get (r : Registers) (x : Nat) : UInt8 := r.bytes[Fin.ofNat 16 x]

/-- The registers with one of them changed. -/
def set (r : Registers) (x : Nat) (b : UInt8) : Registers := ⟨r.bytes.set (Fin.ofNat 16 x) b⟩

/-- The first `n` registers in order. -/
def first (r : Registers) (n : Nat) : List UInt8 := (List.range n).map r.get

/-- The registers with consecutive ones, from number `x` on, changed. -/
def setFrom (r : Registers) (x : Nat) : List UInt8 → Registers
  | [] => r
  | b :: bs => setFrom (r.set x b) (x + 1) bs

theorem get_set (r : Registers) (x y : Nat) (b : UInt8) :
    (r.set x b).get y = if x % 16 = y % 16 then b else r.get y := by
  simp [get, set, Vector.getElem_set]

end Registers

end Chip8
