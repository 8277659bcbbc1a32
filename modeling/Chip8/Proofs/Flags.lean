import Chip8.Machine.Command
import Chip8.Proofs.Slot

/-!
# Flags

Five instructions compute with registers and leave in the flag register what does not fit into the result, or whether
nothing was borrowed.  They differ in the byte that they compute (`FlagOperation.result`) and in the flag that belongs
to it (`FlagOperation.flag`); these two make up for each other in an equation of integers (`FlagOperation.balances`).

All of them read both registers, then write the result and then the flag (`Machine.perform_flagOperation`).  So with the
flag register among the operands, the flag is that of the values before, and it takes the place of a result that would
go there (`Machine.flag_arithmetic`).
-/

namespace Chip8

/-- An instruction that computes with registers and sets the flag register. -/
inductive FlagOperation where
  | add
  | subtract
  | shiftRight
  /-- Subtraction the other way around. -/
  | difference
  | shiftLeft
deriving DecidableEq

namespace FlagOperation

/-- The last place of the word of the operation. -/
def digit : FlagOperation → Nat
  | add => 0x4
  | subtract => 0x5
  | shiftRight => 0x6
  | difference => 0x7
  | shiftLeft => 0xE

/-- The word that asks for the operation on `VX` and `VY`. -/
def word (o : FlagOperation) (x y : Nat) : Nat := 0x8000 + 0x100 * x + 0x10 * y + o.digit

/-- The instruction for the operation.  The shifts take nothing from the place of `Y`. -/
def instruction (x y : Nat) : FlagOperation → Instruction
  | add => .add x y
  | subtract => .subtract x y
  | shiftRight => .shiftRight x
  | difference => .difference x y
  | shiftLeft => .shiftLeft x

/-- The byte that the operation computes from the bytes of `VX` and `VY`. -/
def result (a b : UInt8) : FlagOperation → UInt8
  | add => a + b
  | subtract => a - b
  | shiftRight => a / 2
  | difference => b - a
  | shiftLeft => a + a

/-- The flag for the values of `VX` and `VY`: the carry, whether nothing is borrowed, or the bit that is shifted out. -/
def flag (a b : Nat) : FlagOperation → Bool
  | add => 256 ≤ a + b
  | subtract => b ≤ a
  | shiftRight => a.testBit 0
  | difference => a ≤ b
  | shiftLeft => a.testBit 7

/-- Do the result `r` and the flag `f` together stand for what is to be computed from `a` and `b`? -/
def Balances (a b r f : Int) : FlagOperation → Prop
  | add => r + 256 * f = a + b
  | subtract => r = a - b + 256 * (1 - f)
  | shiftRight => 2 * r + f = a
  | difference => r = b - a + 256 * (1 - f)
  | shiftLeft => r + 256 * f = 2 * a

theorem decode_word (o : FlagOperation) (x y : Fin 16) : decode (o.word x y) = some (o.instruction x y) := by
  have all : ∀ x y : Fin 16, decode (o.word x y) = some (o.instruction x y) := by
    cases o <;> decide +kernel
  exact all x y

private theorem toNat_decide (p : Prop) [Decidable p] : (decide p).toNat = if p then 1 else 0 :=
  Bool.cond_decide p 1 0

/-- The result is what is left when the flag takes its part of the sum, the difference or the double. -/
theorem balances (o : FlagOperation) (a b : UInt8) :
    o.Balances a.toNat b.toNat (o.result a b).toNat (o.flag a.toNat b.toNat).toNat := by
  have first := a.toNat_lt
  have second := b.toNat_lt
  cases o with
  | add =>
    simp only [Balances, result, flag, UInt8.toNat_add, toNat_decide]
    split <;> omega
  | subtract | difference =>
    simp only [Balances, result, flag, UInt8.toNat_sub, toNat_decide]
    split <;> omega
  | shiftRight =>
    simp only [Balances, result, flag, UInt8.toNat_div, Nat.testBit_zero, toNat_decide]
    split <;> simp <;> omega
  | shiftLeft =>
    simp only [Balances, result, flag, UInt8.toNat_add, Nat.testBit_eq_decide_div_mod_eq, toNat_decide]
    split <;> omega

end FlagOperation

namespace Machine

variable {τ : Type}

/-- The operation writes its result and then its flag, both for the values before. -/
theorem perform_flagOperation (m : Machine τ) (here : Nat) (o : FlagOperation) (x y : Nat) :
    m.perform here (o.instruction x y) =
      .ok ((m.setReg x (o.result (m.reg x) (m.reg y))).setFlag (o.flag (m.reg x).toNat (m.reg y).toNat)) := by
  -- the other operations decide their flag as it is said here
  cases o with
  | add | subtract | difference => rfl
  | shiftRight =>
    have low : ((m.reg x).toNat % 2 == 1) = (m.reg x).toNat.testBit 0 := (Nat.testBit_zero _).symm
    exact congrArg (fun flag => Except.ok ((m.setReg x (m.reg x / 2)).setFlag flag)) low
  | shiftLeft =>
    have byte := (m.reg x).toNat_lt
    have high : decide (128 ≤ m.reg x) = (m.reg x).toNat.testBit 7 := by
      rw [Nat.testBit_eq_decide_div_mod_eq, decide_eq_decide, UInt8.le_iff_toNat_le]
      change 128 ≤ _ ↔ _
      omega
    exact congrArg (fun flag => Except.ok ((m.setReg x (m.reg x + m.reg x)).setFlag flag)) high

/-- An arithmetic instruction with a flag does not fault.  The flag register then holds the flag for the values of the
two registers before, whichever registers they are.  Unless the result went to the flag register too, its register holds
what makes up for the flag.  The other registers stay the same. -/
theorem flag_arithmetic {m : Machine τ} (on : m.halted = false) (runs : m.awaiting = none) (o : FlagOperation)
    (x y : Fin 16) (fetched : m.memory.fetch? m.pc = some (o.word x y)) :
    let n := m.execute.1
    let a := (m.reg x).toNat
    let b := (m.reg y).toNat
    let f := (n.reg flagRegister).toNat
    m.execute.2 = none ∧ f = (o.flag a b).toNat ∧
      (x.val ≠ flagRegister → o.Balances a b (n.reg x).toNat f) ∧
      ∀ z : Fin 16, z ≠ x → z.val ≠ flagRegister → n.reg z = m.reg z := by
  intro n a b f
  have slot := Slot.eq_execute (.done on runs fetched (o.decode_word x y) (m.advance.perform_flagOperation m.pc o x y))
  have next : n = (m.advance.setReg x (o.result (m.reg x) (m.reg y))).setFlag (o.flag a b) := congrArg Prod.fst slot
  have flag : f = (o.flag a b).toNat := by
    have set := reg_setFlag (m.advance.setReg x (o.result (m.reg x) (m.reg y))) (o.flag a b)
    rw [← next] at set
    change (n.reg flagRegister).toNat = _
    rw [set]
    cases o.flag a b <;> rfl
  have others (z : Fin 16) (free : z.val ≠ flagRegister) :
      n.reg z = if x.val = z.val then o.result (m.reg x) (m.reg y) else m.reg z := by
    rw [next, setFlag, reg_setReg, reg_setReg, Nat.mod_eq_of_lt x.isLt, Nat.mod_eq_of_lt z.isLt, if_neg]
    · rfl
    · exact fun same => free same.symm
  refine ⟨congrArg Prod.snd slot, flag, ?_, ?_⟩
  · intro free
    rw [others x free, if_pos rfl, flag]
    exact o.balances (m.reg x) (m.reg y)
  · intro z other free
    rw [others z free, if_neg]
    exact fun same => other (Fin.ext same.symm)

/-- The flag register is the second operand of an addition with a carry. -/
theorem flag_arithmetic_carry :
    let m : Machine Rat := (fresh (.cycle [] 0) false).after
      [.load [0x63, 0x10, 0x6F, 0xF8, 0x83, 0xF4], .reset, .execute, .execute]
    m.halted = false ∧ m.awaiting = none ∧ m.memory.fetch? m.pc = some (FlagOperation.add.word 3 15) ∧
      (m.execute.1.reg flagRegister).toNat = 1 ∧ (m.execute.1.reg 3).toNat = 8 := by
  intro m
  obtain ⟨on, runs, fetched, first, second⟩ : m.halted = false ∧ m.awaiting = none ∧
      m.memory.fetch? m.pc = some (FlagOperation.add.word 3 15) ∧ (m.reg 3).toNat = 0x10 ∧
      (m.reg 15).toNat = 0xF8 := by decide +kernel
  obtain ⟨-, flag, balance, -⟩ := flag_arithmetic on runs .add ⟨3, by decide⟩ ⟨15, by decide⟩ fetched
  rw [first, second] at flag balance
  have carry : (m.execute.1.reg flagRegister).toNat = 1 := flag
  have sum : ((m.execute.1.reg 3).toNat : Int) + 256 * ((m.execute.1.reg flagRegister).toNat : Int) = 0x10 + 0xF8 :=
    balance (by decide)
  refine ⟨on, runs, fetched, carry, ?_⟩
  omega

end Machine

end Chip8
