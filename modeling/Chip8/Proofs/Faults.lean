import Chip8.Proofs.Atomicity
import Chip8.Proofs.Grammar
import Chip8.Proofs.Invariant

/-!
# When slots fault

A slot of a machine that runs faults for one of three reasons: a call finds the stack full, a return finds it empty, or
a byte that the slot has to access does not lie in memory.  `Instruction.access?` says which bytes an instruction
accesses, from the index register on, and `Machine.touched` lists the addresses for a slot, those of the instruction
itself included.

* `Instruction.Faults` lists the ways in which an instruction can fault, and `Machine.perform_eq_error_iff` says that it
  does so just in these ways;
* `Machine.execute_eq_some_iff` gives the fault of a slot;
* `Machine.faults_exactly` says for every machine that a host can bring about when its next slot faults and why.  There
  is one fault without a byte to blame: a sprite without rows that would begin behind the end of memory
  (`Machine.empty_sprite_faults`).
-/

namespace Chip8

theorem Registers.length_first (r : Registers) (n : Nat) : (r.first n).length = n := by
  simp [first]

namespace Memory

theorem read?_eq_none_iff (m : Memory) (start length : Nat) : m.read? start length = none ↔ 4096 < start + length := by
  unfold read?
  split
  · simp only [reduceCtorEq, false_iff]
    omega
  · simp only [true_iff]
    omega

theorem write?_eq_none_iff (m : Memory) (start : Nat) (data : List UInt8) :
    m.write? start data = none ↔ 4096 < start + data.length := by
  unfold write?
  split
  · simp only [reduceCtorEq, false_iff]
    omega
  · simp only [true_iff]
    omega

end Memory

/-- Is the fault about an address outside memory? -/
def Fault.isOfMemory : Fault → Bool
  | .fetchOutside _ | .accessOutside .. => true
  | .stackOverflow _ | .stackUnderflow _ => false

namespace Instruction

/-- How an instruction accesses memory from the index register on, and how many bytes of it. -/
def access? : Instruction → Option (Access × Nat)
  | .storeBCD _ => some (.bcdStore, 3)
  | .regDump x => some (.registerDump, x + 1)
  | .regLoad x => some (.registerLoad, x + 1)
  | .drawSprite _ _ n => some (.spriteRead, n)
  | _ => none

/-- The addresses of the bytes that an instruction accesses, given the index register. -/
def touched (index : Nat) (i : Instruction) : List Nat :=
  match i.access? with
  | some (_, length) => List.range' index length
  | none => []

/-- The ways in which an instruction from address `here` can fault, given the index register and the depth of the call
stack. -/
inductive Faults (index depth here : Nat) : Instruction → Fault → Prop where
  | overflow (full : depth = 16) (t : Nat) : Faults index depth here (.call t) (.stackOverflow here)
  | underflow (empty : depth = 0) : Faults index depth here .ret (.stackUnderflow here)
  | outside {i : Instruction} {access : Access} {length : Nat} (accesses : i.access? = some (access, length))
      (far : 4096 < index + length) : Faults index depth here i (.accessOutside access index length here)

/-- Only a sprite can have nothing to access at the index register. -/
theorem eq_drawSprite_of_access? {i : Instruction} {access : Access} (h : i.access? = some (access, 0)) :
    ∃ x y, i = .drawSprite x y 0 := by
  cases i with
  | drawSprite x y n =>
    obtain ⟨-, rfl⟩ := Prod.mk.inj (Option.some.inj h)
    exact ⟨x, y, rfl⟩
  | _ => simp [access?] at h

end Instruction

namespace Machine

section Slots

variable {τ : Type}

/-- If an instruction faults, it does so in one of the ways that there are for it. -/
theorem faults_of_perform {m : Machine τ} (fits : m.stack.depth ≤ 16) {here : Nat} {i : Instruction} {f : Fault}
    (fault : m.perform here i = .error f) : i.Faults m.index m.stack.depth here f := by
  have length := CallStack.length_live fits
  cases i with
  | ret =>
    simp only [perform] at fault
    split at fault
    · contradiction
    · rename_i none
      obtain rfl := Except.error.inj fault
      rw [CallStack.pop?_eq_none_iff fits, ← List.length_eq_zero_iff, length] at none
      exact .underflow none
  | call t =>
    simp only [perform] at fault
    split at fault
    · contradiction
    · rename_i none
      obtain rfl := Except.error.inj fault
      rw [CallStack.push?_eq_none_iff fits, length] at none
      exact .overflow none t
  | drawSprite | regLoad | storeBCD | regDump =>
    simp only [perform] at fault
    split at fault
    · contradiction
    · rename_i none
      obtain rfl := Except.error.inj fault
      simp only [Memory.read?_eq_none_iff, Memory.write?_eq_none_iff, Registers.length_first] at none
      exact .outside rfl none
  | _ => contradiction

/-- In each of the ways that there are for it, an instruction faults. -/
theorem perform_of_faults {m : Machine τ} (fits : m.stack.depth ≤ 16) {here : Nat} {i : Instruction} {f : Fault}
    (faults : i.Faults m.index m.stack.depth here f) : m.perform here i = .error f := by
  have length := CallStack.length_live fits
  cases faults with
  | overflow full t =>
    have none : m.stack.push? m.pc = none := (CallStack.push?_eq_none_iff fits _).2 (length.trans full)
    simp only [perform, none]
  | underflow empty =>
    have none : m.stack.pop? = none := by
      rw [CallStack.pop?_eq_none_iff fits, ← List.length_eq_zero_iff, length, empty]
    simp only [perform, none]
  | outside accesses far =>
    cases i with
    | drawSprite | regLoad =>
      obtain ⟨rfl, rfl⟩ := Prod.mk.inj (Option.some.inj accesses)
      simp only [perform, (Memory.read?_eq_none_iff _ _ _).2 far]
    | storeBCD x =>
      obtain ⟨rfl, rfl⟩ := Prod.mk.inj (Option.some.inj accesses)
      have none : m.memory.write? m.index (decimalDigits (m.reg x)) = none :=
        (Memory.write?_eq_none_iff _ _ _).2 far
      simp only [perform, none]
    | regDump x =>
      obtain ⟨rfl, rfl⟩ := Prod.mk.inj (Option.some.inj accesses)
      have none : m.memory.write? m.index (m.registers.first (x + 1)) = none := by
        rw [Memory.write?_eq_none_iff, Registers.length_first]
        exact far
      simp only [perform, none]
    | _ => simp [Instruction.access?] at accesses

theorem perform_eq_error_iff {m : Machine τ} (fits : m.stack.depth ≤ 16) (here : Nat) (i : Instruction) (f : Fault) :
    m.perform here i = .error f ↔ i.Faults m.index m.stack.depth here f :=
  ⟨faults_of_perform fits, perform_of_faults fits⟩

/-- A slot faults just if a machine that runs cannot fetch its instruction, or the instruction faults. -/
theorem execute_eq_some_iff {m : Machine τ} (fits : m.stack.depth ≤ 16) (on : m.halted = false)
    (runs : m.awaiting = none) (f : Fault) :
    m.execute.2 = some f ↔
      (4094 < m.pc ∧ f = .fetchOutside m.pc) ∨
        ∃ i, m.upcoming = some i ∧ i.Faults m.index m.stack.depth m.pc f := by
  have slot := m.slot_execute
  generalize m.execute = r at slot ⊢
  cases slot with
  | idle halted =>
    rw [on] at halted
    contradiction
  | poll _ waits =>
    rw [runs] at waits
    contradiction
  | outside _ _ far =>
    have next : m.upcoming = none := by
      rw [upcoming, on, runs, (m.memory.fetch?_eq_none_iff m.pc).2 far]
      rfl
    simp [next, far, eq_comm]
  | unknown _ _ fetched unknown =>
    have inside := Nat.not_lt_of_le (Memory.le_of_fetch? fetched)
    have next := (upcoming_of_fetch on runs fetched).trans unknown
    simp [next, inside]
  | @done _ _ _ fetched i decoded n done =>
    have inside := Nat.not_lt_of_le (Memory.le_of_fetch? fetched)
    have next := (upcoming_of_fetch on runs fetched).trans decoded
    have clean : ¬i.Faults m.index m.stack.depth m.pc f := by
      intro faults
      have failed := (perform_eq_error_iff (m := m.advance) fits m.pc i f).2 faults
      rw [done] at failed
      contradiction
    simp [next, inside, clean]
  | @faulted _ _ _ fetched i decoded g fault =>
    have inside := Nat.not_lt_of_le (Memory.le_of_fetch? fetched)
    have next := (upcoming_of_fetch on runs fetched).trans decoded
    have only : g = f ↔ i.Faults m.index m.stack.depth m.pc f := by
      have iff := perform_eq_error_iff (m := m.advance) fits m.pc i f
      rw [fault, Except.error.injEq] at iff
      exact iff
    simp [next, inside, only]

/-- The word at the program counter has the pattern of a kind just if the next instruction is of this kind. -/
theorem upcoming_iff_accepts {m : Machine τ} (on : m.halted = false) (runs : m.awaiting = none) (k : Opcode) :
    (∃ i, m.upcoming = some i ∧ i.opcode = k) ↔
      ∃ word : Nat, m.memory.fetch? m.pc = some word ∧ k.accepts word = true := by
  constructor
  · rintro ⟨i, next, rfl⟩
    obtain ⟨-, -, word, fetched, decoded⟩ := word_of_upcoming next
    exact ⟨word, fetched, accepts_of_decode decoded⟩
  · rintro ⟨word, fetched, fits⟩
    obtain ⟨i, decoded, kind, -⟩ := Opcode.exists_decode_of_accepts fits
    exact ⟨i, (upcoming_of_fetch on runs fetched).trans decoded, kind⟩

/-- The next instruction is a call, and there is no room for its return address. -/
def Overflows (m : Machine τ) : Prop :=
  m.stack.depth = 16 ∧ ∃ word : Nat, m.memory.fetch? m.pc = some word ∧ Opcode.call.accepts word = true

/-- The next instruction is a return, and there is no address to which it leads. -/
def Underflows (m : Machine τ) : Prop :=
  m.stack.depth = 0 ∧ ∃ word : Nat, m.memory.fetch? m.pc = some word ∧ Opcode.ret.accepts word = true

/-- The addresses of the bytes that the next slot accesses: those of its instruction, and those that this accesses. -/
def touched (m : Machine τ) : List Nat :=
  m.pc :: (m.pc + 1) :: (m.upcoming.map (Instruction.touched m.index)).getD []

/-- The next slot has to access a byte that does not lie in memory. -/
def LeavesMemory (m : Machine τ) : Prop := ∃ a ∈ m.touched, 4096 ≤ a

/-- The next instruction is a sprite without rows that would begin behind the end of memory. -/
def DrawsNothingOutside (m : Machine τ) : Prop := 4096 < m.index ∧ ∃ x y, m.upcoming = some (.drawSprite x y 0)

section Causes

variable {m : Machine τ} (fits : m.stack.depth ≤ 16) (on : m.halted = false) (runs : m.awaiting = none)

include fits on runs

theorem stackOverflow_iff : (∃ a, m.execute.2 = some (.stackOverflow a)) ↔ m.Overflows := by
  rw [Overflows, ← upcoming_iff_accepts on runs]
  simp only [execute_eq_some_iff fits on runs]
  constructor
  · rintro ⟨a, ⟨-, same⟩ | ⟨i, next, faults⟩⟩
    · contradiction
    · cases faults with
      | overflow full t => exact ⟨full, .call t, next, rfl⟩
  · rintro ⟨full, i, next, kind⟩
    obtain ⟨t, rfl⟩ : ∃ t, i = .call t := by
      cases i <;> simp [Instruction.opcode] at kind ⊢
    exact ⟨m.pc, .inr ⟨.call t, next, .overflow full t⟩⟩

theorem stackUnderflow_iff : (∃ a, m.execute.2 = some (.stackUnderflow a)) ↔ m.Underflows := by
  rw [Underflows, ← upcoming_iff_accepts on runs]
  simp only [execute_eq_some_iff fits on runs]
  constructor
  · rintro ⟨a, ⟨-, same⟩ | ⟨i, next, faults⟩⟩
    · contradiction
    · cases faults with
      | underflow empty => exact ⟨empty, .ret, next, rfl⟩
  · rintro ⟨empty, i, next, kind⟩
    obtain rfl : i = .ret := by
      cases i <;> simp [Instruction.opcode] at kind ⊢
    exact ⟨m.pc, .inr ⟨.ret, next, .underflow empty⟩⟩

theorem ofMemory_iff :
    (∃ f, m.execute.2 = some f ∧ f.isOfMemory = true) ↔ m.LeavesMemory ∨ m.DrawsNothingOutside := by
  simp only [execute_eq_some_iff fits on runs]
  constructor
  · rintro ⟨f, ⟨far, -⟩ | ⟨i, next, faults⟩, ofMemory⟩
    · exact .inl ⟨m.pc + 1, by simp [touched], by omega⟩
    · cases faults with
      | overflow | underflow => contradiction
      | @outside _ access length accesses far =>
        cases length with
        | zero =>
          obtain ⟨x, y, rfl⟩ := Instruction.eq_drawSprite_of_access? accesses
          exact .inr ⟨far, x, y, next⟩
        | succ n =>
          -- the last of the bytes is the farthest
          refine .inl ⟨m.index + n, ?_, by omega⟩
          simp [touched, next, Instruction.touched, accesses]
  · rintro (⟨a, touches, far⟩ | ⟨far, x, y, next⟩)
    · simp only [touched, List.mem_cons] at touches
      rcases touches with rfl | rfl | touches
      · exact ⟨_, .inl ⟨by omega, rfl⟩, rfl⟩
      · exact ⟨_, .inl ⟨by omega, rfl⟩, rfl⟩
      · cases next : m.upcoming with
        | none => simp [next] at touches
        | some i =>
          cases accesses : i.access? with
          | none => simp [next, Instruction.touched, accesses] at touches
          | some range =>
            obtain ⟨access, length⟩ := range
            simp only [next, Instruction.touched, accesses, Option.map_some, Option.getD_some,
              List.mem_range'_1] at touches
            exact ⟨_, .inr ⟨i, rfl, .outside accesses (by omega)⟩, rfl⟩
    · exact ⟨_, .inr ⟨.drawSprite x y 0, next, .outside rfl far⟩, rfl⟩

end Causes

end Slots

variable {τ : Type} [TimeBase τ]

/-- The next slot of a machine that a host can bring about is a fault of the stack just if it is a call with sixteen
calls open or a return with none open, and a fault of memory just if a byte that it has to access lies outside, or it
draws a sprite without rows from behind the end of memory.  There are no other faults, and none while the machine waits
for a key. -/
theorem faults_exactly (random : RandomSource) (catchUp : Bool) (h : List (Command τ)) :
    let m := (fresh random catchUp).after h
    (m.awaiting.isSome = true → m.execute.2 = none) ∧
      (m.halted = false → m.awaiting = none →
        ((∃ a, m.execute.2 = some (.stackOverflow a)) ↔ m.Overflows) ∧
          ((∃ a, m.execute.2 = some (.stackUnderflow a)) ↔ m.Underflows) ∧
          ((∃ f, m.execute.2 = some f ∧ f.isOfMemory = true) ↔ m.LeavesMemory ∨ m.DrawsNothingOutside) ∧
          (m.execute.2 = none ↔
            ¬m.Overflows ∧ ¬m.Underflows ∧ ¬m.LeavesMemory ∧ ¬m.DrawsNothingOutside)) := by
  intro m
  have fits : m.stack.depth ≤ 16 := (sound_after_fresh random catchUp h).depth
  refine ⟨?_, fun on runs => ?_⟩
  · intro waits
    cases fault : m.execute.2 with
    | none => rfl
    | some f =>
      obtain ⟨-, runs, -⟩ := execute_of_fault fault
      simp [runs] at waits
  · have overflow := stackOverflow_iff fits on runs
    have underflow := stackUnderflow_iff fits on runs
    have ofMemory := ofMemory_iff fits on runs
    refine ⟨overflow, underflow, ofMemory, ?_⟩
    have inMemory : ¬m.LeavesMemory ∧ ¬m.DrawsNothingOutside ↔ ¬∃ f, m.execute.2 = some f ∧ f.isOfMemory = true :=
      not_or.symm.trans (not_congr ofMemory.symm)
    rw [inMemory, ← overflow, ← underflow]
    cases fault : m.execute.2 with
    | none => simp
    | some f =>
      -- every fault is one of the three
      cases f <;> simp [Fault.isOfMemory]

/-- With the index register at 4097, the instruction `DXY0` faults although it has no byte to access. -/
theorem empty_sprite_faults :
    let m := (fresh (.cycle [] 0) false : Machine Rat).after
      [.load [0xAF, 0xFF, 0x60, 0x02, 0xF0, 0x1E, 0xD0, 0x10], .reset, .execute, .execute, .execute]
    m.halted = false ∧ m.awaiting = none ∧ ¬m.LeavesMemory ∧
      m.execute.2 = some (.accessOutside .spriteRead 4097 0 0x206) := by
  intro m
  have run : m.halted = false ∧ m.awaiting = none ∧ (∀ a ∈ m.touched, ¬4096 ≤ a) ∧
      m.execute.2 = some (.accessOutside .spriteRead 4097 0 0x206) := by
    decide +kernel
  obtain ⟨on, runs, inside, fault⟩ := run
  exact ⟨on, runs, fun ⟨a, touches, far⟩ => inside a touches far, fault⟩

end Machine

end Chip8
