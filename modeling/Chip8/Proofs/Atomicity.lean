import Chip8.Proofs.Bare.Histories

/-!
# Faults are atomic

A slot that faults halts the machine and leaves everything else as it was, but for the program counter and the number
of fetched instructions, which have passed the instruction by then unless it could not be fetched.  For the machine,
where an instruction that faults has no effect by construction, this is `Machine.execute_of_fault`.  It says more of
the bare form, where an action keeps what it changed before it ended early: no instruction has changed anything when it
faults.
-/

namespace Chip8

namespace Machine

variable {τ : Type}

/-- The machine that is left by a slot that faults. -/
def aborted (m : Machine τ) : Machine τ :=
  { m with
    halted := true
    pc := if m.pc ≤ 4094 then m.pc + 2 else m.pc
    count := if m.pc ≤ 4094 then m.count + 1 else m.count }

/-- The fault of an instruction carries its address, and is none of fetching. -/
theorem fault_of_perform {m : Machine τ} {here : Nat} {i : Instruction} {f : Fault}
    (h : m.perform here i = .error f) : f.pc = here ∧ ∀ a, f ≠ .fetchOutside a := by
  cases i with
  | ret | call | drawSprite | storeBCD | regDump | regLoad =>
    simp only [perform] at h
    split at h
    · contradiction
    · obtain rfl := Except.error.inj h
      constructor
      · rfl
      · intro a same
        contradiction
  | _ => contradiction

/-- A slot that faults halts a machine that runs, and leaves the rest to `aborted`. -/
theorem execute_of_fault {m : Machine τ} {f : Fault} (h : m.execute.2 = some f) :
    m.halted = false ∧ m.awaiting = none ∧ m.execute.1 = m.aborted ∧ f.pc = m.pc ∧
      (f = .fetchOutside m.pc ↔ 4094 < m.pc) := by
  have slot := m.slot_execute
  generalize m.execute = r at slot h ⊢
  unfold aborted
  cases slot with
  | idle | poll | unknown | done => contradiction
  | outside on runs far =>
    obtain rfl := Option.some.inj h
    have outside : ¬m.pc ≤ 4094 := Nat.not_le_of_lt far
    rw [if_neg outside, if_neg outside]
    exact ⟨on, runs, rfl, rfl, iff_of_true rfl far⟩
  | faulted on runs fetched decoded fault =>
    obtain rfl := Option.some.inj h
    have inside : m.pc ≤ 4094 := Memory.le_of_fetch? fetched
    obtain ⟨here, fetches⟩ := fault_of_perform fault
    rw [if_pos inside, if_pos inside]
    exact ⟨on, runs, rfl, here, iff_of_false (fetches _) (Nat.not_lt_of_le inside)⟩

end Machine

namespace BareMachine

variable {τ : Type}

/-- The machine that is left by a slot that faults. -/
def aborted (s : BareMachine τ) : BareMachine τ :=
  { s with
    halted := true
    opPc := s.pc
    pc := if s.pc ≤ 4094 then s.pc + 2 else s.pc
    count := if s.pc ≤ 4094 then s.count + 1 else s.count }

variable [TimeBase τ]

/-- On every machine that a host can bring about, a slot that faults leaves everything but what `aborted` says as it
was, and the fault carries the address from which the slot started. -/
theorem faults_atomically (random : RandomSource) (catchUp : Bool) (h : List (Command τ)) {f : Fault}
    (faults : (((fresh random catchUp).after h).apply .execute).2 = some (.trouble (.fault f))) :
    let m := (Machine.fresh random catchUp).after h
    let s := (fresh random catchUp).after h
    (∃ p, s = ofMachine m p) ∧ m.execute = (m.aborted, some f) ∧ (s.apply .execute).1 = s.aborted ∧
      s.halted = false ∧ f.pc = s.pc ∧ (f = .fetchOutside s.pc ↔ 4094 < s.pc) := by
  intro m s
  have fit : m.Fit := (Machine.sound_after_fresh random catchUp h).toFit
  obtain ⟨p, same⟩ := after_fresh random catchUp h
  change s = ofMachine m p at same
  change (s.apply .execute).2 = _ at faults
  -- the bare machine faults only because the machine does
  rw [same, apply_execute_ofMachine m p fit] at faults ⊢
  have fault : m.execute.2 = some f := by
    cases slot : m.execute.2 with
    | none => simp [slot] at faults
    | some g => simpa [slot] using faults
  obtain ⟨on, runs, left, here, fetch⟩ := Machine.execute_of_fault fault
  have at' : fetchedAt m p = m.pc := if_pos ⟨on, runs⟩
  refine ⟨⟨p, rfl⟩, Prod.ext left fault, ?_, on, here, fetch⟩
  rw [left, at']
  rfl

/-- A program that is to store three digits from the last address of memory on. -/
theorem faults_atomically_bcd :
    let s := (fresh (.cycle [] 0) false : BareMachine Rat).after [.load [0xAF, 0xFF, 0xF0, 0x33], .execute]
    (s.apply .execute).2 = some (.trouble (.fault (.accessOutside .bcdStore 0xFFF 3 0x202))) ∧
      (s.apply .execute).1 = s.aborted ∧ s.pc = 0x202 := by
  intro s
  have faults : (s.apply .execute).2 = some (.trouble (.fault (.accessOutside .bcdStore 0xFFF 3 0x202))) := by
    decide +kernel
  obtain ⟨-, -, left, -, here, -⟩ := faults_atomically _ _ _ faults
  exact ⟨faults, left, here.symm⟩

end BareMachine

end Chip8
