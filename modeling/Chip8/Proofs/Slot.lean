import Chip8.Machine.Execute

/-!
# What a slot can do

`Machine.Slot m r` says that `r` is a possible result of a slot of the machine `m`: a relation with one constructor for
each way in which a slot can go.  `Machine.slot_execute` says that `Machine.execute` goes one of these ways, so that
what holds of every slot is proved by cases on it; `Slot.eq_execute` says that it goes no other.  `Machine.upcoming` is
the instruction that a slot is going to perform.
-/

namespace Chip8

namespace Memory

/-- A word can be fetched just from the addresses with another one behind them. -/
theorem fetch?_eq_none_iff (m : Memory) (a : Nat) : m.fetch? a = none ↔ 4094 < a := by
  unfold fetch?
  split
  · simp only [reduceCtorEq, false_iff]
    omega
  · simp only [true_iff]
    omega

theorem le_of_fetch? {m : Memory} {a word : Nat} (h : m.fetch? a = some word) : a ≤ 4094 := by
  apply Nat.le_of_not_lt
  intro far
  rw [(m.fetch?_eq_none_iff a).2 far] at h
  contradiction

end Memory

namespace Machine

variable {τ : Type}

/-- The machine after it fetched a word, with the next instruction at the program counter. -/
def advance (m : Machine τ) : Machine τ := { m with pc := m.pc + 2, count := m.count + 1 }

/-- The ways in which a slot can go. -/
inductive Slot (m : Machine τ) : Machine τ × Option Fault → Prop where
  /-- A halted machine does nothing. -/
  | idle (halted : m.halted = true) : Slot m (m, none)
  /-- A machine that waits looks for a released key. -/
  | poll (on : m.halted = false) {x : Nat} (waits : m.awaiting = some x) : Slot m (m.poll x, none)
  /-- There is no word at the program counter. -/
  | outside (on : m.halted = false) (runs : m.awaiting = none) (far : 4094 < m.pc) :
      Slot m ({ m with halted := true }, some (.fetchOutside m.pc))
  /-- A word that is no instruction is passed over. -/
  | unknown (on : m.halted = false) (runs : m.awaiting = none) {word : Nat}
      (fetched : m.memory.fetch? m.pc = some word) (unknown : decode word = none) : Slot m (m.advance, none)
  /-- An instruction is performed. -/
  | done (on : m.halted = false) (runs : m.awaiting = none) {word : Nat}
      (fetched : m.memory.fetch? m.pc = some word) {i : Instruction} (decoded : decode word = some i)
      {n : Machine τ} (done : m.advance.perform m.pc i = .ok n) : Slot m (n, none)
  /-- An instruction faults, which halts the machine. -/
  | faulted (on : m.halted = false) (runs : m.awaiting = none) {word : Nat}
      (fetched : m.memory.fetch? m.pc = some word) {i : Instruction} (decoded : decode word = some i)
      {f : Fault} (fault : m.advance.perform m.pc i = .error f) : Slot m ({ m.advance with halted := true }, some f)

/-- A slot goes one of the ways. -/
theorem slot_execute (m : Machine τ) : m.Slot m.execute := by
  unfold execute
  split
  · rename_i halted
    exact .idle halted
  · rename_i on
    have on : m.halted = false := by simpa using on
    split
    · rename_i waits
      exact .poll on waits
    · rename_i runs
      split
      · rename_i fetched
        exact .outside on runs ((m.memory.fetch?_eq_none_iff m.pc).1 fetched)
      · rename_i fetched
        simp only []
        split
        · rename_i unknown
          exact .unknown on runs fetched unknown
        · rename_i decoded
          split
          · rename_i done
            exact .done on runs fetched decoded done
          · rename_i fault
            exact .faulted on runs fetched decoded fault

private theorem execute_eq (m : Machine τ) :
    m.execute =
      if m.halted then (m, none)
      else match m.awaiting with
        | some x => (m.poll x, none)
        | none =>
          match m.memory.fetch? m.pc with
          | none => ({ m with halted := true }, some (.fetchOutside m.pc))
          | some word =>
            match decode word with
            | none => (m.advance, none)
            | some i =>
              match m.advance.perform m.pc i with
              | .ok done => (done, none)
              | .error fault => ({ m.advance with halted := true }, some fault) := rfl

/-- A slot goes no other way. -/
theorem Slot.eq_execute {m : Machine τ} {r : Machine τ × Option Fault} (h : m.Slot r) : m.execute = r := by
  rw [execute_eq]
  cases h with
  | idle halted => rw [if_pos halted]
  | poll on waits => simp only [on, Bool.false_eq_true, if_false, waits]
  | outside on runs far =>
    have fetched := (m.memory.fetch?_eq_none_iff m.pc).2 far
    simp only [on, Bool.false_eq_true, if_false, runs, fetched]
  | unknown on runs fetched unknown => simp only [on, Bool.false_eq_true, if_false, runs, fetched, unknown]
  | done on runs fetched decoded done => simp only [on, Bool.false_eq_true, if_false, runs, fetched, decoded, done]
  | faulted on runs fetched decoded fault =>
    simp only [on, Bool.false_eq_true, if_false, runs, fetched, decoded, fault]

/-- The instruction that the next slot comes to, if it comes to one. -/
def upcoming (m : Machine τ) : Option Instruction :=
  if m.halted || m.awaiting.isSome then none else (m.memory.fetch? m.pc).bind fun word : Nat => decode word

theorem upcoming_of_fetch {m : Machine τ} (on : m.halted = false) (runs : m.awaiting = none) {word : Nat}
    (fetched : m.memory.fetch? m.pc = some word) : m.upcoming = decode word := by
  rw [upcoming, on, runs, fetched]
  rfl

/-- A slot that comes to an instruction finds the machine running and fetches its word. -/
theorem word_of_upcoming {m : Machine τ} {i : Instruction} (next : m.upcoming = some i) :
    m.halted = false ∧ m.awaiting = none ∧
      ∃ word : Nat, m.memory.fetch? m.pc = some word ∧ decode word = some i := by
  unfold upcoming at next
  split at next
  · contradiction
  · rename_i free
    rw [Bool.or_eq_true, not_or, Bool.not_eq_true, Option.not_isSome_iff_eq_none] at free
    obtain ⟨on, runs⟩ := free
    exact ⟨on, runs, Option.bind_eq_some_iff.1 next⟩

theorem fits_of_upcoming {m : Machine τ} {i : Instruction} (next : m.upcoming = some i) : i.Fits := by
  obtain ⟨-, -, word, -, decoded⟩ := word_of_upcoming next
  exact fits_of_decode decoded

/-- The slot that comes to an instruction performs it, or halts the machine with its fault. -/
theorem execute_of_upcoming {m : Machine τ} {i : Instruction} (next : m.upcoming = some i) :
    m.execute =
      match m.advance.perform m.pc i with
      | .ok n => (n, none)
      | .error f => ({ m.advance with halted := true }, some f) := by
  obtain ⟨on, runs, word, fetched, decoded⟩ := word_of_upcoming next
  cases performed : m.advance.perform m.pc i with
  | ok n => exact Slot.eq_execute (.done on runs fetched decoded performed)
  | error f => exact Slot.eq_execute (.faulted on runs fetched decoded performed)

end Machine

end Chip8
