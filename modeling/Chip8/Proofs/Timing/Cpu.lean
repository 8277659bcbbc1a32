import Chip8.Proofs.Timing.Tick

/-!
# What the timers have a say in

The timers count down on their own, and a program can read only the delay timer, by one instruction.  So as long as no
slot performs it (`Machine.readsDelayIn`), two machines that differ at most in their timers and in what concerns the
time of the host (`Machine.cpu`) go on to differ in nothing else: see `execute_of_cpu_eq` for one slot, `play_of_cpu_eq`
for any moves and `executeUpTo_of_cpu_eq` for slots up to a fault.
-/

namespace Chip8

def Instruction.readsDelay : Instruction → Bool
  | .getDelayTimer _ => true
  | _ => false

namespace Machine

variable {τ : Type}

/-- The machine with its timers at zero, without deadlines and without a way to deal with late ticks. -/
def cpu (m : Machine τ) : Machine τ := { m.retime none false with delay := 0, sound := 0 }

/-- Does the next slot perform an instruction that reads the delay timer? -/
def readsDelay (m : Machine τ) : Bool :=
  !m.halted && m.awaiting.isNone &&
    (m.memory.fetch? m.pc).any fun word : Nat => (decode word).any Instruction.readsDelay

/-- Does a slot among some moves perform an instruction that reads the delay timer? -/
def readsDelayIn (m : Machine τ) : List Move → Bool
  | [] => false
  | v :: vs => (v == .slot && m.readsDelay) || (m.move v).readsDelayIn vs

theorem readsDelayIn_append (m : Machine τ) (vs ws : List Move) :
    m.readsDelayIn (vs ++ ws) = (m.readsDelayIn vs || (m.play vs).readsDelayIn ws) := by
  induction vs generalizing m with
  | nil => rfl
  | cons v vs ih => rw [List.cons_append, readsDelayIn, readsDelayIn, ih, Bool.or_assoc, play]

theorem readsDelayIn_retime (m : Machine τ) (s : Option (Schedule τ)) (b : Bool) (vs : List Move) :
    (m.retime s b).readsDelayIn vs = m.readsDelayIn vs := by
  induction vs generalizing m with
  | nil => rfl
  | cons v vs ih =>
    rw [readsDelayIn, move_retime, ih]
    rfl

private theorem unread_slot {m : Machine τ} {vs : List Move} (unread : m.readsDelayIn (.slot :: vs) = false) :
    m.readsDelay = false ∧ m.execute.1.readsDelayIn vs = false := by
  rw [readsDelayIn, Bool.or_eq_false_iff] at unread
  exact ⟨unread.1, unread.2⟩

private theorem readsDelay_of_fetch {m : Machine τ} (on : m.halted = false) (runs : m.awaiting = none) {word : Nat}
    (fetched : m.memory.fetch? m.pc = some word) {i : Instruction} (decoded : decode word = some i) :
    m.readsDelay = i.readsDelay := by
  rw [readsDelay, on, runs, fetched, Option.any_some, decoded, Option.any_some]
  rfl

private theorem cpu_skipIf (m : Machine τ) (c : Bool) : (m.cpu.skipIf c).cpu = (m.skipIf c).cpu := by
  unfold skipIf
  split <;> rfl

/-- All instructions but one do the same whatever the timers are. -/
private theorem perform_cpu (m : Machine τ) (here : Nat) {i : Instruction} (unread : i.readsDelay = false) :
    (m.cpu.perform here i).map cpu = (m.perform here i).map cpu := by
  cases i with
  | getDelayTimer x => contradiction
  | ret =>
    simp only [perform, cpu, retime]
    cases m.stack.pop? <;> rfl
  | call addr =>
    simp only [perform, cpu, retime]
    cases m.stack.push? m.pc <;> rfl
  | drawSprite x y n =>
    simp only [perform, cpu, retime]
    cases m.memory.read? m.index n <;> rfl
  | storeBCD x =>
    simp only [perform, cpu, retime, reg]
    cases m.memory.write? m.index (decimalDigits (m.registers.get x)) <;> rfl
  | regDump x =>
    simp only [perform, cpu, retime]
    cases m.memory.write? m.index (m.registers.first (x + 1)) <;> rfl
  | regLoad x =>
    simp only [perform, cpu, retime]
    cases m.memory.read? m.index (x + 1) <;> rfl
  | skipEqVal x val => exact congrArg Except.ok (cpu_skipIf m _)
  | skipNotEqVal x val => exact congrArg Except.ok (cpu_skipIf m _)
  | skipEq x y => exact congrArg Except.ok (cpu_skipIf m _)
  | skipNotEq x y => exact congrArg Except.ok (cpu_skipIf m _)
  | skipKeyPressed x => exact congrArg Except.ok (cpu_skipIf m _)
  | skipKeyNotPressed x => exact congrArg Except.ok (cpu_skipIf m _)
  | _ => rfl

private theorem cpu_poll (m : Machine τ) (x : Nat) : (m.cpu.poll x).cpu = (m.poll x).cpu := by
  simp only [poll, cpu, retime]
  cases m.keypad.released <;> rfl

private theorem execute_cpu {m : Machine τ} (unread : m.readsDelay = false) :
    m.cpu.execute.1.cpu = m.execute.1.cpu ∧ m.cpu.execute.2 = m.execute.2 := by
  have slot := m.slot_execute
  generalize m.execute = r at slot ⊢
  cases slot with
  | idle halted =>
    have result : m.cpu.execute = (m.cpu, none) := Slot.eq_execute (.idle halted)
    rw [result]
    exact ⟨rfl, rfl⟩
  | @poll on x waits =>
    have result : m.cpu.execute = (m.cpu.poll x, none) := Slot.eq_execute (Slot.poll (m := m.cpu) on waits)
    rw [result]
    exact ⟨cpu_poll m x, rfl⟩
  | outside on runs far =>
    have result : m.cpu.execute = ({ m.cpu with halted := true }, some (.fetchOutside m.pc)) :=
      Slot.eq_execute (.outside on runs far)
    rw [result]
    exact ⟨rfl, rfl⟩
  | unknown on runs fetched unknown =>
    have result : m.cpu.execute = (m.cpu.advance, none) := Slot.eq_execute (.unknown on runs fetched unknown)
    rw [result]
    exact ⟨rfl, rfl⟩
  | @done on runs word fetched i decoded n done =>
    rw [readsDelay_of_fetch on runs fetched decoded] at unread
    -- without the timers the instruction ends as well, and in the same state
    have same : (m.cpu.advance.perform m.pc i).map cpu = _ := perform_cpu m.advance m.pc unread
    rw [done] at same
    cases performed : m.cpu.advance.perform m.pc i with
    | error f =>
      rw [performed] at same
      contradiction
    | ok n' =>
      rw [performed] at same
      have result : m.cpu.execute = (n', none) :=
        Slot.eq_execute (Slot.done (m := m.cpu) on runs fetched decoded performed)
      rw [result]
      exact ⟨Except.ok.inj same, rfl⟩
  | @faulted on runs word fetched i decoded f fault =>
    rw [readsDelay_of_fetch on runs fetched decoded] at unread
    have same : (m.cpu.advance.perform m.pc i).map cpu = _ := perform_cpu m.advance m.pc unread
    rw [fault] at same
    cases performed : m.cpu.advance.perform m.pc i with
    | ok n =>
      rw [performed] at same
      contradiction
    | error f' =>
      rw [performed] at same
      obtain rfl := Except.error.inj same
      have result : m.cpu.execute = ({ m.cpu.advance with halted := true }, some f') :=
        Slot.eq_execute (Slot.faulted (m := m.cpu) on runs fetched decoded performed)
      rw [result]
      exact ⟨rfl, rfl⟩

/-- A slot that does not read the delay timer does the same whatever the timers are. -/
theorem execute_of_cpu_eq {a b : Machine τ} (same : a.cpu = b.cpu) (unread : a.readsDelay = false) :
    a.execute.1.cpu = b.execute.1.cpu ∧ a.execute.2 = b.execute.2 := by
  have unread' : b.readsDelay = false := by
    change b.cpu.readsDelay = false
    rw [← same]
    exact unread
  obtain ⟨state, fault⟩ := execute_cpu unread
  obtain ⟨state', fault'⟩ := execute_cpu unread'
  rw [same] at state fault
  exact ⟨state.symm.trans state', fault.symm.trans fault'⟩

/-- Moves do the same whatever the timers are, as long as no slot reads the delay timer. -/
theorem play_of_cpu_eq {a b : Machine τ} (same : a.cpu = b.cpu) {vs : List Move} (unread : a.readsDelayIn vs = false) :
    (a.play vs).cpu = (b.play vs).cpu := by
  induction vs generalizing a b with
  | nil => exact same
  | cons v vs ih =>
    cases v with
    | slot =>
      obtain ⟨now, later⟩ := unread_slot unread
      exact ih (execute_of_cpu_eq same now).1 later
    | timers => exact ih same unread
    | setKey key pressed =>
      have moved : (a.move (.setKey key pressed)).cpu = (b.move (.setKey key pressed)).cpu :=
        congrArg (move · (.setKey key pressed)) same
      exact ih moved unread
    | releaseAll =>
      have moved : (a.move .releaseAll).cpu = (b.move .releaseAll).cpu := congrArg (move · .releaseAll) same
      exact ih moved unread

theorem cpu_play_timers (m : Machine τ) (k : Nat) : (m.play (List.replicate k .timers)).cpu = m.cpu := by
  induction k generalizing m with
  | zero => rfl
  | succ k ih => exact ih m.stepTimers

/-- Slots do the same whatever the timers are, and meet the same fault, as long as none reads the delay timer. -/
theorem executeUpTo_of_cpu_eq {a b : Machine τ} (same : a.cpu = b.cpu) (ran : Nat) {k : Nat}
    (unread : a.readsDelayIn (List.replicate (a.slotsUpTo k) .slot) = false) :
    (a.executeUpTo ran k).1.cpu = (b.executeUpTo ran k).1.cpu ∧
      (a.executeUpTo ran k).2 = (b.executeUpTo ran k).2 := by
  induction k generalizing a b ran with
  | zero => exact ⟨same, rfl⟩
  | succ k ih =>
    unfold executeUpTo
    cases slot : a.execute with
    | mk next f =>
      cases slot' : b.execute with
      | mk next' f' =>
        cases f with
        | some f =>
          rw [slotsUpTo_of_fault slot] at unread
          obtain ⟨state, fault⟩ := execute_of_cpu_eq same (unread_slot unread).1
          rw [slot, slot'] at state fault
          obtain rfl : some f = f' := fault
          exact ⟨state, rfl⟩
        | none =>
          rw [slotsUpTo_of_none slot] at unread
          obtain ⟨first, rest⟩ := unread_slot unread
          obtain ⟨state, fault⟩ := execute_of_cpu_eq same first
          rw [slot] at rest
          rw [slot, slot'] at state fault
          obtain rfl : none = f' := fault
          exact ih state (ran + 1) rest

end Machine

end Chip8
