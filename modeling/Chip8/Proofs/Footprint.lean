import Chip8.Machine.Command
import Chip8.Proofs.Slot

/-!
# Footprints

An instruction changes the program counter, counts as fetched, and changes little else.  A `Part` is a part of the state
besides these two, `Instruction.footprint` lists the parts that an instruction may change, and `Machine.Keeps` says of a
part that it is the same in two machines.

* Two machines that agree in every part differ in nothing but the program counter and the count (`eq_of_keeps`), so no
  part of the state is missing;
* an instruction keeps every part outside its footprint (`keeps_of_perform`).  No footprint has one of the parts that
  belong to the host (`Part.hosts`);
* it leaves the program counter behind itself unless it skips or leads elsewhere (`pc_of_perform`), and it draws one
  random byte or none (`random_of_perform`);
* `Machine.frame_of_execute` puts this together for a slot.
-/

namespace Chip8

/-- A part of the state of a machine.  The program counter and the number of fetched instructions are left out. -/
inductive Part where
  | register (x : Fin 16)
  | index
  | byte (address : Nat)
  /-- A slot of the call stack, whether it is in use or not. -/
  | slot (k : Nat)
  /-- How many slots of the call stack are in use. -/
  | depth
  | delay
  | sound
  | display
  /-- The register for the key that is waited for, and the watch of the keypad for a released key. -/
  | wait
  | random
  /-- Which keys are held. -/
  | held
  | deadlines
  | catchUp
  | program
  | halted
deriving DecidableEq

namespace Part

theorem mod_sixteen_lt (x : Nat) : x % 16 < 16 := Nat.mod_lt x (by decide)

/-- A register, with its number counted modulo sixteen. -/
def ofRegister (x : Nat) : Part := .register ⟨x % 16, mod_sixteen_lt x⟩

/-- The register for carry, borrow and collision. -/
def flag : Part := ofRegister flagRegister

def bytes (start length : Nat) : List Part := (List.range length).map fun k => .byte (start + k)

def registers (length : Nat) : List Part := (List.range length).map ofRegister

/-- The parts that only a host changes, or a fault. -/
def hosts : List Part := [.held, .deadlines, .catchUp, .program, .halted]

end Part

namespace Instruction

/-- The parts that an instruction may change, given the index register and the depth of the call stack before it. -/
def footprint (index depth : Nat) : Instruction → List Part
  | .jump _ | .jumpOffset _ | .skipEqVal .. | .skipNotEqVal .. | .skipEq .. | .skipNotEq .. | .skipKeyPressed _
  | .skipKeyNotPressed _ => []
  | .setVal x _ | .addVal x _ | .copy x _ | .or x _ | .and x _ | .xor x _ | .getDelayTimer x => [.ofRegister x]
  | .add x _ | .subtract x _ | .shiftRight x | .difference x _ | .shiftLeft x => [.ofRegister x, .flag]
  | .rand x _ => [.ofRegister x, .random]
  | .regLoad x => Part.registers (x + 1)
  | .setIndex _ | .addIndex _ | .setIndexCharacter _ => [.index]
  | .storeBCD _ => Part.bytes index 3
  | .regDump x => Part.bytes index (x + 1)
  | .call _ => [.slot depth, .depth]
  | .ret => [.depth]
  | .clearDisplay => [.display]
  | .drawSprite .. => [.display, .flag]
  | .setDelayTimer _ => [.delay]
  | .setSoundTimer _ => [.sound]
  | .getKeyPress _ => [.wait]

/-- Does the instruction skip the next one under a condition? -/
def skips : Instruction → Bool
  | .skipEqVal .. | .skipNotEqVal .. | .skipEq .. | .skipNotEq .. | .skipKeyPressed _ | .skipKeyNotPressed _ => true
  | _ => false

/-- Does the instruction say itself where to go on? -/
def steers : Instruction → Bool
  | .ret | .jump _ | .call _ | .jumpOffset _ | .getKeyPress _ => true
  | _ => false

/-- Does the instruction draw a random byte? -/
def draws : Instruction → Bool
  | .rand .. => true
  | _ => false

/-- No instruction touches what belongs to the host. -/
theorem not_mem_footprint_of_hosts (i : Instruction) (index depth : Nat) {p : Part} (host : p ∈ Part.hosts) :
    p ∉ i.footprint index depth := by
  simp only [Part.hosts, List.mem_cons, List.not_mem_nil, or_false] at host
  rcases host with rfl | rfl | rfl | rfl | rfl <;>
    cases i <;> simp [footprint, Part.bytes, Part.registers, Part.ofRegister, Part.flag]

end Instruction

namespace Machine

variable {τ : Type}

/-- Is the part the same in two machines? -/
def Keeps (m n : Machine τ) : Part → Prop
  | .register x => n.reg x = m.reg x
  | .index => n.index = m.index
  | .byte a => n.memory.cells[a]? = m.memory.cells[a]?
  | .slot k => n.stack.slots[k]? = m.stack.slots[k]?
  | .depth => n.stack.depth = m.stack.depth
  | .delay => n.delay = m.delay
  | .sound => n.sound = m.sound
  | .display => n.display = m.display
  | .wait => n.awaiting = m.awaiting ∧ n.keypad.tracking = m.keypad.tracking ∧ n.keypad.released = m.keypad.released
  | .random => n.random = m.random
  | .held => n.keypad.held = m.keypad.held
  | .deadlines => n.schedule = m.schedule
  | .catchUp => n.catchUp = m.catchUp
  | .program => n.program = m.program
  | .halted => n.halted = m.halted

theorem keeps_refl (m : Machine τ) (p : Part) : m.Keeps m p := by
  cases p <;> simp [Keeps]

theorem Keeps.trans {m n o : Machine τ} {p : Part} (first : m.Keeps n p) (second : n.Keeps o p) : m.Keeps o p := by
  cases p with
  | wait =>
    obtain ⟨awaiting, tracking, released⟩ := first
    obtain ⟨awaiting', tracking', released'⟩ := second
    exact ⟨awaiting'.trans awaiting, tracking'.trans tracking, released'.trans released⟩
  | _ => exact Eq.trans second first

private theorem eq_of_getElem? {α : Type} {n : Nat} {xs ys : Vector α n} (same : ∀ i : Nat, ys[i]? = xs[i]?) :
    ys = xs := by
  apply Vector.ext
  intro i bound
  simpa [bound] using same i

theorem stack_eq_of_keeps {m n : Machine τ} (slots : ∀ k, m.Keeps n (.slot k)) (depth : m.Keeps n .depth) :
    n.stack = m.stack := by
  have same : n.stack.slots = m.stack.slots := eq_of_getElem? slots
  exact CallStack.mk.injEq .. ▸ ⟨same, depth⟩

/-- Machines that agree in every part differ only in the program counter and the number of fetched instructions. -/
theorem eq_of_keeps {m n : Machine τ} (same : ∀ p, m.Keeps n p) : n = { m with pc := n.pc, count := n.count } := by
  have registers : n.registers.bytes = m.registers.bytes := by
    apply Vector.ext
    intro x bound
    have at' : n.reg x = m.reg x := same (.register ⟨x, bound⟩)
    simpa [reg, Registers.get, Nat.mod_eq_of_lt bound] using at'
  have cells : n.memory.cells = m.memory.cells := eq_of_getElem? fun a => same (.byte a)
  have stack : n.stack = m.stack := stack_eq_of_keeps (fun k => same (.slot k)) (same .depth)
  obtain ⟨awaiting, tracking, released⟩ := same .wait
  have keypad : n.keypad = m.keypad := Keypad.mk.injEq .. ▸ ⟨same .held, tracking, released⟩
  cases m
  cases n
  simp only [mk.injEq, true_and]
  exact ⟨congrArg Memory.mk cells, congrArg Registers.mk registers, stack, same .index, same .delay, same .sound,
    same .deadlines, awaiting, same .halted, same .display, keypad, same .program, same .random, same .catchUp⟩

/-! ### What the pieces of instructions keep -/

private theorem keeps_setReg (m : Machine τ) (x : Nat) (b : UInt8) {p : Part} (other : p ≠ .ofRegister x) :
    m.Keeps (m.setReg x b) p := by
  cases p with
  | register y =>
    have apart : x % 16 ≠ y.val % 16 := by
      intro same
      apply other
      rw [Nat.mod_eq_of_lt y.isLt] at same
      exact congrArg Part.register (Fin.ext same.symm)
    exact (m.registers.get_set x y b).trans (if_neg apart)
  | wait => exact ⟨rfl, rfl, rfl⟩
  | _ => rfl

private theorem keeps_setFlag (m : Machine τ) (flag : Bool) {p : Part} (other : p ≠ .flag) :
    m.Keeps (m.setFlag flag) p :=
  m.keeps_setReg flagRegister _ other

private theorem keeps_skipIf (m : Machine τ) (condition : Bool) (p : Part) : m.Keeps (m.skipIf condition) p := by
  unfold skipIf
  split
  · cases p <;> simp [Keeps, reg]
  · exact m.keeps_refl p

private theorem keeps_random (m : Machine τ) (random : RandomSource) {p : Part} (other : p ≠ .random) :
    m.Keeps { m with random := random } p := by
  cases p with
  | random => contradiction
  | wait => exact ⟨rfl, rfl, rfl⟩
  | _ => rfl

private theorem keeps_display (m : Machine τ) (display : Display) {p : Part} (other : p ≠ .display) :
    m.Keeps { m with display := display } p := by
  cases p with
  | display => contradiction
  | wait => exact ⟨rfl, rfl, rfl⟩
  | _ => rfl

private theorem keeps_write {m : Machine τ} {start : Nat} {data : List UInt8} {memory : Memory}
    (written : m.memory.write? start data = some memory) {p : Part} (outside : p ∉ Part.bytes start data.length) :
    m.Keeps { m with memory := memory } p := by
  cases p with
  | byte a =>
    apply Memory.getElem?_of_write? written
    rcases Nat.lt_or_ge a start with before | behind
    · exact .inl before
    · refine .inr (Nat.le_of_not_lt ?_)
      intro within
      exact outside (List.mem_map.2 ⟨a - start, List.mem_range.2 (by omega), by rw [Nat.add_sub_cancel' behind]⟩)
  | wait => exact ⟨rfl, rfl, rfl⟩
  | _ => rfl

private theorem keeps_setFrom (m : Machine τ) (start : Nat) (data : List UInt8) {p : Part}
    (outside : ∀ k < data.length, p ≠ .ofRegister (start + k)) :
    m.Keeps { m with registers := m.registers.setFrom start data } p := by
  induction data generalizing m start with
  | nil => exact m.keeps_refl p
  | cons b bs ih =>
    have first : m.Keeps (m.setReg start b) p := m.keeps_setReg start b (outside 0 (Nat.zero_lt_succ _))
    apply first.trans
    apply ih (m.setReg start b)
    intro k bound
    rw [Nat.add_assoc, Nat.add_comm 1]
    exact outside (k + 1) (Nat.succ_lt_succ bound)

/-! ### What instructions keep -/

/-- An instruction keeps every part outside its footprint. -/
theorem keeps_of_perform {m n : Machine τ} {here : Nat} {i : Instruction} (h : m.perform here i = .ok n) {p : Part}
    (outside : p ∉ i.footprint m.index m.stack.depth) : m.Keeps n p := by
  cases i with
  | skipEqVal | skipNotEqVal | skipEq | skipNotEq | skipKeyPressed | skipKeyNotPressed =>
    obtain rfl := Except.ok.inj h
    exact m.keeps_skipIf _ p
  | setVal x | addVal x | copy x | or x | and x | xor x | getDelayTimer x =>
    obtain rfl := Except.ok.inj h
    exact m.keeps_setReg x _ (List.ne_of_not_mem_cons outside)
  | add x | subtract x | shiftRight x | difference x | shiftLeft x =>
    obtain rfl := Except.ok.inj h
    simp only [Instruction.footprint, List.mem_cons, List.not_mem_nil, or_false, not_or] at outside
    exact (m.keeps_setReg x _ outside.1).trans (keeps_setFlag _ _ outside.2)
  | rand x val =>
    obtain rfl := Except.ok.inj h
    simp only [Instruction.footprint, List.mem_cons, List.not_mem_nil, or_false, not_or] at outside
    exact (m.keeps_random _ outside.2).trans (keeps_setReg _ x _ outside.1)
  | regLoad x =>
    simp only [perform] at h
    split at h
    · rename_i bytes loaded
      obtain rfl := Except.ok.inj h
      apply m.keeps_setFrom 0 bytes
      intro k bound same
      rw [Memory.length_of_read? loaded] at bound
      rw [Nat.zero_add] at same
      exact outside (List.mem_map.2 ⟨k, List.mem_range.2 bound, same.symm⟩)
    · contradiction
  | storeBCD x =>
    simp only [perform] at h
    split at h
    · rename_i memory written
      obtain rfl := Except.ok.inj h
      exact keeps_write written outside
    · contradiction
  | regDump x =>
    simp only [perform] at h
    split at h
    · rename_i memory written
      obtain rfl := Except.ok.inj h
      have length : (m.registers.first (x + 1)).length = x + 1 := by simp [Registers.first]
      rw [Instruction.footprint, ← length] at outside
      exact keeps_write written outside
    · contradiction
  | drawSprite x y rows =>
    simp only [perform] at h
    split at h
    · obtain rfl := Except.ok.inj h
      simp only [Instruction.footprint, List.mem_cons, List.not_mem_nil, or_false, not_or] at outside
      exact (m.keeps_display _ outside.1).trans (keeps_setFlag _ _ outside.2)
    · contradiction
  | call addr =>
    simp only [perform] at h
    split at h
    · rename_i stack pushed
      obtain rfl := Except.ok.inj h
      simp only [Instruction.footprint, List.mem_cons, List.not_mem_nil, or_false, not_or] at outside
      cases p with
      | slot k => exact CallStack.getElem?_of_push? pushed fun same => outside.1 (by rw [same])
      | depth => exact absurd rfl outside.2
      | wait => exact ⟨rfl, rfl, rfl⟩
      | _ => rfl
    · contradiction
  | ret =>
    simp only [perform] at h
    split at h
    · rename_i a stack popped
      obtain rfl := Except.ok.inj h
      cases p with
      | slot k => exact congrArg (·[k]?) (CallStack.slots_of_pop? popped)
      | depth => simp [Instruction.footprint] at outside
      | wait => exact ⟨rfl, rfl, rfl⟩
      | _ => rfl
    · contradiction
  | getKeyPress x =>
    obtain rfl := Except.ok.inj h
    cases p with
    | wait => simp [Instruction.footprint] at outside
    | _ => rfl
  | clearDisplay | jump | jumpOffset | setIndex | addIndex | setIndexCharacter | setDelayTimer | setSoundTimer =>
    obtain rfl := Except.ok.inj h
    cases p <;> first | rfl | exact ⟨rfl, rfl, rfl⟩ | simp [Instruction.footprint] at outside

/-- An instruction does not count anything.  It leaves the program counter behind itself, unless it skips the next
instruction or leads elsewhere. -/
theorem pc_of_perform {m n : Machine τ} {here : Nat} {i : Instruction} (h : m.perform here i = .ok n) :
    n.count = m.count ∧ (i.steers = true ∨ n.pc = m.pc ∨ i.skips = true ∧ n.pc = m.pc + 2) := by
  cases i with
  | ret | call | drawSprite | storeBCD | regDump | regLoad =>
    simp only [perform] at h
    split at h
    · obtain rfl := Except.ok.inj h
      simp [Instruction.steers, setFlag, setReg]
    · contradiction
  | skipEqVal | skipNotEqVal | skipEq | skipNotEq | skipKeyPressed | skipKeyNotPressed =>
    obtain rfl := Except.ok.inj h
    unfold skipIf
    split
    · exact ⟨rfl, .inr (.inr ⟨rfl, rfl⟩)⟩
    · exact ⟨rfl, .inr (.inl rfl)⟩
  | jump | jumpOffset | getKeyPress =>
    obtain rfl := Except.ok.inj h
    exact ⟨rfl, .inl rfl⟩
  | _ =>
    obtain rfl := Except.ok.inj h
    exact ⟨rfl, .inr (.inl rfl)⟩

/-- The instruction for random bytes draws one of them, and the others draw none. -/
theorem random_of_perform {m n : Machine τ} {here : Nat} {i : Instruction} (h : m.perform here i = .ok n) :
    n.random = if i.draws then m.random.draw.2 else m.random := by
  cases drawing : i.draws with
  | true =>
    obtain ⟨x, val, rfl⟩ : ∃ x val, i = .rand x val := by
      cases i <;> simp [Instruction.draws] at drawing ⊢
    obtain rfl := Except.ok.inj h
    rfl
  | false =>
    apply keeps_of_perform (p := .random) h
    cases i <;> simp [Instruction.footprint, Part.bytes, Part.registers, Part.ofRegister, Part.flag,
      Instruction.draws] at drawing ⊢

/-- A slot keeps what belongs to the host, even if it faults, but for halting the machine then. -/
theorem keeps_execute_of_hosts (m : Machine τ) {p : Part} (host : p ∈ Part.hosts) (other : p ≠ .halted) :
    m.Keeps m.execute.1 p := by
  have same {n : Machine τ} (held : n.keypad.held = m.keypad.held) (deadlines : n.schedule = m.schedule)
      (catchUp : n.catchUp = m.catchUp) (program : n.program = m.program) : m.Keeps n p := by
    simp only [Part.hosts, List.mem_cons, List.not_mem_nil, or_false] at host
    rcases host with rfl | rfl | rfl | rfl | rfl
    · exact held
    · exact deadlines
    · exact catchUp
    · exact program
    · contradiction
  have slot := m.slot_execute
  generalize m.execute = r at slot ⊢
  cases slot with
  | idle | outside | unknown | faulted => exact same rfl rfl rfl rfl
  | poll =>
    unfold poll
    split <;> exact same rfl rfl rfl rfl
  | @done _ _ _ _ i _ _ done => exact keeps_of_perform done (i.not_mem_footprint_of_hosts _ _ host)

/-- A slot keeps what its instruction may not change, even if it faults.  Registers change while a machine waits as
well, the wait ends then, and a fault halts the machine. -/
theorem keeps_execute {m : Machine τ} {p : Part} (register : ∀ x, p ≠ .register x) (wait : p ≠ .wait)
    (halted : p ≠ .halted) (outside : ∀ i, m.upcoming = some i → p ∉ i.footprint m.index m.stack.depth) :
    m.Keeps m.execute.1 p := by
  have slot := m.slot_execute
  generalize m.execute = r at slot ⊢
  cases slot with
  | done on runs fetched decoded done =>
    have next := (upcoming_of_fetch on runs fetched).trans decoded
    have kept := keeps_of_perform done (outside _ next)
    cases p <;> exact kept
  | poll =>
    unfold poll
    split
    · exact m.keeps_refl p
    · cases p with
      | register x => exact absurd rfl (register x)
      | wait => contradiction
      | _ => rfl
  | idle | outside | unknown | faulted =>
    cases p with
    | wait | halted => contradiction
    | _ => rfl

/-- What a slot without a fault does to a machine that runs: it counts one instruction, and keeps what belongs to the
host.  A word that is no instruction is passed over.  An instruction keeps all parts outside its footprint, draws a
random byte just if it is the instruction for this, and goes on right behind itself or, if it skips, one instruction
farther, unless it leads elsewhere.  The parts are all that there is besides the program counter and the count. -/
theorem frame_of_execute {m : Machine τ} (on : m.halted = false) (runs : m.awaiting = none)
    (clean : m.execute.2 = none) :
    ∃ word, m.memory.fetch? m.pc = some word ∧
      m.execute.1.count = m.count + 1 ∧
      (∀ p ∈ Part.hosts, m.Keeps m.execute.1 p) ∧
      (decode word = none → m.execute.1 = { m with pc := m.pc + 2, count := m.count + 1 }) ∧
      (∀ i, decode word = some i →
        (∀ p, p ∉ i.footprint m.index m.stack.depth → m.Keeps m.execute.1 p) ∧
          m.execute.1.random = (if i.draws then m.random.draw.2 else m.random) ∧
          (i.steers = true ∨ m.execute.1.pc = m.pc + 2 ∨ i.skips = true ∧ m.execute.1.pc = m.pc + 4)) ∧
      ∀ n : Machine τ, (∀ p, m.Keeps n p) → n = { m with pc := n.pc, count := n.count } := by
  have slot := m.slot_execute
  generalize m.execute = r at slot clean ⊢
  cases slot with
  | idle halted => rw [on] at halted; contradiction
  | poll _ waits => rw [runs] at waits; contradiction
  | outside | faulted => contradiction
  | unknown _ _ fetched unknown =>
    refine ⟨_, fetched, rfl, ?_, fun _ => rfl, ?_, fun n => eq_of_keeps⟩
    · intro p _
      cases p <;> first | rfl | exact ⟨rfl, rfl, rfl⟩
    · intro i decoded
      rw [unknown] at decoded
      contradiction
  | @done _ _ word fetched i decoded n done =>
    have advanced : ∀ p, m.Keeps m.advance p := by
      intro p
      cases p <;> first | rfl | exact ⟨rfl, rfl, rfl⟩
    have kept : ∀ p, p ∉ i.footprint m.index m.stack.depth → m.Keeps n p := fun p outside =>
      (advanced p).trans (keeps_of_perform done outside)
    obtain ⟨count, pc⟩ := pc_of_perform done
    refine ⟨word, fetched, count, ?_, ?_, ?_, fun n => eq_of_keeps⟩
    · intro p host
      exact kept p (i.not_mem_footprint_of_hosts _ _ host)
    · intro unknown
      rw [decoded] at unknown
      contradiction
    · intro j decoded'
      obtain rfl := Option.some.inj (decoded.symm.trans decoded')
      exact ⟨kept, random_of_perform (m := m.advance) done, pc⟩

/-- An instruction that stores three digits over its own word: the byte behind them stays. -/
theorem frame_of_execute_own_word :
    let m : Machine Rat :=
      (fresh (.cycle [7] 0) false).after [.load [0xA2, 0x02, 0xF0, 0x33, 0xC1, 0xFF], .reset, .execute]
    m.halted = false ∧ m.awaiting = none ∧ m.execute.2 = none ∧ m.memory.fetch? m.pc = some 0xF033 ∧
      m.execute.1.memory.fetch? m.pc = some 0 ∧ m.execute.1.memory.cells[0x205]? = some 0xFF ∧
      m.execute.1.random = .cycle [7] 0 ∧ m.execute.1.count = 2 ∧ m.execute.1.pc = 0x204 := by
  intro m
  obtain ⟨on, runs, clean, own, gone, behind⟩ : m.halted = false ∧ m.awaiting = none ∧ m.execute.2 = none ∧
      m.memory.fetch? m.pc = some 0xF033 ∧ m.execute.1.memory.fetch? m.pc = some 0 ∧
      m.memory.cells[0x205]? = some 0xFF := by decide +kernel
  obtain ⟨index, source, counted, here⟩ :
      m.index = 0x202 ∧ m.random = .cycle [7] 0 ∧ m.count = 1 ∧ m.pc = 0x202 := by decide +kernel
  clear_value m
  obtain ⟨word, fetched, count, -, -, frame, -⟩ := frame_of_execute on runs clean
  obtain rfl : 0xF033 = word := Option.some.inj (own.symm.trans fetched)
  obtain ⟨kept, random, pc⟩ := frame (.storeBCD 0) (by decide)
  have outside : Part.byte 0x205 ∉ (Instruction.storeBCD 0).footprint m.index m.stack.depth := by
    rw [index]
    simp only [Instruction.footprint, Part.bytes, List.mem_map, List.mem_range, Part.byte.injEq]
    omega
  have byte : m.execute.1.memory.cells[0x205]? = m.memory.cells[0x205]? := kept (.byte 0x205) outside
  have next : m.execute.1.pc = m.pc + 2 := by
    rcases pc with steers | next | ⟨skips, -⟩
    · contradiction
    · exact next
    · contradiction
  rw [counted] at count
  rw [here] at next
  exact ⟨on, runs, clean, own, gone, byte.trans behind, random.trans source, count, next⟩

end Machine

end Chip8
