import Chip8.Proofs.Timing.Tick

/-!
# What holds of every reachable machine

`Machine.Sound` lists what holds of every machine that a host can bring about: the bounds of the stack, of the
addresses on it, of the program counter and of the index register, and the agreement of the wait for a key with the
keypad.  `Machine.Fit` is the part of it that keeps the machine inside its stores, whatever is done to the keypad.

Each operation keeps both.  The step lemma is `Sound.perform`, with one case for each kind of instruction; it goes
on to slots (`Sound.execute`), moves (`Sound.play`), commands (`Sound.apply`) and histories (`Sound.after`).
-/

namespace Chip8

namespace Machine

variable {τ : Type}

/-- The machine stays inside its stores. -/
structure Fit (m : Machine τ) : Prop where
  depth : m.stack.depth ≤ 16
  /-- A key that is waited for goes to a register. -/
  target : ∀ x, m.awaiting = some x → x < 16
  program : m.program.length ≤ maxProgramSize

/-- What holds of every machine that a host can bring about. -/
structure Sound (m : Machine τ) : Prop extends Fit m where
  /-- Return addresses lie behind an instruction. -/
  live : ∀ a ∈ m.stack.live, 2 ≤ a ∧ a ≤ 4096
  /-- The farthest jump goes from the last address to `V0` behind it. -/
  pc : m.pc ≤ 4350
  index : m.index ≤ 65535
  /-- A machine that waits is at an instruction. -/
  waitingAt : m.awaiting.isSome = true → m.pc ≤ 4094
  /-- The keypad watches for a released key just while the machine waits for one. -/
  tracking : m.keypad.tracking = m.awaiting.isSome
  /-- A released key is only kept while the keypad watches for one. -/
  released : m.keypad.released.isSome = true → m.keypad.tracking = true
  /-- A machine that faulted did not wait. -/
  halted : m.halted = true → m.awaiting = none

/-- What an instruction that does not fault does to the stack, the program and the wait for a key. -/
theorem control_of_perform {m n : Machine τ} {here : Nat} {i : Instruction} (h : m.perform here i = .ok n) :
    n.program = m.program ∧ n.halted = m.halted ∧
      (n.stack = m.stack ∨ (∃ a, m.stack.pop? = some (a, n.stack)) ∨ ∃ a, m.stack.push? a = some n.stack) ∧
      (n.awaiting = m.awaiting ∨ ∃ x, i = .getKeyPress x ∧ n.awaiting = some x) := by
  cases i with
  | ret =>
    simp only [perform] at h
    split at h
    · rename_i a t popped
      obtain rfl := Except.ok.inj h
      exact ⟨rfl, rfl, .inr (.inl ⟨a, popped⟩), .inl rfl⟩
    · contradiction
  | call addr =>
    simp only [perform] at h
    split at h
    · rename_i pushed
      obtain rfl := Except.ok.inj h
      exact ⟨rfl, rfl, .inr (.inr ⟨m.pc, pushed⟩), .inl rfl⟩
    · contradiction
  | getKeyPress x =>
    obtain rfl := Except.ok.inj h
    exact ⟨rfl, rfl, .inl rfl, .inr ⟨x, rfl, rfl⟩⟩
  | drawSprite | storeBCD | regDump | regLoad =>
    simp only [perform] at h
    split at h
    · obtain rfl := Except.ok.inj h
      exact ⟨rfl, rfl, .inl rfl, .inl rfl⟩
    · contradiction
  | skipEqVal | skipNotEqVal | skipEq | skipNotEq | skipKeyPressed | skipKeyNotPressed =>
    obtain rfl := Except.ok.inj h
    unfold skipIf
    split <;> exact ⟨rfl, rfl, .inl rfl, .inl rfl⟩
  | _ =>
    obtain rfl := Except.ok.inj h
    exact ⟨rfl, rfl, .inl rfl, .inl rfl⟩

/-- An instruction that does not fault keeps the machine inside its stores. -/
theorem Fit.perform {m n : Machine τ} (fit : m.Fit) {here : Nat} {i : Instruction} (fits : i.Fits)
    (h : m.perform here i = .ok n) : n.Fit := by
  obtain ⟨program, -, stack, awaiting⟩ := control_of_perform h
  refine ⟨?_, ?_, by rw [program]; exact fit.program⟩
  · rcases stack with same | ⟨a, popped⟩ | ⟨a, pushed⟩
    · rw [same]; exact fit.depth
    · exact Nat.le_trans (Nat.le_of_lt (CallStack.depth_of_pop? popped)) fit.depth
    · exact CallStack.depth_of_push? pushed
  · intro y waits
    rcases awaiting with same | ⟨x, rfl, wait⟩
    · exact fit.target y (same ▸ waits)
    · obtain rfl := Option.some.inj (wait ▸ waits)
      exact fits _ (List.mem_singleton.2 rfl)

theorem Fit.execute {m : Machine τ} (fit : m.Fit) : m.execute.1.Fit := by
  have slot := m.slot_execute
  generalize m.execute = r at slot ⊢
  cases slot with
  | idle => exact fit
  | poll =>
    unfold poll
    split
    · exact fit
    · exact { fit with target := by simp }
  | outside | unknown | faulted => exact { fit with }
  | done _ _ _ decoded done =>
    have advanced : m.advance.Fit := { fit with }
    exact advanced.perform (fits_of_decode decoded) done

theorem Fit.retime {m : Machine τ} (fit : m.Fit) (s : Option (Schedule τ)) (b : Bool) : (m.retime s b).Fit :=
  { fit with }

theorem Fit.move {m : Machine τ} (fit : m.Fit) (v : Move) : (m.move v).Fit := by
  cases v with
  | slot => exact fit.execute
  | timers | setKey | releaseAll => exact { fit with }

theorem Fit.play {m : Machine τ} (fit : m.Fit) (vs : List Move) : (m.play vs).Fit := by
  induction vs generalizing m with
  | nil => exact fit
  | cons v vs ih => exact ih (fit.move v)

theorem Fit.load {m n : Machine τ} (fit : m.Fit) {image : List UInt8} (h : m.load image = .ok n) : n.Fit := by
  rw [m.load_eq] at h
  split at h
  · contradiction
  · rename_i small
    obtain rfl := Except.ok.inj h
    exact { fit with program := Nat.le_of_not_lt small }

/-- A command keeps a machine inside its stores. -/
theorem Fit.apply [TimeBase τ] {m : Machine τ} (fit : m.Fit) (c : Command τ) : (m.apply c).1.Fit := by
  cases c with
  | load image =>
    simp only [Machine.apply]
    split
    · rename_i loaded
      exact fit.load loaded
    · exact fit
  | reset => exact { depth := Nat.zero_le _, target := by simp [Machine.apply, Machine.reset], program := fit.program }
  | execute => exact fit.execute
  | tick now =>
    obtain ⟨s, eq⟩ := m.tick_eq_play now
    change (m.tick now).1.Fit
    rw [eq]
    exact (fit.play _).retime s _
  | setKey | releaseAll | setCatchUp => exact { fit with }

namespace Sound

variable {m : Machine τ}

/-- A sound machine that does not wait stays sound if only its stores, timers and display change, and its program
counter and index register stay in bounds. -/
private theorem of_running (sound : m.Sound) {n : Machine τ} (pc : n.pc ≤ 4350) (index : n.index ≤ 65535)
    (running : m.awaiting = none) (same : n.awaiting = none) (stack : n.stack = m.stack)
    (keypad : n.keypad = m.keypad) (program : n.program = m.program) : n.Sound where
  depth := by rw [stack]; exact sound.depth
  target := by simp [same]
  program := by rw [program]; exact sound.program
  live := by rw [stack]; exact sound.live
  pc := pc
  index := index
  waitingAt := by simp [same]
  tracking := by rw [keypad, sound.tracking, running, same]
  released := by rw [keypad]; exact sound.released
  halted := fun _ => same

theorem setReg (sound : m.Sound) (x : Nat) (b : UInt8) : (m.setReg x b).Sound := { sound with }

theorem setFlag (sound : m.Sound) (flag : Bool) : (m.setFlag flag).Sound := sound.setReg _ _

theorem retime (sound : m.Sound) (s : Option (Schedule τ)) (b : Bool) : (m.retime s b).Sound := { sound with }

theorem stepTimers (sound : m.Sound) : m.stepTimers.Sound := { sound with }

private theorem jump (sound : m.Sound) (running : m.awaiting = none) {a : Nat} (bound : a ≤ 4350) :
    Sound { m with pc := a } :=
  sound.of_running bound sound.index running running rfl rfl rfl

private theorem skipIf (sound : m.Sound) (running : m.awaiting = none) (bound : m.pc ≤ 4096) (condition : Bool) :
    (m.skipIf condition).Sound := by
  unfold Machine.skipIf
  split
  · exact sound.jump running (by omega)
  · exact sound

private theorem setIndex (sound : m.Sound) {a : Nat} (bound : a ≤ 65535) : Sound { m with index := a } :=
  { sound with index := bound }

private theorem ret (sound : m.Sound) (running : m.awaiting = none) {a : Nat} {t : CallStack}
    (h : m.stack.pop? = some (a, t)) : Sound { m with stack := t, pc := a } := by
  have split := CallStack.live_of_pop? h
  -- the address on top was in use, and so were the ones that stay
  have top : 2 ≤ a ∧ a ≤ 4096 := sound.live a (by rw [split]; simp)
  have rest : ∀ b ∈ t.live, 2 ≤ b ∧ b ≤ 4096 := fun b hb => sound.live b (by rw [split]; simp [hb])
  have shorter := CallStack.depth_of_pop? h
  exact { sound with
    depth := Nat.le_trans (Nat.le_of_lt shorter) sound.depth
    live := rest
    pc := by simp only []; omega
    waitingAt := by simp [running] }

private theorem call (sound : m.Sound) (running : m.awaiting = none) (low : 2 ≤ m.pc) (high : m.pc ≤ 4096)
    {addr : Nat} (bound : addr < 4096) {t : CallStack} (h : m.stack.push? m.pc = some t) :
    Sound { m with stack := t, pc := addr } := by
  have split := CallStack.live_of_push? h
  have entries : ∀ b ∈ t.live, 2 ≤ b ∧ b ≤ 4096 := by
    intro b hb
    rw [split] at hb
    rcases List.mem_append.1 hb with old | new
    · exact sound.live b old
    · rw [List.mem_singleton.1 new]
      exact ⟨low, high⟩
  exact { sound with
    depth := CallStack.depth_of_push? h
    live := entries
    pc := by simp only []; omega
    waitingAt := by simp [running] }

private theorem wait (sound : m.Sound) (unhalted : m.halted = false) {here x : Nat} (inside : here ≤ 4094)
    (register : x < 16) : Sound { m with pc := here, awaiting := some x, keypad := m.keypad.arm } :=
  { sound with
    target := fun y h => by obtain rfl := Option.some.inj h; exact register
    pc := by simp only []; omega
    waitingAt := fun _ => inside
    tracking := rfl
    released := fun h => rfl
    halted := fun h => by simp only [unhalted] at h; contradiction }

/-- An instruction that was fetched and does not fault keeps a machine sound. -/
theorem perform (sound : m.Sound) (running : m.awaiting = none) (unhalted : m.halted = false) {here : Nat}
    (inside : here ≤ 4094) (next : m.pc = here + 2) {i : Instruction} (fits : i.Fits) {n : Machine τ}
    (h : m.perform here i = .ok n) : n.Sound := by
  have bound : m.pc ≤ 4096 := by omega
  have byte : ∀ x, (m.reg x).toNat < 256 := fun x => (m.reg x).toNat_lt
  cases i with
  | clearDisplay =>
    obtain rfl := Except.ok.inj h
    exact { sound with }
  | ret =>
    simp only [Machine.perform] at h
    split at h
    · rename_i popped
      obtain rfl := Except.ok.inj h
      exact sound.ret running popped
    · contradiction
  | jump addr =>
    obtain rfl := Except.ok.inj h
    have small : addr < 4096 := fits _ (List.mem_singleton.2 rfl)
    exact sound.jump running (by omega)
  | call addr =>
    have small : addr < 4096 := fits _ (List.mem_singleton.2 rfl)
    simp only [Machine.perform] at h
    split at h
    · rename_i pushed
      obtain rfl := Except.ok.inj h
      exact sound.call running (by omega) bound small pushed
    · contradiction
  | jumpOffset addr =>
    obtain rfl := Except.ok.inj h
    have small : addr < 4096 := fits _ (List.mem_singleton.2 rfl)
    have := byte 0
    -- 4095 and 255: no other instruction leads farther
    exact sound.jump running (by omega)
  | setIndex addr =>
    obtain rfl := Except.ok.inj h
    have small : addr < 4096 := fits _ (List.mem_singleton.2 rfl)
    exact sound.setIndex (by omega)
  | addIndex x =>
    obtain rfl := Except.ok.inj h
    exact sound.setIndex (by omega)
  | setIndexCharacter x =>
    obtain rfl := Except.ok.inj h
    have := byte x
    -- a byte beyond the digits names a glyph behind the font, which is still in bounds
    exact sound.setIndex (by simp only [glyphAddress, glyphHeight]; omega)
  | getKeyPress x =>
    obtain rfl := Except.ok.inj h
    have register : x < 16 := fits _ (List.mem_singleton.2 rfl)
    exact sound.wait unhalted inside register
  | rand x val =>
    obtain rfl := Except.ok.inj h
    exact { sound with }
  | drawSprite x y n =>
    simp only [Machine.perform] at h
    split at h
    · obtain rfl := Except.ok.inj h
      exact { sound with }
    · contradiction
  | storeBCD x =>
    simp only [Machine.perform] at h
    split at h
    · obtain rfl := Except.ok.inj h
      exact { sound with }
    · contradiction
  | regDump x =>
    simp only [Machine.perform] at h
    split at h
    · obtain rfl := Except.ok.inj h
      exact { sound with }
    · contradiction
  | regLoad x =>
    simp only [Machine.perform] at h
    split at h
    · obtain rfl := Except.ok.inj h
      exact { sound with }
    · contradiction
  | setDelayTimer x | setSoundTimer x =>
    obtain rfl := Except.ok.inj h
    exact { sound with }
  | setVal | addVal | copy | or | and | xor | getDelayTimer =>
    obtain rfl := Except.ok.inj h
    exact sound.setReg _ _
  | add | subtract | shiftRight | difference | shiftLeft =>
    obtain rfl := Except.ok.inj h
    exact (sound.setReg _ _).setFlag _
  | skipEqVal | skipNotEqVal | skipEq | skipNotEq | skipKeyPressed | skipKeyNotPressed =>
    obtain rfl := Except.ok.inj h
    exact sound.skipIf running bound _

private theorem poll (sound : m.Sound) {x : Nat} (waits : m.awaiting = some x) : (m.poll x).Sound := by
  unfold Machine.poll
  split
  · exact sound
  · -- the only slot that goes on from a program counter that was not fetched from just before
    have at' : m.pc ≤ 4094 := sound.waitingAt (by rw [waits]; rfl)
    exact { sound with
      target := by simp
      pc := by simp only []; omega
      waitingAt := by simp
      tracking := rfl
      released := by simp [Keypad.disarm]
      halted := fun _ => rfl }

private theorem advance (sound : m.Sound) (runs : m.awaiting = none) (inside : m.pc ≤ 4094) : m.advance.Sound :=
  sound.of_running (by simp only [Machine.advance]; omega) sound.index runs runs rfl rfl rfl

/-- A slot keeps a machine sound. -/
theorem execute (sound : m.Sound) : m.execute.1.Sound := by
  have slot := m.slot_execute
  generalize m.execute = r at slot ⊢
  cases slot with
  | idle => exact sound
  | poll _ waits => exact sound.poll waits
  | outside _ runs => exact { sound with halted := fun _ => runs }
  | unknown _ runs fetched => exact sound.advance runs (Memory.le_of_fetch? fetched)
  | done on runs fetched decoded done =>
    have inside := Memory.le_of_fetch? fetched
    exact (sound.advance runs inside).perform runs on inside rfl (fits_of_decode decoded) done
  | faulted _ runs fetched =>
    have advanced := sound.advance runs (Memory.le_of_fetch? fetched)
    exact { advanced with halted := fun _ => runs }

private theorem setKey (sound : m.Sound) (key : Int) (pressed : Bool) :
    Sound { m with keypad := m.keypad.set key pressed } :=
  { sound with
    tracking := (m.keypad.tracking_set key pressed).trans sound.tracking
    released := by
      simp only [Keypad.tracking_set]
      intro kept
      cases idle : m.keypad.tracking with
      | true => rfl
      | false =>
        rw [Keypad.released_set, idle] at kept
        rw [← idle]
        exact sound.released kept }

/-- A move keeps a machine sound. -/
theorem move (sound : m.Sound) (v : Move) : (m.move v).Sound := by
  cases v with
  | slot => exact sound.execute
  | timers => exact sound.stepTimers
  | setKey key pressed => exact sound.setKey key pressed
  | releaseAll => exact { sound with }

theorem play (sound : m.Sound) (vs : List Move) : (m.play vs).Sound := by
  induction vs generalizing m with
  | nil => exact sound
  | cons v vs ih => exact ih (sound.move v)

theorem reset (sound : m.Sound) : m.reset.Sound where
  depth := Nat.zero_le _
  target := by simp [Machine.reset]
  program := sound.program
  live := by simp [Machine.reset, CallStack.live, CallStack.empty]
  pc := by simp [Machine.reset, programStart]
  index := Nat.zero_le _
  waitingAt := by simp [Machine.reset]
  tracking := rfl
  released := by simp [Machine.reset, Keypad.disarm]
  halted := by simp [Machine.reset]

theorem load (sound : m.Sound) {image : List UInt8} {n : Machine τ} (h : m.load image = .ok n) : n.Sound := by
  have fit := sound.toFit.load h
  rw [m.load_eq] at h
  split at h
  · contradiction
  · obtain rfl := Except.ok.inj h
    exact { sound with program := fit.program }

theorem fresh (random : RandomSource) (catchUp : Bool) : (Machine.fresh random catchUp : Machine τ).Sound where
  depth := Nat.zero_le _
  target := by simp [Machine.fresh]
  program := Nat.zero_le _
  live := by simp [Machine.fresh, CallStack.live, CallStack.empty]
  pc := by simp [Machine.fresh, programStart]
  index := Nat.zero_le _
  waitingAt := by simp [Machine.fresh]
  tracking := rfl
  released := by simp [Machine.fresh, Keypad.initial]
  halted := by simp [Machine.fresh]

variable [TimeBase τ]

/-- A command keeps a machine sound. -/
theorem apply (sound : m.Sound) (c : Command τ) : (m.apply c).1.Sound := by
  cases c with
  | load image =>
    simp only [Machine.apply]
    split
    · rename_i loaded
      exact sound.load loaded
    · exact sound
  | reset => exact sound.reset
  | execute => exact sound.execute
  | tick now =>
    obtain ⟨s, eq⟩ := m.tick_eq_play now
    change (m.tick now).1.Sound
    rw [eq]
    exact (sound.play _).retime s _
  | setKey key pressed => exact sound.setKey key pressed
  | releaseAll => exact { sound with }
  | setCatchUp catchUp => exact { sound with }

/-- A history keeps a machine sound. -/
theorem after (sound : m.Sound) (h : List (Command τ)) : (m.after h).Sound := by
  induction h generalizing m with
  | nil => exact sound
  | cons c rest ih => exact ih (sound.apply c)

end Sound

/-- Every machine that a host can bring about is sound. -/
theorem sound_after_fresh [TimeBase τ] (random : RandomSource) (catchUp : Bool) (h : List (Command τ)) :
    ((fresh random catchUp).after h).Sound :=
  (Sound.fresh random catchUp).after h

end Machine

end Chip8
