import Chip8.Proofs.Bare.Histories

/-!
# Safety

Whatever a host does to a new machine, the lists of its bare form keep their lengths, its numbers stay in bounds and
the wait for a key agrees with the keypad (`BareMachine.Sound`).  No access to a list leaves it and nothing that is
no byte is stored as one: a command that ends early does so with a fault or by refusing an image (`Command.MayStop`).

All of this is `Machine.Sound`, read off the bare form of the machine.
-/

namespace Chip8

/-- The ways in which a command may end early. -/
inductive Command.MayStop {τ : Type} : Command τ → Stop → Prop where
  | load {image : List UInt8} (large : maxProgramSize < image.length) :
      MayStop (.load image) (.trouble (.image (.noRoom image.length)))
  | execute (f : Fault) : MayStop .execute (.trouble (.fault f))
  | tick (now : τ) (f : Fault) : MayStop (.tick now) (.trouble (.fault f))

namespace BareMachine

variable {τ : Type}

/-- What holds of every bare machine that a host can bring about. -/
structure Sound (s : BareMachine τ) : Prop where
  memory : s.memory.length = 4096
  registers : s.registers.length = 16
  stack : s.stack.length = 16
  pixels : s.pixels.length = 2048
  pressed : s.pressed.length = 16
  lamps : ∀ p ∈ s.pixels, p = 0 ∨ p = 1
  stackPointer : 0 ≤ s.stackPointer ∧ s.stackPointer ≤ 16
  /-- Return addresses lie behind an instruction. -/
  live : ∀ a ∈ s.stack.take s.stackPointer.toNat, 2 ≤ a ∧ a ≤ 4096
  pc : s.pc ≤ 4350
  index : s.index ≤ 65535
  delay : 0 ≤ s.delay ∧ s.delay ≤ 255
  sound : 0 ≤ s.sound ∧ s.sound ≤ 255
  /-- A machine waits just while there is a register for the key. -/
  waiting : s.runState = .awaitingKey ↔ s.keyTarget ≠ none
  /-- The keypad watches for a released key just while the machine waits for one. -/
  watching : s.keyTarget ≠ none ↔ s.tracking = true
  released : s.lastReleased ≠ none → s.tracking = true
  halted : s.halted = true → s.runState = .running

section Bounds

variable [TimeBase τ]

private theorem byte_bounds (b : UInt8) : (0 : Int) ≤ b.toNat ∧ (b.toNat : Int) ≤ 255 := by
  have small := b.toNat_lt
  omega

/-- The bare form of a sound machine is sound. -/
theorem sound_ofMachine {m : Machine τ} (sound : m.Sound) (p : Nat) : (ofMachine m p).Sound where
  memory := Vector.length_toList
  registers := Vector.length_toList
  stack := Vector.length_toList
  pixels := (List.length_map lamp).trans Vector.length_toList
  pressed := Vector.length_toList
  lamps := by
    intro b member
    obtain ⟨lit, -, rfl⟩ := List.mem_map.1 member
    cases lit with
    | true => exact .inr rfl
    | false => exact .inl rfl
  stackPointer := by
    have depth := sound.depth
    simp only [ofMachine]
    omega
  live := sound.live
  pc := sound.pc
  index := sound.index
  delay := byte_bounds m.delay
  sound := byte_bounds m.sound
  waiting := by
    simp only [ofMachine]
    cases m.awaiting <;> simp
  watching := by
    have tracking := sound.tracking
    simp only [ofMachine, tracking]
    cases m.awaiting <;> simp
  released := by
    intro latched
    apply sound.released
    cases released : m.keypad.released with
    | none => simp [ofMachine, released] at latched
    | some k => rfl
  halted := by
    intro halted
    have runs := sound.halted halted
    simp [ofMachine, runs]

end Bounds

end BareMachine

namespace Machine

variable {τ : Type} [TimeBase τ]

/-- What goes wrong with a command is a way in which it may end early. -/
theorem mayStop_of_apply {m : Machine τ} {c : Command τ} {t : Trouble} (h : (m.apply c).2 = some t) :
    c.MayStop (.trouble t) := by
  cases c with
  | load image =>
    simp only [apply] at h
    split at h
    · contradiction
    · rename_i e refused
      obtain rfl := Option.some.inj h
      rw [m.load_eq] at refused
      split at refused
      · rename_i large
        obtain rfl := Except.error.inj refused
        exact .load large
      · contradiction
  | execute =>
    obtain ⟨f, -, rfl⟩ := Option.map_eq_some_iff.1 h
    exact .execute f
  | tick now =>
    obtain ⟨f, -, rfl⟩ := Option.map_eq_some_iff.1 h
    exact .tick now f
  | reset | setKey | releaseAll | setCatchUp => contradiction

end Machine

namespace BareMachine

variable {τ : Type} [TimeBase τ]

/-- Whatever a host does to a new machine, its bare form is sound, and the next command ends early just if the machine
reports trouble, which is a fault of a slot or a refused image. -/
theorem safe_after_fresh (random : RandomSource) (catchUp : Bool) (h : List (Command τ)) :
    ((blank random catchUp : BareMachine τ).apply .reset).2 = none ∧
      (∃ p, (fresh random catchUp).after h = ofMachine ((Machine.fresh random catchUp).after h) p) ∧
      ((fresh random catchUp).after h).Sound ∧
      ∀ c : Command τ,
        (((fresh random catchUp).after h).apply c).2 =
            (((Machine.fresh random catchUp).after h).apply c).2.map Stop.trouble ∧
          ∀ e, (((fresh random catchUp).after h).apply c).2 = some e → c.MayStop e := by
  have sound := Machine.sound_after_fresh random catchUp h
  obtain ⟨p, same⟩ := after_fresh random catchUp h
  refine ⟨?_, ⟨p, same⟩, ?_, ?_⟩
  · rw [apply_reset_blank]
  · rw [same]
    exact sound_ofMachine sound p
  · intro c
    obtain ⟨q, step⟩ := apply_ofMachine _ p sound.toFit c
    rw [same, step]
    refine ⟨rfl, ?_⟩
    intro e stopped
    obtain ⟨t, trouble, rfl⟩ := Option.map_eq_some_iff.1 stopped
    exact Machine.mayStop_of_apply trouble

end BareMachine

end Chip8
