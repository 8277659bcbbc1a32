import Chip8.Proofs.Timing.Tick

/-!
# Waiting for a key

What becomes of a machine whose next instruction waits for a key, in every order in which slots, steps of the timers
and events on the keypad can follow each other.

A key is tapped when it is let go while it is held (`Machine.taps`); letting go of all keys at once, letting go of a
key that is not held and numbers that name no key are no taps, and what happened before the instruction was performed
has no say.  As long as no key is tapped the machine only changes in its keypad and its timers (`Waits.play_quiet`).
From the first tap on the keypad keeps a tapped key until the next slot (`Waits.play_tapped`), which stores it and
ends the wait (`Waits.execute_of_some`).
-/

namespace Chip8

namespace Memory

private theorem fetch?_eq_get (x : Memory) {a : Nat} (inside : a + 1 < 4096) :
    x.fetch? a = some ((x.get ⟨a, Nat.lt_of_succ_lt inside⟩).toNat * 256 + (x.get ⟨a + 1, inside⟩).toNat) :=
  dif_pos inside

private theorem fetch?_withProgram (x : Memory) (high low : UInt8) :
    (x.withProgram [high, low]).fetch? programStart = some (high.toNat * 256 + low.toNat) := by
  have first : (x.withProgram [high, low]).get ⟨programStart, by decide⟩ = high := by
    rw [withProgram, get_store]
    rfl
  have second : (x.withProgram [high, low]).get ⟨programStart + 1, by decide⟩ = low := by
    rw [withProgram, get_store]
    rfl
  rw [fetch?_eq_get _ (by decide), first, second]

end Memory

namespace Machine

variable {τ : Type}

/-- Is the key let go by one of the moves, at a moment at which it is held? -/
def taps (m : Machine τ) (k : Key) : List Move → Bool
  | [] => false
  | v :: vs => (v == .setKey k.val false && m.keypad.isPressed k.val) || (m.move v).taps k vs

/-- The machine with its keypad and its timers at rest. -/
def core (m : Machine τ) : Machine τ := { m with keypad := Keypad.initial, delay := 0, sound := 0 }

/-- The machine waits for a key that goes to register `x`. -/
structure Waits (m : Machine τ) (x : Nat) : Prop where
  on : m.halted = false
  awaiting : m.awaiting = some x
  tracking : m.keypad.tracking = true

theorem taps_append (m : Machine τ) (k : Key) (vs ws : List Move) :
    m.taps k (vs ++ ws) = (m.taps k vs || (m.play vs).taps k ws) := by
  induction vs generalizing m with
  | nil => rfl
  | cons v vs ih => rw [List.cons_append, taps, taps, ih, Bool.or_assoc, play]

/-- Letting go of a key that is held is a tap. -/
private theorem taps_cons_of_held {m : Machine τ} {k : Key} (held : m.keypad.isPressed k.val = true)
    (vs : List Move) : m.taps k (.setKey k.val false :: vs) = true := by
  rw [taps, held, beq_self_eq_true]
  rfl

/-- Only letting go of a key that is held is a tap. -/
private theorem taps_singleton_of_not_held {m : Machine τ} {key : Int} {pressed : Bool}
    (idle : (m.keypad.isPressed key && !pressed) = false) (k : Key) : m.taps k [.setKey key pressed] = false := by
  rw [taps, taps, Bool.or_false, Bool.and_eq_false_imp, beq_iff_eq]
  intro same
  obtain ⟨rfl, rfl⟩ := Move.setKey.inj same
  simpa using idle

private theorem decode_wait {x : Nat} (register : x < 16) :
    decode (0xF00A + 0x100 * x : Nat) = some (.getKeyPress x) := by
  have all : ∀ y : Fin 16, decode (0xF00A + 0x100 * y.val : Nat) = some (.getKeyPress y.val) := by decide +kernel
  exact all ⟨x, register⟩

/-- The slot with which the wait begins. -/
theorem execute_of_wait {m : Machine τ} {x : Nat} (register : x < 16) (on : m.halted = false)
    (runs : m.awaiting = none) (word : m.memory.fetch? m.pc = some (0xF00A + 0x100 * x)) :
    m.execute = ({ m with count := m.count + 1, awaiting := some x, keypad := m.keypad.arm }, none) :=
  Slot.eq_execute (.done on runs word (decode_wait register) rfl)

namespace Waits

variable {m : Machine τ} {x : Nat}

/-- A slot without a released key changes nothing. -/
theorem execute_of_none (waits : m.Waits x) (unreleased : m.keypad.released = none) : m.execute = (m, none) := by
  have polled : m.poll x = m := by
    unfold poll
    rw [unreleased]
  rw [Slot.eq_execute (.poll waits.on waits.awaiting), polled]

/-- A slot with a released key ends the wait. -/
theorem execute_of_some (waits : m.Waits x) {k : Key} (released : m.keypad.released = some k) :
    m.execute =
      ({ m with
        registers := m.registers.set x (UInt8.ofNat k.val)
        keypad := m.keypad.disarm
        awaiting := none
        pc := m.pc + 2 }, none) := by
  rw [Slot.eq_execute (.poll waits.on waits.awaiting)]
  unfold poll
  rw [released]

/-- A move leaves the wait and the core alone, but for a slot that finds a released key. -/
private theorem move (waits : m.Waits x) {v : Move} (still : v = .slot → m.keypad.released = none) :
    (m.move v).Waits x ∧ (m.move v).core = m.core := by
  cases v with
  | slot =>
    have same : m.move .slot = m := congrArg Prod.fst (waits.execute_of_none (still rfl))
    rw [same]
    exact ⟨waits, rfl⟩
  | timers => exact ⟨⟨waits.on, waits.awaiting, waits.tracking⟩, rfl⟩
  | setKey key pressed =>
    have tracking : (m.keypad.set key pressed).tracking = true := by
      rw [m.keypad.tracking_set]
      exact waits.tracking
    exact ⟨⟨waits.on, waits.awaiting, tracking⟩, rfl⟩
  | releaseAll => exact ⟨⟨waits.on, waits.awaiting, waits.tracking⟩, rfl⟩

/-- The released key after a move that leaves the wait alone is a key that the move taps, or the one from before. -/
private theorem released_move (waits : m.Waits x) {v : Move} (still : v = .slot → m.keypad.released = none) :
    (∃ k : Key, m.taps k [v] = true ∧ (m.move v).keypad.released = some k) ∨
      ((∀ k, m.taps k [v] = false) ∧ (m.move v).keypad.released = m.keypad.released) := by
  cases v with
  | slot =>
    have same : m.move .slot = m := congrArg Prod.fst (waits.execute_of_none (still rfl))
    rw [same]
    exact .inr ⟨fun k => rfl, rfl⟩
  | timers => exact .inr ⟨fun k => rfl, rfl⟩
  | releaseAll => exact .inr ⟨fun k => rfl, rfl⟩
  | setKey key pressed =>
    have after : (m.move (.setKey key pressed)).keypad.released =
        if m.keypad.isPressed key && !pressed then Key.ofInt? key else m.keypad.released := by
      have set := m.keypad.released_set key pressed
      rw [waits.tracking, Bool.true_and] at set
      exact set
    cases tap : m.keypad.isPressed key && !pressed with
    | false =>
      rw [tap] at after
      exact .inr ⟨taps_singleton_of_not_held tap, after⟩
    | true =>
      obtain ⟨held, up⟩ := Bool.and_eq_true_iff.1 tap
      obtain ⟨k, rfl⟩ := Keypad.exists_key_of_isPressed held
      obtain rfl : pressed = false := by simpa using up
      rw [tap, Key.ofInt?_val] at after
      exact .inl ⟨k, taps_cons_of_held held [], after⟩

/-- As long as no key is tapped, moves leave the wait and the core alone, and no key is released. -/
theorem play_quiet (waits : m.Waits x) (unreleased : m.keypad.released = none) {vs : List Move}
    (quiet : ∀ k, m.taps k vs = false) :
    (m.play vs).Waits x ∧ (m.play vs).core = m.core ∧ (m.play vs).keypad.released = none := by
  induction vs generalizing m with
  | nil => exact ⟨waits, rfl, unreleased⟩
  | cons v vs ih =>
    -- a slot among the moves finds no released key: what it would find is a key that was tapped before
    have first : ∀ k, m.taps k [v] = false ∧ (m.move v).taps k vs = false := by
      intro k
      have all := quiet k
      rw [← List.singleton_append, taps_append, Bool.or_eq_false_iff] at all
      exact all
    obtain ⟨waits', core⟩ := waits.move fun _ => unreleased
    have unreleased' : (m.move v).keypad.released = none := by
      rcases waits.released_move fun _ => unreleased with ⟨k, tap, -⟩ | ⟨-, same⟩
      · rw [(first k).1] at tap
        contradiction
      · rw [same]
        exact unreleased
    obtain ⟨later, core', last⟩ := ih waits' unreleased' fun k => (first k).2
    exact ⟨later, core'.trans core, last⟩

/-- Until the next slot, the keypad keeps a key that was tapped or the one that it kept before. -/
theorem play_tapped (waits : m.Waits x) {k : Key} (released : m.keypad.released = some k) {vs : List Move}
    (slotless : Move.slot ∉ vs) :
    (m.play vs).Waits x ∧ (m.play vs).core = m.core ∧
      ∃ k', (m.play vs).keypad.released = some k' ∧ (k' = k ∨ m.taps k' vs = true) := by
  induction vs generalizing m k with
  | nil => exact ⟨waits, rfl, k, released, .inl rfl⟩
  | cons v vs ih =>
    rw [List.mem_cons, not_or] at slotless
    have still : v = .slot → m.keypad.released = none := fun slot => absurd slot.symm slotless.1
    obtain ⟨waits', core⟩ := waits.move still
    -- another tap replaces the key that is kept, and nothing takes it away
    obtain ⟨i, kept, origin⟩ : ∃ i, (m.move v).keypad.released = some i ∧ (i = k ∨ m.taps i [v] = true) := by
      rcases waits.released_move still with ⟨i, tap, kept⟩ | ⟨-, same⟩
      · exact ⟨i, kept, .inr tap⟩
      · exact ⟨k, same.trans released, .inl rfl⟩
    obtain ⟨later, core', k', last, origin'⟩ := ih waits' kept slotless.2
    refine ⟨later, core'.trans core, k', last, ?_⟩
    rw [← List.singleton_append, taps_append, Bool.or_eq_true]
    rcases origin' with rfl | tap
    · exact origin.imp_right .inl
    · exact .inr (.inr tap)

/-- From a tap on until the next slot, the keypad keeps a key that was tapped. -/
theorem play_tap (waits : m.Waits x) {k : Key} (held : m.keypad.isPressed k.val = true) {vs : List Move}
    (slotless : Move.slot ∉ vs) :
    (m.play (.setKey k.val false :: vs)).Waits x ∧ (m.play (.setKey k.val false :: vs)).core = m.core ∧
      ∃ i, (m.play (.setKey k.val false :: vs)).keypad.released = some i ∧
        m.taps i (.setKey k.val false :: vs) = true := by
  have still : Move.setKey k.val false = .slot → m.keypad.released = none := by
    intro slot
    contradiction
  obtain ⟨waits', core⟩ := waits.move still
  obtain ⟨i, tap, kept⟩ : ∃ i, m.taps i [.setKey k.val false] = true ∧
      (m.move (.setKey k.val false)).keypad.released = some i := by
    rcases waits.released_move still with tapped | ⟨quiet, -⟩
    · exact tapped
    · have tap := taps_cons_of_held held []
      rw [quiet k] at tap
      contradiction
  obtain ⟨later, core', j, last, origin⟩ := waits'.play_tapped kept slotless
  refine ⟨later, core'.trans core, j, last, ?_⟩
  rw [← List.singleton_append, taps_append, Bool.or_eq_true]
  rcases origin with rfl | tap'
  · exact .inl tap
  · exact .inr tap'

end Waits

variable [TimeBase τ]

/-- A machine whose next instruction waits for a key only changes in its keypad and its timers from the slot of this
instruction on, until a key is tapped; the next slot then stores a key that was tapped since, goes on behind the
instruction and does nothing else.  Ticks are no more than some slots and some steps of the timers. -/
theorem key_wait {m : Machine τ} {x : Nat} (register : x < 16) (on : m.halted = false) (runs : m.awaiting = none)
    (word : m.memory.fetch? m.pc = some (0xF00A + 0x100 * x)) :
    let w := { m with count := m.count + 1, awaiting := some x, keypad := m.keypad.arm }
    m.execute = (w, none) ∧
      (∀ vs, (∀ k, w.taps k vs = false) →
        (w.play vs).core = w.core ∧ (w.play vs).keypad.tracking = true ∧ (w.play vs).execute = (w.play vs, none)) ∧
      (∀ (vs : List Move) (k : Key) (us : List Move), (∀ i, w.taps i vs = false) →
        (w.play vs).keypad.isPressed k.val = true → Move.slot ∉ us →
        let s := w.play (vs ++ .setKey k.val false :: us)
        s.core = w.core ∧
          ∃ i, w.taps i (vs ++ .setKey k.val false :: us) = true ∧
            s.execute =
              ({ s with
                registers := m.registers.set x (UInt8.ofNat i.val)
                keypad := s.keypad.disarm
                awaiting := none
                pc := m.pc + 2 }, none)) ∧
      ∀ (n : Machine τ) (h : List (Command τ)), (∀ c ∈ h, c.goesOn = true) →
        ∀ s b, (n.after h).retime s b = (n.play (n.historyMoves h)).retime s b := by
  intro w
  have waits : w.Waits x := ⟨on, rfl, rfl⟩
  refine ⟨execute_of_wait register on runs word, ?_, ?_, fun n h goes => n.retime_after goes⟩
  · intro vs quiet
    obtain ⟨waits', core, unreleased⟩ := waits.play_quiet rfl quiet
    exact ⟨core, waits'.tracking, waits'.execute_of_none unreleased⟩
  · intro vs k us quiet held slotless s
    -- quiet moves, the first tap, and more moves until the next slot
    obtain ⟨waits', core, -⟩ := waits.play_quiet rfl quiet
    obtain ⟨waits'', core', i, released, tap⟩ := waits'.play_tap held slotless
    rw [← play_append] at waits'' core' released
    have same : s.core = w.core := core'.trans core
    have registers : s.core.registers = w.core.registers := congrArg Machine.registers same
    have pc : s.core.pc = w.core.pc := congrArg Machine.pc same
    change s.registers = m.registers at registers
    change s.pc = m.pc at pc
    refine ⟨same, i, ?_, ?_⟩
    · rw [taps_append, tap, Bool.or_true]
    · rw [waits''.execute_of_some released, ← registers, ← pc]

example : ∀ k : Key, (fresh (.cycle [] 0) true : Machine Rat).taps k
    [.setKey 3 true, .releaseAll, .setKey 3 false, .setKey 16 true, .setKey 16 false] = false := by decide

/-- A program that begins with a wait for a key in `V3`: key 7 is tapped, key 5 is held before and let go too late. -/
theorem key_wait_tap :
    let m : Machine Rat := (fresh (.cycle [] 0) false).after [.load [0xF3, 0x0A], .setKey 5 true]
    let s := m.execute.1.play
      ([.slot, .setKey 7 true, .timers, .slot] ++ .setKey 7 false :: [.releaseAll, .setKey 5 false])
    m.halted = false ∧ m.awaiting = none ∧ m.memory.fetch? m.pc = some 0xF30A ∧
      s.execute.2 = none ∧ s.execute.1.awaiting = none ∧ s.execute.1.pc = 0x202 ∧ s.execute.1.reg 3 = 7 := by
  intro m s
  have word : m.memory.fetch? m.pc = some 0xF30A := Memory.fetch?_withProgram _ 0xF3 0x0A
  obtain ⟨begin, -, tapped, -⟩ := key_wait (m := m) (x := 3) (by decide) rfl rfl word
  let w : Machine Rat := { m with count := m.count + 1, awaiting := some 3, keypad := m.keypad.arm }
  have quiet : ∀ i : Key, w.taps i [.slot, .setKey 7 true, .timers, .slot] = false := by
    intro i
    simp [taps]
  obtain ⟨-, i, tap, slot⟩ := tapped _ 7 [.releaseAll, .setKey 5 false] quiet rfl (by decide)
  have only : ∀ k : Key, w.taps k ([.slot, .setKey 7 true, .timers, .slot] ++
      .setKey 7 false :: [.releaseAll, .setKey 5 false]) = true → k = 7 := by
    decide +kernel
  obtain rfl := only i tap
  have start : s = Machine.play _ ([.slot, .setKey 7 true, .timers, .slot] ++
      .setKey (7 : Key).val false :: [.releaseAll, .setKey 5 false]) := congrArg (fun r => Machine.play r.1 _) begin
  refine ⟨rfl, rfl, word, ?_⟩
  rw [start, slot]
  exact ⟨rfl, rfl, rfl, rfl⟩

end Machine

end Chip8
