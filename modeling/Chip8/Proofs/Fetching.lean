import Chip8.Proofs.Footprint
import Chip8.Proofs.Invariant
import Mathlib.Data.List.Induction

/-!
# Fetched words

A machine counts the words that it fetches, and a machine that waits for a key is at the word that made it wait.

* `Machine.found` lists the machines that the slots of a run find; those that fetch a word (`Machine.fetches`) make up
  the count (`Machine.count_play`);
* a wait has begun with a slot that performed the instruction for it, and since then the slots have looked for a key and
  done nothing else (`Machine.exists_begin`): a slot that does not end a wait does nothing (`Machine.execute_of_still`).
  So the program counter, the memory and the count stand as this one slot left them (`Machine.WaitsSince`), whatever the
  program wrote into memory before.

`Machine.coherent_after_reset` is about every moment of a run from a reset on.
-/

namespace Chip8

namespace Machine

section Moves

variable {τ : Type} {m : Machine τ}

/-- Does the next slot fetch a word? -/
def fetches (m : Machine τ) : Bool := !m.halted && m.awaiting.isNone && m.pc ≤ 4094

/-- The machines that the slots among some moves find, in order. -/
def found (m : Machine τ) : List Move → List (Machine τ)
  | [] => []
  | v :: vs => if v = .slot then m :: (m.move v).found vs else (m.move v).found vs

/-! ### The count -/

theorem fetches_of_fetch {word : Nat} (on : m.halted = false) (runs : m.awaiting = none)
    (fetched : m.memory.fetch? m.pc = some word) : m.fetches = true := by
  simp [fetches, on, runs, Memory.le_of_fetch? fetched]

theorem count_execute (m : Machine τ) : m.execute.1.count = m.count + if m.fetches then 1 else 0 := by
  have slot := m.slot_execute
  generalize m.execute = r at slot ⊢
  cases slot with
  | idle halted => simp [fetches, halted]
  | poll _ waits =>
    unfold poll
    split <;> simp [fetches, waits]
  | outside _ _ far => simp [fetches, Nat.not_le_of_lt far]
  | unknown on runs fetched | faulted on runs fetched =>
    rw [if_pos (fetches_of_fetch on runs fetched)]
    rfl
  | done on runs fetched _ done =>
    rw [if_pos (fetches_of_fetch on runs fetched), (pc_of_perform done).1]
    rfl

theorem count_play (m : Machine τ) (vs : List Move) :
    (m.play vs).count = m.count + (m.found vs).countP fetches := by
  induction vs generalizing m with
  | nil => rfl
  | cons v vs ih =>
    rw [play, ih]
    cases v with
    | slot =>
      have first : (m.move .slot).count = m.count + if m.fetches then 1 else 0 := m.count_execute
      rw [found, if_pos rfl, List.countP_cons, first]
      omega
    | timers | setKey | releaseAll => rfl

/-! ### The beginning of a wait -/

/-- The machine `n` waits for a key for register `x` where `b` was, with the same memory and one more word counted. -/
structure WaitsSince (b n : Machine τ) (x : Nat) : Prop where
  awaiting : n.awaiting = some x
  pc : n.pc = b.pc
  memory : n.memory = b.memory
  count : n.count = b.count + 1

theorem waitsSince_execute {x : Nat} (next : m.upcoming = some (.getKeyPress x)) : WaitsSince m m.execute.1 x := by
  rw [execute_of_upcoming next]
  exact ⟨rfl, rfl, rfl, rfl⟩

theorem execute_of_still {x : Nat} (waits : m.awaiting = some x) (still : m.execute.1.awaiting = some x) :
    m.execute.1 = m := by
  have slot := m.slot_execute
  generalize m.execute = r at slot still ⊢
  cases slot with
  | idle => rfl
  | poll =>
    simp only [poll] at still ⊢
    split at still
    · rfl
    · contradiction
  | outside _ runs | unknown _ runs | done _ runs | faulted _ runs =>
    rw [runs] at waits
    contradiction

theorem WaitsSince.move {b n : Machine τ} {x : Nat} (since : WaitsSince b n x) {v : Move}
    (still : (n.move v).awaiting = some x) : WaitsSince b (n.move v) x := by
  cases v with
  | slot =>
    have same : n.move .slot = n := execute_of_still since.awaiting still
    rw [same]
    exact since
  | timers | setKey | releaseAll => exact { since with }

/-- Only the instruction for it makes a machine wait. -/
theorem awaiting_of_move {v : Move} {x : Nat} (waits : (m.move v).awaiting = some x) :
    m.awaiting = some x ∨ v = .slot ∧ m.upcoming = some (.getKeyPress x) := by
  cases v with
  | slot =>
    have slot := m.slot_execute
    unfold move at waits
    generalize m.execute = r at slot waits
    cases slot with
    | idle | outside | unknown | faulted => exact .inl waits
    | poll =>
      simp only [poll] at waits
      split at waits
      · exact .inl waits
      · contradiction
    | done on runs fetched decoded done =>
      obtain ⟨-, -, -, kept | ⟨y, rfl, wait⟩⟩ := control_of_perform done
      · exact .inl (kept.symm.trans waits)
      · obtain rfl := Option.some.inj (wait.symm.trans waits)
        exact .inr ⟨rfl, (upcoming_of_fetch on runs fetched).trans decoded⟩
  | timers | setKey | releaseAll => exact .inl waits

/-- A machine that has come to wait began with the instruction for it, and has waited since. -/
theorem exists_begin (runs : m.awaiting = none) {vs : List Move} {x : Nat} (waits : (m.play vs).awaiting = some x) :
    ∃ before polls, vs = before ++ .slot :: polls ∧
      (m.play before).upcoming = some (.getKeyPress x) ∧
      ∀ ws, ws <+: polls → WaitsSince (m.play before) (m.play (before ++ .slot :: ws)) x := by
  -- the last move either begins the wait or leaves it as the moves before have brought it about
  induction vs using List.reverseRecOn with
  | nil =>
    rw [play, runs] at waits
    contradiction
  | append_singleton us v ih =>
    have last : m.play (us ++ [v]) = (m.play us).move v := m.play_append us [v]
    rw [last] at waits
    rcases awaiting_of_move waits with waited | ⟨rfl, next⟩
    · obtain ⟨before, polls, rfl, next, since⟩ := ih waited
      refine ⟨before, polls ++ [v], by simp, next, ?_⟩
      intro ws part
      rcases List.prefix_concat_iff.1 part with rfl | part
      · have moved := (since polls List.prefix_rfl).move waits
        rw [← last] at moved
        simpa using moved
      · exact since ws part
    · refine ⟨us, [], rfl, next, ?_⟩
      intro ws part
      rw [List.prefix_nil.1 part, last]
      exact waitsSince_execute next

/-! ### Runs -/

/-- What holds of a machine `n` after moves `vs` of a machine `m` that has not fetched anything. -/
structure Coherent (m : Machine τ) (vs : List Move) (n : Machine τ) : Prop where
  /-- The count is that of the slots that found the machine neither halted nor waiting, with a word to fetch. -/
  counted : n.count = (m.found vs).countP fetches
  /-- A machine that waits for a key is at the instruction for it. -/
  word : ∀ x, n.awaiting = some x →
    n.pc ≤ 4094 ∧ ∃ word : Nat, n.memory.fetch? n.pc = some word ∧ decode word = some (.getKeyPress x)
  /-- The slot with which the wait began has counted the instruction, and none of the later ones has done so again. -/
  once : ∀ x, n.awaiting = some x → ∃ before polls, vs = before ++ .slot :: polls ∧
    (m.play before).upcoming = some (.getKeyPress x) ∧
    n.pc = (m.play before).pc ∧ n.count = (m.play before).count + 1 ∧
    ∀ ws, ws <+: polls → WaitsSince (m.play before) (m.play (before ++ .slot :: ws)) x

theorem coherent_play (runs : m.awaiting = none) (zero : m.count = 0) (vs : List Move) :
    Coherent m vs (m.play vs) where
  counted := by rw [count_play, zero, Nat.zero_add]
  word := by
    intro x waits
    obtain ⟨before, polls, rfl, next, since⟩ := exists_begin runs waits
    obtain ⟨-, -, word, fetched, decoded⟩ := word_of_upcoming next
    obtain ⟨-, pc, memory, -⟩ := since polls List.prefix_rfl
    rw [pc, memory]
    exact ⟨Memory.le_of_fetch? fetched, word, fetched, decoded⟩
  once := by
    intro x waits
    obtain ⟨before, polls, rfl, next, since⟩ := exists_begin runs waits
    have now := since polls List.prefix_rfl
    exact ⟨before, polls, rfl, next, now.pc, now.count, since⟩

theorem Coherent.retime {n : Machine τ} {vs : List Move} (c : Coherent m vs n) (s : Option (Schedule τ)) (b : Bool) :
    Coherent m vs (n.retime s b) :=
  ⟨c.counted, c.word, c.once⟩

end Moves

variable {τ : Type} [TimeBase τ]

/-- From a reset on, and as long as nothing is loaded, a machine that waits for a key is at the instruction for it,
which it has counted once, however often it has looked for a key since; and its count is the number of slots that found
it neither halted nor waiting, with a word at the program counter.  This holds after every move, and so at every moment
within a tick, and after every command. -/
theorem coherent_after_reset (m : Machine τ) {h : List (Command τ)} (on : ∀ c ∈ h, c.goesOn = true) :
    (∀ vs, Coherent m.reset vs (m.reset.play vs)) ∧
      Coherent m.reset (m.reset.historyMoves h) (m.reset.after h) := by
  refine ⟨coherent_play rfl rfl, ?_⟩
  have played : m.reset.after h = (m.reset.play (m.reset.historyMoves h)).retime _ _ :=
    m.reset.retime_after on (m.reset.after h).schedule (m.reset.after h).catchUp
  rw [played]
  exact (coherent_play rfl rfl _).retime _ _

/-- The program writes the instruction with which it waits: five words are fetched in eleven slots. -/
theorem coherent_after_reset_of_own_word :
    let program := [0x60, 0xF5, 0x61, 0x0A, 0xA2, 0x08, 0xF1, 0x55, 0x00, 0x00]
    let m : Machine Rat := (fresh (.cycle [7] 0) true).after [.load program]
    let h : List (Command Rat) := [.tick 0, .setKey 3 true, .tick (1 / 50)]
    let n := m.reset.after h
    n.awaiting = some 5 ∧ (m.reset.found (m.reset.historyMoves h)).length = 11 ∧ n.count = 5 ∧
      ∃ word : Nat, n.memory.fetch? n.pc = some word ∧ decode word = some (.getKeyPress 5) := by
  intro program m h n
  obtain ⟨on, waits, slots, fetched⟩ : (∀ c ∈ h, c.goesOn = true) ∧ n.awaiting = some 5 ∧
      (m.reset.found (m.reset.historyMoves h)).length = 11 ∧
      (m.reset.found (m.reset.historyMoves h)).countP fetches = 5 := by decide +kernel
  obtain ⟨counted, word, -⟩ := (coherent_after_reset m on).2
  exact ⟨waits, slots, counted.trans fetched, (word 5 waits).2⟩

end Machine

end Chip8
