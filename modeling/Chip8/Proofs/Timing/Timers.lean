import Chip8.Proofs.Footprint
import Chip8.Proofs.Timing.Counts
import Chip8.Proofs.Timing.Cpu

/-!
# The history of the timers

A timer holds the value that it was last set to, less the steps of the timers since then, and never less than zero.

* `Machine.LastSet` finds the value and the number of steps in a list of moves: the last slot that sets the timer
  decides, or the timer at the start if no slot does;
* `LastSet.timer_play` is the value of the timer after the moves, `Machine.exists_lastSet` says that there always is a
  last time;
* a tick runs its slots before it steps the timers.  So a slot reads a timer that the tick has not stepped yet, and a
  timer that a slot sets has been stepped by the end of the tick (`Machine.TimedTick`);
* the timers go on while the machine waits for a key, and stand still once it is halted
  (`Machine.halted_at_timers`).

`Machine.timer_history` puts this together for everything that a host can do short of loading and resetting.
-/

namespace Chip8

inductive Timer where
  | delay
  | sound
deriving DecidableEq

/-- The instruction that sets a timer to the content of a register. -/
def Timer.setter : Timer → Nat → Instruction
  | .delay => .setDelayTimer
  | .sound => .setSoundTimer

def Timer.part : Timer → Part
  | .delay => .delay
  | .sound => .sound

namespace Instruction

/-- Does the instruction set a timer? -/
def sets (t : Timer) : Instruction → Bool
  | .setDelayTimer _ => t == .delay
  | .setSoundTimer _ => t == .sound
  | _ => false

theorem sets_iff {t : Timer} {i : Instruction} : i.sets t = true ↔ ∃ x, i = t.setter x := by
  cases t <;> cases i <;> simp [sets, Timer.setter]

/-- No other instruction touches a timer. -/
theorem not_mem_footprint_of_sets {t : Timer} {i : Instruction} (unset : i.sets t = false) (index depth : Nat) :
    t.part ∉ i.footprint index depth := by
  cases t <;> cases i <;>
    simp [sets, Timer.part, footprint, Part.bytes, Part.registers, Part.ofRegister, Part.flag] at unset ⊢

end Instruction

namespace Machine

section Moves

variable {τ : Type} {m : Machine τ} {t : Timer}

def timer (m : Machine τ) : Timer → Nat
  | .delay => m.delay.toNat
  | .sound => m.sound.toNat

def sets (t : Timer) (m : Machine τ) : Bool := m.upcoming.any (·.sets t)

theorem soundActive_iff (m : Machine τ) : m.soundActive = true ↔ 0 < m.timer .sound := by
  rw [soundActive, decide_eq_true_iff, UInt8.lt_iff_toNat_lt]
  rfl

/-! ### One move -/

theorem timer_execute (unset : m.sets t = false) : m.execute.1.timer t = m.timer t := by
  have outside (i : Instruction) (next : m.upcoming = some i) : t.part ∉ i.footprint m.index m.stack.depth := by
    rw [sets, next, Option.any_some] at unset
    exact i.not_mem_footprint_of_sets unset m.index m.stack.depth
  cases t with
  | delay =>
    have kept : m.execute.1.delay = m.delay := keeps_execute (p := .delay) (fun _ => nofun) nofun nofun outside
    exact congrArg UInt8.toNat kept
  | sound =>
    have kept : m.execute.1.sound = m.sound := keeps_execute (p := .sound) (fun _ => nofun) nofun nofun outside
    exact congrArg UInt8.toNat kept

theorem timer_execute_of_setter {x : Nat} (next : m.upcoming = some (t.setter x)) :
    m.execute.1.timer t = (m.reg x).toNat := by
  rw [execute_of_upcoming next]
  cases t <;> rfl

theorem timer_stepTimers (m : Machine τ) (t : Timer) : m.stepTimers.timer t = m.timer t - 1 := by
  cases t with
  | delay => exact toNat_countDown m.delay
  | sound => exact toNat_countDown m.sound

theorem timer_move {v : Move} (unset : v = .slot → m.sets t = false) :
    (m.move v).timer t = m.timer t - [v].count .timers := by
  cases v with
  | slot => exact timer_execute (unset rfl)
  | timers => exact m.timer_stepTimers t
  | setKey | releaseAll => cases t <;> rfl

/-! ### Many moves -/

theorem timer_play {vs : List Move} (unset : m.everySlot (fun n => !n.sets t) vs = true) :
    (m.play vs).timer t = m.timer t - vs.count .timers := by
  induction vs generalizing m with
  | nil => rfl
  | cons v vs ih =>
    rw [everySlot_cons] at unset
    obtain ⟨first, rest⟩ := unset
    have moved : (m.move v).timer t = m.timer t - [v].count .timers :=
      timer_move fun slot => by simpa using first slot
    have total : (v :: vs).count .timers = [v].count .timers + vs.count .timers := by
      rw [← List.count_append, List.singleton_append]
    rw [play, ih rest, moved, total]
    omega

theorem timer_play_timers (m : Machine τ) (t : Timer) (k : Nat) :
    (m.play (List.replicate k .timers)).timer t = m.timer t - k := by
  induction k generalizing m with
  | zero => rfl
  | succ k ih =>
    have stepped : (m.move .timers).timer t = m.timer t - 1 := m.timer_stepTimers t
    rw [List.replicate_succ, play, ih, stepped]
    omega

/-- The value that a timer was last set to, among some moves, and the number of steps since then.  If no slot sets it,
it is the value at the start. -/
inductive LastSet (t : Timer) (m : Machine τ) (vs : List Move) : Nat → Nat → Prop where
  | start (unset : m.everySlot (fun n => !n.sets t) vs = true) : LastSet t m vs (m.timer t) (vs.count .timers)
  | slot (before after : List Move) (x : Nat) (split : vs = before ++ .slot :: after)
      (next : (m.play before).upcoming = some (t.setter x))
      (unset : (m.play before).execute.1.everySlot (fun n => !n.sets t) after = true) :
      LastSet t m vs ((m.play before).reg x).toNat (after.count .timers)

theorem exists_lastSet (t : Timer) (m : Machine τ) (vs : List Move) : ∃ v k, LastSet t m vs v k := by
  induction vs generalizing m with
  | nil => exact ⟨_, _, .start rfl⟩
  | cons v vs ih =>
    obtain ⟨w, k, last⟩ := ih (m.move v)
    cases last with
    | slot before after x split next unset =>
      exact ⟨_, _, .slot (v :: before) after x (congrArg (v :: ·) split) next unset⟩
    | start unset =>
      -- no later slot sets the timer, so it is up to the first move whether one does
      by_cases here : v = .slot ∧ m.sets t = true
      · obtain ⟨rfl, sets⟩ := here
        obtain ⟨i, next, sets⟩ := (Option.any_eq_true _ _).1 sets
        obtain ⟨x, rfl⟩ := Instruction.sets_iff.1 sets
        exact ⟨_, _, .slot [] vs x rfl next unset⟩
      · have first (slot : v = .slot) : (!m.sets t) = true := by simpa using fun sets => here ⟨slot, sets⟩
        exact ⟨_, _, .start (everySlot_cons.2 ⟨first, unset⟩)⟩

theorem LastSet.le_count {vs : List Move} {v k : Nat} (last : LastSet t m vs v k) : k ≤ vs.count .timers := by
  cases last with
  | start => exact Nat.le_refl _
  | slot before after x split =>
    have part : after.Sublist vs := by
      rw [split]
      exact (List.sublist_cons_self .slot after).trans (List.sublist_append_right before _)
    exact part.count_le .timers

/-- After some moves a timer is at the value that it was last set to less the steps since then. -/
theorem LastSet.timer_play {vs : List Move} {v k : Nat} (last : LastSet t m vs v k) : (m.play vs).timer t = v - k := by
  cases last with
  | start unset => exact Machine.timer_play unset
  | slot before after x split next unset =>
    have rest := Machine.timer_play unset
    rw [timer_execute_of_setter next] at rest
    rw [split, play_append]
    exact rest

theorem LastSet.timer_play_slots {j v k : Nat} (last : LastSet t m (List.replicate j .slot) v k) :
    (m.play (List.replicate j .slot)).timer t = v := by
  have none : k ≤ 0 := by simpa [List.count_replicate] using last.le_count
  rw [last.timer_play, Nat.le_zero.1 none, Nat.sub_zero]

theorem reg_execute_of_getDelayTimer {x : Nat} (next : m.upcoming = some (.getDelayTimer x)) :
    (m.execute.1.reg x).toNat = m.timer .delay := by
  have read : m.execute = (m.advance.setReg x m.delay, none) := execute_of_upcoming next
  rw [read, reg_setReg, if_pos rfl]
  rfl

theorem halted_play (halted : m.halted = true) (vs : List Move) : (m.play vs).halted = true := by
  induction vs generalizing m with
  | nil => exact halted
  | cons v vs ih =>
    apply ih
    cases v with
    | slot =>
      have idle : m.move .slot = m := congrArg Prod.fst (Slot.idle halted).eq_execute
      rw [idle]
      exact halted
    | _ => exact halted

/-- Slots of a machine that waits for a key do nothing until one was released. -/
theorem executeUpTo_of_waits {m : Machine τ} (on : m.halted = false) {x : Nat} (waits : m.awaiting = some x)
    (none : m.keypad.released = none) (k : Nat) : m.executeUpTo 0 k = (m, k, Option.none) := by
  have poll : m.poll x = m := by rw [Machine.poll, none]
  have slot : m.execute = (m, Option.none) := by rw [(Slot.poll on waits).eq_execute, poll]
  induction k with
  | zero => rfl
  | succ k ih => rw [executeUpTo_succ slot, ih]

end Moves

section Ticks

variable {τ : Type} [TimeBase τ]

/-! ### Ticks -/

/-- What a tick has to do with the timers. -/
structure TimedTick (m : Machine τ) (now : τ) : Prop where
  /-- The slots come first, and then the steps of the timers. -/
  order : ∃ s, (m.tick now).1 =
    (m.play (List.replicate (m.slotsAt now) .slot ++ List.replicate (m.stepsAt now) .timers)).retime s m.catchUp
  /-- A slot reads the delay timer as it was before the tick, or as it was last set in the tick. -/
  reads : ∀ j < m.slotsAt now, let n := m.play (List.replicate j .slot)
    ∀ x, n.upcoming = some (.getDelayTimer x) →
      ∀ v k, LastSet .delay m (List.replicate j .slot) v k → (n.execute.1.reg x).toNat = v
  /-- All steps of the tick are taken from a timer, whether the tick set it or not. -/
  steps : ∀ t v k, LastSet t m (List.replicate (m.slotsAt now) .slot) v k →
    (m.tick now).1.timer t = v - m.stepsAt now
  /-- Unless a slot faults, there is a step for each strike of the clock of the timers. -/
  clock : m.halted = false → (m.tick now).2 = none → m.stepsAt now = (m.timerStrike now).times
  /-- While the machine waits for a key no slot faults. -/
  waits : m.halted = false → m.awaiting.isSome = true → m.keypad.released = none →
    (m.tick now).2 = none ∧ (m.tick now).1.awaiting = m.awaiting
  halted : m.halted = true → m.stepsAt now = 0

theorem timedTick (m : Machine τ) (now : τ) : m.TimedTick now where
  order := m.tick_eq_play now
  reads := by
    intro j _ n x next v k last
    rw [reg_execute_of_getDelayTimer next]
    exact last.timer_play_slots
  steps := by
    intro t v k last
    obtain ⟨s, same⟩ := m.tick_eq_play now
    have timer : (m.tick now).1.timer t = (m.play (m.moves (.tick now))).timer t := by
      rw [same]
      cases t <;> rfl
    rw [timer, moves, play_append, timer_play_timers, last.timer_play_slots]
  clock on clean := stepsAt_of_clean on clean
  waits := by
    intro on waits none
    obtain ⟨x, waits⟩ := Option.isSome_iff_exists.1 waits
    have tick := tick_of_none on (executeUpTo_of_waits on waits none (m.instructionStrike now).times)
    have kept := congrArg Machine.awaiting (m.cpu_play_timers (m.timerStrike now).times)
    rw [tick]
    exact ⟨rfl, kept⟩
  halted halted := if_pos halted

theorem halted_at_step {m : Machine τ} {c : Command τ} {before after : List Move}
    (split : m.moves c = before ++ .timers :: after) : (m.play before).halted = false := by
  have steps : Move.timers ∈ m.moves c := by simp [split]
  cases c with
  | tick now =>
    have positive : m.stepsAt now ≠ 0 := by
      intro none
      simp [moves, none] at steps
    have on : m.halted = false := by
      cases halted : m.halted with
      | false => rfl
      | true => exact absurd (if_pos halted) positive
    have clean : (m.tick now).2 = none := by
      cases fault : (m.tick now).2 with
      | none => rfl
      | some f => exact absurd (stepsAt_of_fault fault) positive
    obtain ⟨same, running⟩ := tick_of_clean on clean
    -- a machine that is halted at the step is still so after the tick
    cases halted : (m.play before).halted with
    | false => rfl
    | true =>
      have halted' := halted_play halted (.timers :: after)
      rw [← play_append, ← split] at halted'
      rw [same] at running
      exact absurd (running.symm.trans halted') Bool.false_ne_true
  | _ => simp [moves] at steps

theorem halted_at_timers {m : Machine τ} {h : List (Command τ)} (on : ∀ c ∈ h, c.goesOn = true)
    {before after : List Move} (split : m.historyMoves h = before ++ .timers :: after) :
    (m.play before).halted = false := by
  induction h generalizing m before with
  | nil => simp [historyMoves] at split
  | cons c rest ih =>
    -- a step after the first command finds the machine that the moves of the command leave, up to its deadlines
    have behind {past : List Move} (split : (m.apply c).1.historyMoves rest = past ++ .timers :: after) :
        (m.play (m.moves c ++ past)).halted = false := by
      have same : ((m.apply c).1.play past).retime none false = (m.play (m.moves c ++ past)).retime none false := by
        rw [play_append, ← play_retime, ← play_retime, retime_apply m (on c (by simp))]
      have halted := congrArg Machine.halted same
      have running := ih (fun d hd => on d (by simp [hd])) split
      exact halted.symm.trans running
    rw [historyMoves, List.append_eq_append_iff] at split
    rcases split with ⟨past, rfl, split⟩ | ⟨later, split, same⟩
    · exact behind split
    · cases later with
      | nil =>
        rw [List.append_nil] at split
        rw [← split, ← List.append_nil (m.moves c)]
        exact behind same.symm
      | cons v later =>
        obtain ⟨rfl, -⟩ := List.cons.inj same
        exact halted_at_step split

/-- During a run without loading and resetting, a timer is at the value that it was last set to, or at its value at the
start, less the number of steps since then, and never below zero; and the tone is to sound just while the sound timer
has not counted down.  Each tick of the run adds its slots and then its steps.  No step finds the machine halted. -/
theorem timer_history {m : Machine τ} {h : List (Command τ)} (on : ∀ c ∈ h, c.goesOn = true) :
    let vs := m.historyMoves h
    (∀ t, (∃ v k, LastSet t m vs v k) ∧ ∀ v k, LastSet t m vs v k → (m.after h).timer t = v - k) ∧
      (∀ v k, LastSet .sound m vs v k → ((m.after h).soundActive = true ↔ k < v)) ∧
      (∀ before after, vs = before ++ .timers :: after → (m.play before).halted = false) ∧
      ∀ past now rest, h = past ++ .tick now :: rest →
        let n := m.after past
        n.TimedTick now ∧
          vs = m.historyMoves past ++
            (List.replicate (n.slotsAt now) .slot ++ List.replicate (n.stepsAt now) .timers) ++
              (n.tick now).1.historyMoves rest := by
  intro vs
  have played : (m.after h).retime none false = (m.play vs).retime none false := m.retime_after on none false
  have timer (t : Timer) : (m.after h).timer t = (m.play vs).timer t := by
    have same := congrArg (fun n => n.timer t) played
    cases t <;> exact same
  refine ⟨fun t => ⟨exists_lastSet t m vs, fun v k last => ?_⟩, fun v k last => ?_, fun before after => ?_, ?_⟩
  · rw [timer, last.timer_play]
  · rw [soundActive_iff, timer, last.timer_play, Nat.sub_pos_iff_lt]
  · exact halted_at_timers on
  · intro past now rest split n
    refine ⟨n.timedTick now, ?_⟩
    have moves : vs = m.historyMoves (past ++ .tick now :: rest) := congrArg m.historyMoves split
    rw [moves, historyMoves_append, historyMoves, List.append_assoc]
    rfl

/-- The slots of the second tick set the delay timer and read it, and then the tick steps it. -/
theorem timer_history_of_late_tick :
    let m : Machine Rat := (fresh (.cycle [7] 0) true).after
      [.load [0x60, 0x05, 0xF0, 0x15, 0xF1, 0x07, 0x12, 0x06], .reset]
    let h : List (Command Rat) := [.tick 0, .setKey 3 true, .tick (1 / 50)]
    (m.after h).reg 1 = 5 ∧ (m.after h).timer .delay = 5 - 1 := by
  intro m h
  obtain ⟨on, moves, next, unset, value, read⟩ :
      (∀ c ∈ h, c.goesOn = true) ∧
        m.historyMoves h =
          [.slot, .timers, .setKey 3 true] ++ .slot :: (List.replicate 9 .slot ++ [.timers]) ∧
        (m.play [.slot, .timers, .setKey 3 true]).upcoming = some (.setDelayTimer 0) ∧
        (m.play [.slot, .timers, .setKey 3 true]).execute.1.everySlot (fun n => !n.sets .delay)
          (List.replicate 9 .slot ++ [.timers]) = true ∧
        (m.play [.slot, .timers, .setKey 3 true]).reg 0 = 5 ∧ (m.after h).reg 1 = 5 := by decide +kernel
  have last := LastSet.slot (t := .delay) _ _ 0 moves next unset
  have timer := ((timer_history on).1 .delay).2 _ _ last
  rw [value] at timer
  exact ⟨read, timer⟩

end Ticks

end Machine

end Chip8
