import Chip8.Proofs.Restart
import Chip8.Proofs.Timing.Tick

/-!
# Punctual hosts

A host is punctual if no tick finds a clock a whole period late (`Machine.Punctual`).  Such a host has nothing to make
up for: whether the machine catches up or not, it goes through the same states and raises the same faults
(`Machine.transcript_of_punctual`).  This needs no law of arithmetic, so it holds for binary64 times as they are.
-/

namespace Chip8

open Clock (InTime)

namespace Machine

variable {τ : Type} [TimeBase τ]

/-- Does a command find both clocks in time?  A machine that is halted takes no notice of the time. -/
def InTimeFor (m : Machine τ) : Command τ → Prop
  | .tick now =>
    m.halted = false →
      InTime instructionHz (m.scheduleAt now).instruction now ∧ InTime timerHz (m.scheduleAt now).timer now
  | _ => True

/-- Does every command of a history find both clocks in time? -/
def Punctual (m : Machine τ) : List (Command τ) → Prop
  | [] => True
  | c :: rest => m.InTimeFor c ∧ (m.apply c).1.Punctual rest

instance (hz : Nat) (deadline now : τ) : Decidable (InTime hz deadline now) := inferInstanceAs (Decidable (_ → _))

instance decidableInTimeFor (m : Machine τ) : (c : Command τ) → Decidable (m.InTimeFor c)
  | .tick _ => inferInstanceAs (Decidable (_ → _ ∧ _))
  | .load _ | .reset | .execute | .setKey .. | .releaseAll | .setCatchUp _ => isTrue trivial

instance decidablePunctual (m : Machine τ) : (h : List (Command τ)) → Decidable (m.Punctual h)
  | [] => isTrue trivial
  | c :: rest =>
    have := (m.apply c).1.decidablePunctual rest
    inferInstanceAs (Decidable (m.InTimeFor c ∧ (m.apply c).1.Punctual rest))

private theorem tick_of_inTime {m : Machine τ} (mode : m.catchUp = false) {now : τ} (inTime : m.InTimeFor (.tick now)) :
    ({ m with catchUp := true } : Machine τ).tick now =
      ({ (m.tick now).1 with catchUp := true }, (m.tick now).2) := by
  let m' : Machine τ := m.retime m.schedule true
  change m'.tick now = _
  cases halted : m.halted with
  | true =>
    have halted' : m'.halted = true := halted
    rw [tick, tick, if_pos halted, if_pos halted']
    rfl
  | false =>
    obtain ⟨slotsInTime, stepsInTime⟩ := inTime halted
    have instructions : m'.instructionStrike now = m.instructionStrike now := by
      have same := Clock.strike_true (by decide) slotsInTime
      rw [← mode] at same
      exact same
    have timers : m'.timerStrike now = m.timerStrike now := by
      have same := Clock.strike_true (by decide) stepsInTime
      rw [← mode] at same
      exact same
    have run := m.executeUpTo_retime m.schedule true 0 (m.instructionStrike now).times
    rcases slots : m.executeUpTo 0 (m.instructionStrike now).times with ⟨n, ran, _ | f⟩
    · rw [slots, ← instructions] at run
      rw [tick_of_none halted slots, tick_of_none (m := m') halted run, instructions, timers, play_retime]
      rfl
    · rw [slots, ← instructions] at run
      rw [tick_of_fault halted slots, tick_of_fault (m := m') halted run]
      rfl

private theorem apply_of_inTime {m : Machine τ} (mode : m.catchUp = false) {c : Command τ}
    (fixed : ∀ b, c ≠ .setCatchUp b) (inTime : m.InTimeFor c) :
    ({ m with catchUp := true } : Machine τ).apply c = ({ (m.apply c).1 with catchUp := true }, (m.apply c).2) := by
  cases c with
  | load image =>
    simp only [apply, load_eq]
    by_cases large : maxProgramSize < image.length
    · rw [if_pos large, if_pos large]
    · rw [if_neg large, if_neg large]
  | reset => rfl
  | execute =>
    have slot : ({ m with catchUp := true } : Machine τ).execute = _ := m.execute_retime m.schedule true
    have kept : m.execute.1.schedule = m.schedule := m.schedule_play [.slot]
    simp only [apply]
    rw [slot, ← kept]
    rfl
  | tick now =>
    simp only [apply]
    rw [tick_of_inTime mode inTime]
  | setKey | releaseAll => rfl
  | setCatchUp b => exact absurd rfl (fixed b)

private theorem catchUp_apply (m : Machine τ) {c : Command τ} (fixed : ∀ b, c ≠ .setCatchUp b) :
    (m.apply c).1.catchUp = m.catchUp := by
  cases c with
  | load image =>
    simp only [apply, load_eq]
    by_cases large : maxProgramSize < image.length
    · rw [if_pos large]
    · rw [if_neg large]
  | execute => exact m.catchUp_play [.slot]
  | tick now =>
    obtain ⟨s, same⟩ := m.tick_eq_play now
    change (m.tick now).1.catchUp = m.catchUp
    rw [same]
    rfl
  | reset | setKey | releaseAll => rfl
  | setCatchUp b => exact absurd rfl (fixed b)

/-- From any state on, in particular from a reset on, a punctual host cannot tell a machine that catches up from one
that does not: after every command they are in the same state, but for this choice itself, and have raised the same
faults.  The host may do anything but change the choice. -/
theorem transcript_of_punctual (m : Machine τ) {h : List (Command τ)} (fixed : ∀ c ∈ h, ∀ b, c ≠ .setCatchUp b)
    (punctual : ({ m with catchUp := false } : Machine τ).Punctual h) :
    ({ m with catchUp := true } : Machine τ).transcript (h.map .command) =
      (({ m with catchUp := false } : Machine τ).transcript (h.map .command)).map
        fun r => ({ r.1 with catchUp := true }, r.2) := by
  suffices all : ∀ n : Machine τ, n.catchUp = false → n.Punctual h →
      ({ n with catchUp := true } : Machine τ).transcript (h.map .command) =
        (n.transcript (h.map .command)).map fun r => ({ r.1 with catchUp := true }, r.2) from
    all { m with catchUp := false } rfl punctual
  clear punctual
  induction h with
  | nil =>
    intro _ _ _
    rfl
  | cons c rest ih =>
    intro n mode ⟨inTime, punctual⟩
    have first : ∀ b, c ≠ .setCatchUp b := fixed c (by simp)
    have step := apply_of_inTime mode first inTime
    have later := ih (fun d hd => fixed d (by simp [hd])) (n.apply c).1 ((n.catchUp_apply first).trans mode) punctual
    simp only [List.map_cons, transcript, answer, step, later]

/-- A program that waits for a key and then returns from no call, with two ticks right at a deadline. -/
theorem transcript_of_punctual_wait :
    let m : Machine Float := (fresh (.cycle [] 0) false).after [.load [0xF0, 0x0A, 0x00, 0xEE], .reset]
    let h : List (Command Float) :=
      [.tick 0, .setKey 5 true, .tick 0.002, .setKey 5 false, .tick 0.004, .tick 0.0065, .tick 3]
    ({ m with catchUp := false } : Machine Float).Punctual h ∧
      (({ m with catchUp := true } : Machine Float).transcript (h.map .command)).map Prod.snd =
        [none, none, none, none, none, some (.fault (.stackUnderflow 0x202)), none] := by
  intro m h
  have fixed : ∀ c ∈ h, ∀ b, c ≠ .setCatchUp b := by simp [h]
  have punctual : ({ m with catchUp := false } : Machine Float).Punctual h := by decide +kernel
  have troubles : (({ m with catchUp := false } : Machine Float).transcript (h.map .command)).map Prod.snd =
      [none, none, none, none, none, some (.fault (.stackUnderflow 0x202)), none] := by decide +kernel
  refine ⟨punctual, ?_⟩
  have same := congrArg (List.map Prod.snd) (transcript_of_punctual m fixed punctual)
  rw [List.map_map] at same
  exact same.trans troubles

end Machine

end Chip8
