import Chip8.Proofs.Atomicity
import Chip8.Proofs.Restart
import Chip8.Proofs.Timing.Tick

/-!
# A halt is final

A fault halts the machine.  A tick that meets one has run the slots before it, and its deadline has moved by one period
for each of them; it ends with the slot that faults, before the timers get their turn.  From then on only a reset, or
another program, has any effect: whatever else a host does, no trouble is reported and nothing changes but the keypad
and the way to deal with late ticks.

This is shown for the machine (`Machine.tick_of_some`, `Machine.transcript_of_halted`) and carried over to its bare
form, where a tick that ends early keeps the deadlines as they were by then (`BareMachine.halt_is_final`).
-/

namespace Chip8

open Clock (postponed)

namespace Machine

variable {τ : Type} [TimeBase τ]

/-- Slots of which the last one faults are slots that do not fault, and then one that does. -/
private theorem executeUpTo_of_fault {m n : Machine τ} {k ran : Nat} {f : Fault}
    (h : m.executeUpTo 0 k = (n, ran, some f)) :
    (∀ j < ran, (m.after (.replicate j .execute)).execute.2 = none) ∧
      (m.after (.replicate ran .execute)).execute = (n, some f) := by
  induction k generalizing m ran with
  | zero => simp [executeUpTo] at h
  | succ k ih =>
    rcases slot : m.execute with ⟨next, _ | g⟩
    · obtain ⟨others, rfl, rest⟩ := executeUpTo_of_succ slot h
      obtain ⟨clean, faulty⟩ := ih rest
      have first : (m.apply .execute).1 = next := congrArg Prod.fst slot
      constructor
      · intro j small
        cases j with
        | zero => exact congrArg Prod.snd slot
        | succ j =>
          rw [List.replicate_succ, after, first]
          exact clean j (Nat.lt_of_succ_lt_succ small)
      · rw [List.replicate_succ, after, first]
        exact faulty
    · rw [executeUpTo, slot] at h
      simp only [Prod.mk.injEq, Option.some.injEq] at h
      obtain ⟨rfl, rfl, rfl⟩ := h
      exact ⟨fun j small => absurd small (Nat.not_lt_zero j), slot⟩

private theorem catchUp_executes (m : Machine τ) (k : Nat) :
    (m.after (.replicate k .execute)).catchUp = m.catchUp := by
  induction k generalizing m with
  | zero => rfl
  | succ k ih => exact (ih m.execute.1).trans (m.catchUp_play [.slot])

/-- A tick that raises a fault leaves the machine that slots leave of which the last one raises it, but for the
deadlines: that of the instructions has moved by one period for each slot before, and that of the timers not at all. -/
theorem tick_of_some {m : Machine τ} {now : τ} {f : Fault} (fault : (m.tick now).2 = some f) :
    ∃ ran, (∀ k < ran, (m.after (.replicate k .execute)).execute.2 = none) ∧
      let last := m.after (.replicate ran .execute)
      last.execute.2 = some f ∧
        (m.tick now).1 = last.aborted.retime
          (some ⟨postponed instructionHz ran (m.scheduleAt now).instruction, (m.scheduleAt now).timer⟩) m.catchUp := by
  cases on : m.halted with
  | true =>
    rw [tick, if_pos on] at fault
    contradiction
  | false =>
    rcases slots : m.executeUpTo 0 (m.instructionStrike now).times with ⟨n, ran, _ | g⟩
    · rw [tick_of_none on slots] at fault
      contradiction
    · rw [tick_of_fault on slots] at fault ⊢
      obtain rfl : g = f := Option.some.inj fault
      obtain ⟨clean, faulty⟩ := executeUpTo_of_fault slots
      obtain ⟨-, -, left, -⟩ := execute_of_fault (congrArg Prod.snd faulty)
      rw [faulty] at left
      exact ⟨ran, clean, congrArg Prod.snd faulty, congrArg (retime · _ _) left⟩

private theorem apply_of_halted {m : Machine τ} (halted : m.halted = true) {c : Command τ} (on : c.goesOn = true) :
    ∃ keypad catchUp, keypad.tracking = m.keypad.tracking ∧
      m.apply c = ({ m with keypad := keypad, catchUp := catchUp }, none) := by
  cases c with
  | load | reset => contradiction
  | execute =>
    refine ⟨m.keypad, m.catchUp, rfl, ?_⟩
    rw [apply, (Slot.idle halted).eq_execute]
    rfl
  | tick now =>
    refine ⟨m.keypad, m.catchUp, rfl, ?_⟩
    rw [apply, tick, if_pos halted]
    rfl
  | setKey key pressed => exact ⟨m.keypad.set key pressed, m.catchUp, m.keypad.tracking_set key pressed, rfl⟩
  | releaseAll => exact ⟨m.keypad.releaseAll, m.catchUp, rfl, rfl⟩
  | setCatchUp catchUp => exact ⟨m.keypad, catchUp, rfl, rfl⟩

/-- A machine that is halted stays as it is, but for the keypad and the way to deal with late ticks, and reports no
trouble. -/
theorem transcript_of_halted {m : Machine τ} (halted : m.halted = true) {g : List (Command τ)}
    (on : ∀ c ∈ g, c.goesOn = true) :
    ∀ r ∈ m.transcript (g.map .command), r.2 = none ∧
      ∃ keypad catchUp, keypad.tracking = m.keypad.tracking ∧
        r.1 = { m with keypad := keypad, catchUp := catchUp } := by
  induction g generalizing m with
  | nil => simp [transcript]
  | cons c rest ih =>
    intro r member
    obtain ⟨keypad, catchUp, tracking, step⟩ := apply_of_halted halted (on c (by simp))
    rw [List.map_cons, transcript, answer, step, List.mem_cons] at member
    rcases member with rfl | member
    · exact ⟨rfl, keypad, catchUp, tracking, rfl⟩
    · have halted' : ({ m with keypad := keypad, catchUp := catchUp } : Machine τ).halted = true := halted
      obtain ⟨quiet, keypad', catchUp', tracking', same⟩ := ih halted' (fun d hd => on d (by simp [hd])) r member
      exact ⟨quiet, keypad', catchUp', tracking'.trans tracking, same⟩

end Machine

namespace BareMachine

variable {τ : Type} [TimeBase τ]

private theorem tick_of_apply {m : Machine τ} (fit : m.Fit) {p : Nat} {now : τ} {f : Fault}
    (fault : ((ofMachine m p).apply (.tick now)).2 = some (.trouble (.fault f))) : (m.tick now).2 = some f := by
  obtain ⟨q, step⟩ := apply_ofMachine m p fit (.tick now)
  have trouble : (m.apply (.tick now)).2 = (m.tick now).2.map .fault := rfl
  rw [step, trouble] at fault
  cases tick : (m.tick now).2 with
  | none => simp [tick] at fault
  | some g => simpa [tick] using fault

private theorem scheduleAt_ofMachine (m : Machine τ) (p : Nat) (now : τ) :
    m.scheduleAt now =
      ⟨if (ofMachine m p).anchored then (ofMachine m p).instructionDeadline else now,
        if (ofMachine m p).anchored then (ofMachine m p).timerDeadline else now⟩ := by
  unfold Machine.scheduleAt ofMachine
  cases m.schedule <;> rfl

/-- On every machine that a host can bring about, a tick that raises a fault leaves the machine that slots leave of
which the last one raises it, but for the deadlines: that of the instructions has moved by one period for each slot
before, and that of the timers not at all, once the first tick has set them.  And when the machine is halted, nothing
raises a fault any more and nothing changes but the keypad and the way to deal with late ticks, until it is reset. -/
theorem halt_is_final (random : RandomSource) (catchUp : Bool) (h : List (Command τ)) :
    let m := (Machine.fresh random catchUp).after h
    let s := (fresh random catchUp).after h
    (∃ p, s = ofMachine m p) ∧
      (∀ now f, (s.apply (.tick now)).2 = some (.trouble (.fault f)) →
        ∃ ran, (∀ k < ran, ((s.after (.replicate k .execute)).apply .execute).2 = none) ∧
          let last := s.after (.replicate ran .execute)
          (last.apply .execute).2 = some (.trouble (.fault f)) ∧
            (s.apply (.tick now)).1.seen =
              { last.aborted.seen with
                instructionDeadline :=
                  postponed instructionHz ran (if s.anchored then s.instructionDeadline else now)
                timerDeadline := if s.anchored then s.timerDeadline else now
                anchored := true }) ∧
      (s.halted = true → ∀ g : List (Command τ), (∀ c ∈ g, c.goesOn = true) →
        ∀ r ∈ s.transcript (g.map .command), r.2 = none ∧
          ∃ pressed lastReleased catchUp, r.1 =
            { s.seen with pressed := pressed, lastReleased := lastReleased, catchUp := catchUp }) := by
  intro m s
  have sound : m.Sound := Machine.sound_after_fresh random catchUp h
  obtain ⟨p, same⟩ := after_fresh random catchUp h
  change s = ofMachine m p at same
  have slots : ∀ k, ∃ q, s.after (.replicate k .execute) = ofMachine (m.after (.replicate k .execute)) q ∧
      ((s.after (.replicate k .execute)).apply .execute).2 =
        ((m.after (.replicate k .execute)).execute.2.map Trouble.fault).map Stop.trouble := by
    intro k
    obtain ⟨q, run⟩ := after_ofMachine m p sound.toFit (.replicate k .execute)
    rw [← same] at run
    refine ⟨q, run, ?_⟩
    rw [run, apply_execute_ofMachine _ q (sound.after _).toFit]
  refine ⟨⟨p, same⟩, ?_, ?_⟩
  · intro now f fault
    rw [same] at fault
    obtain ⟨ran, clean, faulty, left⟩ := Machine.tick_of_some (tick_of_apply sound.toFit fault)
    obtain ⟨q, run, trouble⟩ := slots ran
    refine ⟨ran, ?_, ?_, ?_⟩
    · intro k small
      obtain ⟨-, -, quiet⟩ := slots k
      rw [quiet, clean k small]
      rfl
    · rw [trouble, faulty]
      rfl
    · obtain ⟨q', step⟩ := apply_ofMachine m p sound.toFit (.tick now)
      have mode := Machine.catchUp_executes m ran
      have result : (s.apply (.tick now)).1 = ofMachine (m.tick now).1 q' := by
        rw [same, step]
        rfl
      rw [result, left, run, same, scheduleAt_ofMachine m p, ← mode]
      rfl
  · intro halted g on r member
    rw [same] at halted
    rw [same, transcript_ofMachine sound.toFit, List.mem_map] at member
    obtain ⟨r', member, rfl⟩ := member
    obtain ⟨quiet, keypad, catchUp, tracking, left⟩ := Machine.transcript_of_halted halted on r' member
    refine ⟨?_, keypad.held.toList, keypad.released.map fun k => (k.val : Int), catchUp, ?_⟩
    · rw [quiet]
      rfl
    · rw [left, same]
      simp only [ofMachine, tracking]
      rfl

/-- A late tick runs one more slot, which sets the delay timer, and then returns from no call. -/
example :
    let s := (fresh (.cycle [] 0) true : BareMachine Rat).after
      [.load [0x60, 0xFF, 0xF0, 0x15, 0x00, 0xEE], .reset, .tick 0, .tick 1, .setKey 5 true, .tick 9]
    s.halted = true ∧ s.pc = 0x206 ∧ s.delay = 255 ∧ s.instructionDeadline = 2 / 500 ∧ s.timerDeadline = 1 / 60 := by
  decide +kernel

end BareMachine

end Chip8
