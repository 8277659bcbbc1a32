import Chip8.Proofs.Bare.Simulation

/-!
# Histories of the bare machine and of the machine

The simulation of slots goes on to ticks, in which the deadlines of the bare machine are part of its state while its
loops run, and from there to all commands.  `apply_ofMachine` is the simulation of one command, `after_ofMachine` that
of a history: a bare machine goes through the bare forms of the states that the machine goes through, and its commands
end early just when the machine reports trouble.  `after_fresh` is the case of new machines.
-/

namespace Chip8

open Chip8.Action
open TimeBase (later reached)

namespace BareMachine

/-! ### Ticks -/

variable {τ : Type}

/-- Counting a part down that holds the number of a byte: what is read and written is the same part. -/
private theorem run_countDown {s : BareMachine τ} {t : UInt8} (read : BareMachine τ → Int)
    (write : BareMachine τ → Int → BareMachine τ) (value : read s = t.toNat) (same : write s (read s) = s) :
    (do if read (← get) > 0 then modify fun s => write s (read s - 1) : Action τ Unit).run s =
      .ok () (write s (if t = 0 then 0 else t - 1).toNat) := by
  rw [run_bind_of_ok (EStateM.run_get _), Machine.toNat_countDown]
  split
  · rename_i positive
    have one : read s - 1 = ((t.toNat - 1 : Nat) : Int) := by omega
    rw [EStateM.run_modify, one]
  · rename_i zero
    have stays : ((t.toNat - 1 : Nat) : Int) = read s := by omega
    rw [stays, same]
    rfl

variable [TimeBase τ] (m : Machine τ) (p : Nat)

private theorem run_stepDelay :
    stepDelay.run (ofMachine m p) =
      .ok () (ofMachine { m with delay := if m.delay = 0 then 0 else m.delay - 1 } p) :=
  run_countDown BareMachine.delay (fun s d => { s with delay := d }) rfl rfl

private theorem run_stepSound :
    stepSound.run (ofMachine m p) =
      .ok () (ofMachine { m with sound := if m.sound = 0 then 0 else m.sound - 1 } p) :=
  run_countDown BareMachine.sound (fun s d => { s with sound := d }) rfl rfl

private theorem run_stepTimers : stepTimers.run (ofMachine m p) = .ok () (ofMachine m.stepTimers p) := by
  unfold stepTimers
  rw [run_bind_of_ok (run_stepDelay m p)]
  exact run_stepSound _ p

/-- The slots of a tick that catches up, before the deadlines that are still due give way. -/
private theorem run_dueSlots (fit : m.Fit) (now d e : τ) (b : Bool) (n : Nat) :
    ∃ q m' d', (∃ f, Machine.overdueSlots now n m d = (m', d', some f) ∧
        (dueSlots now n).run (ofMachine (m.retime (some ⟨d, e⟩) b) p) =
          .error (.trouble (.fault f)) (ofMachine (m'.retime (some ⟨d', e⟩) b) q)) ∨
      (Machine.overdueSlots now n m d = (m', Machine.cutDeadline d' now instructionPeriod, none) ∧
        (dueSlots now n).run (ofMachine (m.retime (some ⟨d, e⟩) b) p) =
          .ok () (ofMachine (m'.retime (some ⟨d', e⟩) b) q)) := by
  induction n generalizing m p d with
  | zero => exact ⟨p, m, d, .inr ⟨rfl, rfl⟩⟩
  | succ n ih =>
    have deadline : (ofMachine (m.retime (some ⟨d, e⟩) b) p).instructionDeadline = d := rfl
    unfold dueSlots Machine.overdueSlots
    rw [run_bind_of_ok (EStateM.run_get _), deadline]
    by_cases due : reached d now = true
    · have slot := run_execute (m.retime (some ⟨d, e⟩) b) p (fit.retime _ _)
      have fit' := fit.execute
      rw [if_pos due, if_pos due]
      rw [m.execute_retime] at slot
      generalize fetchedAt (m.retime (some ⟨d, e⟩) b) p = q at slot
      generalize m.execute = r at slot fit' ⊢
      rcases r with ⟨next, _ | f⟩
      · obtain ⟨q', m', d', result⟩ := ih next q fit' (later d instructionPeriod)
        refine ⟨q', m', d', ?_⟩
        rw [run_bind_of_ok slot, run_bind_of_ok (EStateM.run_modify _ _)]
        exact result
      · refine ⟨q, next, d, .inl ⟨f, rfl, ?_⟩⟩
        rw [run_bind_of_error slot]
    · -- a deadline that is not reached does not give way either
      refine ⟨p, m, d, .inr ⟨?_, ?_⟩⟩
      · rw [if_neg due, Machine.cutDeadline, if_neg due]
      · rw [if_neg due]
        rfl

private theorem run_catchUpSlots (fit : m.Fit) (now d e : τ) (b : Bool) :
    ∃ q m' d' f, Machine.overdueSlots now instructionHz m d = (m', d', f) ∧
      (catchUpSlots now).run (ofMachine (m.retime (some ⟨d, e⟩) b) p) =
        ending q (m'.retime (some ⟨d', e⟩) b, f) := by
  unfold catchUpSlots
  obtain ⟨q, m', d', ⟨f, spec, run⟩ | ⟨spec, run⟩⟩ := run_dueSlots m p fit now d e b instructionHz
  · refine ⟨q, m', d', some f, spec, ?_⟩
    rw [run_bind_of_error run]
    rfl
  · have deadline : (ofMachine (m'.retime (some ⟨d', e⟩) b) q).instructionDeadline = d' := rfl
    -- both cut a deadline that is still reached, the bare machine in its state
    refine ⟨q, m', _, none, spec, ?_⟩
    rw [run_bind_of_ok run, run_bind_of_ok (EStateM.run_get _), deadline]
    unfold Machine.cutDeadline
    split <;> rfl

private theorem run_slotPhase (fit : m.Fit) (now d e : τ) :
    ∃ q m' d' f, m.slotPhase now d = (m', d', f) ∧
      (slotPhase now).run (ofMachine (m.retime (some ⟨d, e⟩) m.catchUp) p) =
        ending q (m'.retime (some ⟨d', e⟩) m.catchUp, f) := by
  have deadline : (ofMachine (m.retime (some ⟨d, e⟩) m.catchUp) p).instructionDeadline = d := rfl
  have mode : (ofMachine (m.retime (some ⟨d, e⟩) m.catchUp) p).catchUp = m.catchUp := rfl
  unfold slotPhase Machine.slotPhase
  rw [run_bind_of_ok (EStateM.run_get _), deadline]
  by_cases due : reached d now = true
  · rw [if_pos due, if_pos due, run_bind_of_ok (EStateM.run_get _), mode]
    cases catchUp : m.catchUp with
    | true => exact run_catchUpSlots m p fit now d e true
    | false =>
      have slot := run_execute (m.retime (some ⟨d, e⟩) false) p (fit.retime _ _)
      rw [m.execute_retime] at slot
      generalize fetchedAt (m.retime (some ⟨d, e⟩) false) p = q at slot
      generalize m.execute = r at slot ⊢
      rcases r with ⟨next, _ | f⟩
      · refine ⟨q, next, _, none, rfl, ?_⟩
        simp only [Bool.false_eq_true, if_false]
        rw [run_bind_of_ok slot]
        rfl
      · refine ⟨q, next, _, some f, rfl, ?_⟩
        simp only [Bool.false_eq_true, if_false]
        rw [run_bind_of_error slot]
        rfl
  · rw [if_neg due, if_neg due]
    -- a loop with nothing due makes no round
    have idle : Machine.overdueSlots now instructionHz m d = (m, d, none) := by
      unfold instructionHz Machine.overdueSlots
      rw [if_neg due]
    refine ⟨p, m, d, none, ?_, rfl⟩
    split
    · exact idle
    · rfl

/-- The steps of the timers in a tick that catches up, before the deadlines that are still due give way. -/
private theorem run_dueSteps (now d e : τ) (b : Bool) (n : Nat) :
    ∃ m' e', Machine.overdueSteps now n m e = (m', Machine.cutDeadline e' now timerPeriod) ∧
      (dueSteps now n).run (ofMachine (m.retime (some ⟨d, e⟩) b) p) =
        .ok () (ofMachine (m'.retime (some ⟨d, e'⟩) b) p) := by
  induction n generalizing m e with
  | zero => exact ⟨m, e, rfl, rfl⟩
  | succ n ih =>
    have deadline : (ofMachine (m.retime (some ⟨d, e⟩) b) p).timerDeadline = e := rfl
    unfold dueSteps Machine.overdueSteps
    rw [run_bind_of_ok (EStateM.run_get _), deadline]
    by_cases due : reached e now = true
    · obtain ⟨m', e', result⟩ := ih m.stepTimers (later e timerPeriod)
      refine ⟨m', e', ?_⟩
      rw [if_pos due, if_pos due, run_bind_of_ok (run_stepTimers _ p), run_bind_of_ok (EStateM.run_modify _ _)]
      exact result
    · refine ⟨m, e, ?_, ?_⟩
      · rw [if_neg due, Machine.cutDeadline, if_neg due]
      · rw [if_neg due]
        rfl

private theorem run_timerPhase (now d e : τ) :
    ∃ m' e', m.timerPhase now e = (m', e') ∧
      (timerPhase now).run (ofMachine (m.retime (some ⟨d, e⟩) m.catchUp) p) =
        .ok () (ofMachine (m'.retime (some ⟨d, e'⟩) m.catchUp) p) := by
  have deadline : (ofMachine (m.retime (some ⟨d, e⟩) m.catchUp) p).timerDeadline = e := rfl
  have mode : (ofMachine (m.retime (some ⟨d, e⟩) m.catchUp) p).catchUp = m.catchUp := rfl
  unfold timerPhase Machine.timerPhase
  rw [run_bind_of_ok (EStateM.run_get _), deadline]
  by_cases due : reached e now = true
  · rw [if_pos due, if_pos due, run_bind_of_ok (EStateM.run_get _), mode]
    cases catchUp : m.catchUp with
    | true =>
      obtain ⟨m', e', spec, run⟩ := run_dueSteps m p now d e true timerHz
      have deadline' : (ofMachine (m'.retime (some ⟨d, e'⟩) true) p).timerDeadline = e' := rfl
      refine ⟨m', _, spec, ?_⟩
      simp only [if_true]
      unfold catchUpSteps
      rw [run_bind_of_ok run, run_bind_of_ok (EStateM.run_get _), deadline']
      unfold Machine.cutDeadline
      split <;> rfl
    | false =>
      refine ⟨m.stepTimers, _, rfl, ?_⟩
      simp only [Bool.false_eq_true, if_false]
      rw [run_bind_of_ok (run_stepTimers _ p)]
      rfl
  · rw [if_neg due, if_neg due]
    have idle : Machine.overdueSteps now timerHz m e = (m, e) := by
      unfold timerHz Machine.overdueSteps
      rw [if_neg due]
    refine ⟨m, e, ?_, rfl⟩
    split
    · exact idle
    · rfl

private theorem run_anchor (now : τ) :
    (anchor now).run (ofMachine m p) = .ok () (ofMachine (m.retime (some (m.scheduleAt now)) m.catchUp) p) := by
  have anchored : (ofMachine m p).anchored = m.schedule.isSome := rfl
  unfold anchor
  rw [run_bind_of_ok (EStateM.run_get _), anchored]
  cases schedule : m.schedule with
  | none => simp [ofMachine, Machine.retime, Machine.scheduleAt, schedule]
  | some s => simp [ofMachine, Machine.retime, Machine.scheduleAt, schedule]

/-- A tick does on the bare form of a machine what it does on the machine. -/
theorem run_tick (fit : m.Fit) (now : τ) : ∃ q, (tick now).run (ofMachine m p) = ending q (m.tick now) := by
  have off : (ofMachine m p).halted = m.halted := rfl
  unfold tick Machine.tick
  rw [run_bind_of_ok (EStateM.run_get _), off]
  by_cases halted : m.halted = true
  · rw [if_pos halted, if_pos halted]
    exact ⟨p, rfl⟩
  · rw [if_neg halted, if_neg halted, run_bind_of_ok (run_anchor m p now)]
    have mode := m.catchUp_slotPhase now (m.scheduleAt now).instruction
    obtain ⟨q, m', d', f, spec, run⟩ :=
      run_slotPhase m p fit now (m.scheduleAt now).instruction (m.scheduleAt now).timer
    rw [spec] at mode ⊢
    cases f with
    | some f =>
      refine ⟨q, ?_⟩
      rw [run_bind_of_error run, ← mode]
      rfl
    | none =>
      obtain ⟨m'', e', spec', run'⟩ := run_timerPhase m' q now d' (m.scheduleAt now).timer
      have mode' := m'.catchUp_timerPhase now (m.scheduleAt now).timer
      rw [spec'] at mode'
      refine ⟨q, ?_⟩
      simp only []
      rw [run_bind_of_ok run, ← mode, run', spec', ← mode']
      rfl

/-! ### Loading, resetting and keys -/

private theorem store_zeros (x : Memory) : x.store 0 (List.replicate memorySize 0) = Memory.blank := by
  have length : (List.replicate memorySize (0 : UInt8)).length = 4096 := List.length_replicate
  have stored := x.toList_store 0 (List.replicate memorySize 0) (by omega)
  have zeros : Memory.blank.cells.toList = List.replicate memorySize 0 := Vector.toList_replicate
  have rest : x.cells.toList.drop 4096 = [] := List.drop_eq_nil_of_le (Nat.le_of_eq Vector.length_toList)
  rw [length, Nat.zero_add, rest, List.take_zero, List.append_nil, List.nil_append, ← zeros] at stored
  exact Memory.eq_of_toList stored

private theorem setFrom_zeros (x : Registers) : x.setFrom 0 (List.replicate 16 0) = Registers.zeros := by
  have length : (List.replicate 16 (0 : UInt8)).length = 16 := List.length_replicate
  have stored := x.toList_setFrom 0 (List.replicate 16 0) (by omega)
  have zeros : Registers.zeros.bytes.toList = List.replicate 16 0 := Vector.toList_replicate
  have rest : x.bytes.toList.drop 16 = [] := List.drop_eq_nil_of_le (Nat.le_of_eq Vector.length_toList)
  rw [length, Nat.zero_add, rest, List.take_zero, List.append_nil, List.nil_append, ← zeros] at stored
  exact Registers.eq_of_toList stored

/-- A reset does on the bare form of a machine what it does on the machine. -/
theorem run_reset (fit : m.Fit) : reset.run (ofMachine m p) = .ok () (ofMachine m.reset p) := by
  have room : programStart + m.program.length ≤ 4096 := by
    have room := fit.program
    unfold maxProgramSize memorySize at room
    unfold programStart at room ⊢
    omega
  have size : (ofMachine m p).memory.length = 4096 := Vector.length_toList
  have zeros : 0 + (List.replicate memorySize (0 : UInt8)).length = (ofMachine m p).memory.length := by
    rw [size, List.length_replicate]
    rfl
  -- one machine after each store
  let cleared : Machine τ := { m with memory := Memory.blank }
  let lettered : Machine τ := { m with memory := Memory.blank.store 0 font }
  let loaded : Machine τ := { m with memory := Memory.powerOn m.program }
  let emptied : Machine τ := { loaded with registers := Registers.zeros }
  have clear : (storeMemory 0 (ofMachine m p).memory.length (List.replicate memorySize 0)).run (ofMachine m p) =
      .ok () (ofMachine cleared p) := by
    rw [run_storeMemory m p zeros (Nat.le_of_eq size), store_zeros]
  have letter : (storeMemory 0 font.length font).run (ofMachine cleared p) = .ok () (ofMachine lettered p) :=
    run_storeMemory cleared p (Nat.zero_add _) (by decide)
  have load : (storeMemory programStart (programStart + m.program.length) m.program).run (ofMachine lettered p) =
      .ok () (ofMachine loaded p) := run_storeMemory lettered p rfl room
  have empty : (storeRegisters 0 (ofMachine loaded p).registers.length (List.replicate 16 0)).run
      (ofMachine loaded p) = .ok () (ofMachine emptied p) := by
    have width : (ofMachine loaded p).registers.length = 16 := Vector.length_toList
    rw [width, run_storeRegisters loaded p List.length_replicate (Nat.le_refl _), setFrom_zeros]
  unfold reset
  rw [run_bind_of_ok (EStateM.run_get _), run_bind_of_ok clear, run_bind_of_ok letter,
    run_bind_of_ok (EStateM.run_get _), run_bind_of_ok (EStateM.run_get _)]
  have same : (ofMachine lettered p).program = m.program := rfl
  rw [same, run_bind_of_ok load, run_bind_of_ok (EStateM.run_get _), run_bind_of_ok empty,
    run_bind_of_ok (EStateM.run_modify _ _), run_bind_of_ok (EStateM.run_modify _ _),
    run_bind_of_ok (EStateM.run_modify _ _)]
  let settled : Machine τ := { emptied with
    stack := CallStack.empty, pc := programStart, index := 0, delay := 0, sound := 0, awaiting := none, halted := false,
    count := 0 }
  have slots : CallStack.empty.slots.toList = List.replicate 16 0 := Vector.toList_replicate
  have settle : ofMachine settled p = { ofMachine emptied p with
      stack := List.replicate 16 0, stackPointer := 0, pc := programStart, index := 0, delay := 0, sound := 0,
      runState := .running, keyTarget := none, halted := false, count := 0 } := by
    rw [← slots]
    rfl
  simp only []
  rw [← settle, run_bind_of_ok (run_clearDisplay settled p)]
  rfl

/-- Loading does on the bare form of a machine what it does on the machine. -/
theorem run_load (image : List UInt8) :
    (load image).run (ofMachine m p) =
      match m.load image with
      | .ok n => .ok () (ofMachine n p)
      | .error e => .error (.trouble (.image e)) (ofMachine m p) := by
  unfold load
  rw [m.load_eq]
  by_cases large : maxProgramSize < image.length
  · rw [if_pos large, if_pos large]
    rfl
  · have room : programStart + image.length ≤ 4096 := by
      unfold maxProgramSize memorySize programStart at large
      unfold programStart
      omega
    have size : (ofMachine m p).memory.length = 4096 := Vector.length_toList
    have behind :
        programStart + (List.replicate maxProgramSize (0 : UInt8)).length = (ofMachine m p).memory.length := by
      rw [size, List.length_replicate]
      rfl
    let cleared : Machine τ :=
      { m with memory := m.memory.store programStart (List.replicate maxProgramSize 0) }
    have clear : (storeMemory programStart (ofMachine m p).memory.length (List.replicate maxProgramSize 0)).run
        (ofMachine m p) = .ok () (ofMachine cleared p) := by
      rw [run_storeMemory m p behind (Nat.le_of_eq size)]
    have store : (storeMemory programStart (programStart + image.length) image).run (ofMachine cleared p) =
        .ok () (ofMachine { m with memory := m.memory.withProgram image } p) := by
      rw [run_storeMemory cleared p rfl room, Memory.withProgram]
    rw [if_neg large, if_neg large, run_bind_of_ok (EStateM.run_get _), run_bind_of_ok clear, run_bind_of_ok store]
    rfl

private theorem run_setPressed (key : Int) (pressed : Bool) :
    (setPressed key pressed).run (ofMachine m p) =
      .ok () (ofMachine { m with keypad := m.keypad.set key pressed } p) := by
  unfold setPressed Keypad.set
  cases found : Key.ofInt? key with
  | none =>
    rw [if_neg ((Key.ofInt?_eq_none_iff key).1 found)]
    rfl
  | some k =>
    obtain rfl := Key.eq_val_of_ofInt? found
    have held : (ofMachine m p).pressed[k.val]? = some m.keypad.held[k] := by simp [ofMachine]
    have room : k.val < (ofMachine m p).pressed.length := by simp [ofMachine]
    have stored : (ofMachine m p).pressed.set k.val pressed = (m.keypad.held.set k pressed).toList := by
      simp [ofMachine, Vector.toList_set]
    have tracking : (ofMachine m p).tracking = m.keypad.tracking := rfl
    rw [if_pos (by omega), run_bind_of_ok (EStateM.run_get _), run_bind_of_ok (run_entry held _),
      run_bind_of_ok (EStateM.run_get _), run_bind_of_ok (run_replace room pressed _), stored,
      run_bind_of_ok (EStateM.run_modify _ _), run_bind_of_ok (EStateM.run_get _)]
    simp only [tracking]
    by_cases tap : (m.keypad.tracking && m.keypad.held[k] && !pressed) = true
    · rw [if_pos tap, if_pos tap]
      rfl
    · rw [if_neg tap, if_neg tap]
      rfl

private theorem run_releaseAll :
    releaseAll.run (ofMachine m p) = .ok () (ofMachine { m with keypad := m.keypad.releaseAll } p) := by
  have none_held : m.keypad.held.toList.map (fun _ => false) = (Vector.replicate 16 false).toList := by
    rw [List.map_const', Vector.length_toList, Vector.toList_replicate]
  unfold releaseAll
  rw [EStateM.run_modify]
  simp only [ofMachine, Keypad.releaseAll, none_held]

/-! ### Commands -/

private theorem apply_of_run {c : Command τ} {r : Machine τ × Option Fault} {q : Nat}
    (h : (command c).run (ofMachine m p) = ending q r) :
    (ofMachine m p).apply c = (ofMachine r.1 q, (r.2.map Trouble.fault).map Stop.trouble) := by
  obtain ⟨n, _ | f⟩ := r <;> simp only [apply, act, h, ending] <;> rfl

theorem apply_execute_ofMachine (fit : m.Fit) :
    (ofMachine m p).apply .execute =
      (ofMachine m.execute.1 (fetchedAt m p), (m.execute.2.map Trouble.fault).map Stop.trouble) :=
  apply_of_run m p (run_execute m p fit)

theorem apply_reset_ofMachine (fit : m.Fit) : (ofMachine m p).apply .reset = (ofMachine m.reset p, none) :=
  apply_of_run m p (r := (m.reset, none)) (run_reset m p fit)

/-- A command does on the bare form of a machine what it does on the machine, and ends early just if the machine
reports trouble. -/
theorem apply_ofMachine (fit : m.Fit) (c : Command τ) :
    ∃ q, (ofMachine m p).apply c = (ofMachine (m.apply c).1 q, (m.apply c).2.map Stop.trouble) := by
  cases c with
  | load image =>
    refine ⟨p, ?_⟩
    simp only [apply, act, command, run_load, Machine.apply]
    cases m.load image <;> rfl
  | reset => exact ⟨p, apply_reset_ofMachine m p fit⟩
  | execute => exact ⟨_, apply_execute_ofMachine m p fit⟩
  | tick now =>
    obtain ⟨q, run⟩ := run_tick m p fit now
    exact ⟨q, apply_of_run m p run⟩
  | setKey key pressed => exact ⟨p, apply_of_run m p (r := (_, none)) (run_setPressed m p key pressed)⟩
  | releaseAll => exact ⟨p, apply_of_run m p (r := (_, none)) (run_releaseAll m p)⟩
  | setCatchUp catchUp => exact ⟨p, rfl⟩

/-- A bare machine goes through the bare forms of the states that the machine goes through. -/
theorem after_ofMachine (fit : m.Fit) (h : List (Command τ)) :
    ∃ q, (ofMachine m p).after h = ofMachine (m.after h) q := by
  induction h generalizing m p with
  | nil => exact ⟨p, rfl⟩
  | cons c rest ih =>
    obtain ⟨q, step⟩ := apply_ofMachine m p fit c
    obtain ⟨q', run⟩ := ih _ q (fit.apply c)
    refine ⟨q', ?_⟩
    rw [after, step]
    exact run

/-- A new bare machine is the bare form of a new machine, and its first reset ends. -/
theorem apply_reset_blank (random : RandomSource) (catchUp : Bool) :
    (blank random catchUp).apply .reset =
      (ofMachine (Machine.fresh random catchUp : Machine τ) programStart, none) := by
  let off : Machine τ := { Machine.fresh random catchUp with memory := Memory.blank }
  have fit : off.Fit := ⟨Nat.zero_le _, fun x waits => by simp [off, Machine.fresh] at waits, Nat.zero_le _⟩
  have same : blank random catchUp = ofMachine off programStart := by
    have memory : off.memory.cells.toList = List.replicate memorySize 0 := Vector.toList_replicate
    have registers : off.registers.bytes.toList = List.replicate 16 0 := Vector.toList_replicate
    have stack : off.stack.slots.toList = List.replicate 16 0 := Vector.toList_replicate
    have pixels : off.display.pixels.toList.map lamp = List.replicate 2048 0 := map_lamp_blank
    have pressed : off.keypad.held.toList = List.replicate 16 false := Vector.toList_replicate
    rw [ofMachine, memory, registers, stack, pixels, pressed]
    rfl
  rw [same]
  exact apply_reset_ofMachine off programStart fit

theorem fresh_eq (random : RandomSource) (catchUp : Bool) :
    fresh random catchUp = ofMachine (Machine.fresh random catchUp : Machine τ) programStart := by
  rw [fresh, apply_reset_blank]

/-- A history brings a new bare machine to the bare form of what it brings a new machine to. -/
theorem after_fresh (random : RandomSource) (catchUp : Bool) (h : List (Command τ)) :
    ∃ p, (fresh random catchUp).after h = ofMachine ((Machine.fresh random catchUp).after h) p := by
  rw [fresh_eq]
  exact after_ofMachine _ programStart (Machine.Sound.fresh random catchUp).toFit h

end BareMachine

end Chip8
