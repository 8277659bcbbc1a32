import Chip8.Proofs.Bare.Histories
import Chip8.Proofs.Footprint

/-!
# A reset is a fresh start

A machine that is reset differs from a new one with the same program in nothing but the keys that are held, the source
of random bytes and the way to deal with late ticks, whatever happened to it before.  Of the bare form this leaves out
the address of the instruction that was fetched last, which a reset leaves alone; `BareMachine.transcript` shows that
nobody ever sees it: from then on both machines answer all calls in the same way.
-/

namespace Chip8

/-- Something that a host can call: a command, or the watch of the keypad itself. -/
inductive Call (τ : Type) where
  | command (c : Command τ)
  /-- Start to watch for a released key. -/
  | arm
  /-- Stop watching, and forget the released key. -/
  | disarm
deriving DecidableEq

/-- The program after a call, given the one before it: an image that is not refused takes its place. -/
def Call.program {τ : Type} (before : List UInt8) : Call τ → List UInt8
  | .command (.load image) =>
    match fitImage image with
    | .ok () => image
    | .error _ => before
  | _ => before

/-- The last image of some calls that was not refused, given the one from before them. -/
def lastImage {τ : Type} (before : List UInt8) : List (Call τ) → List UInt8
  | [] => before
  | c :: rest => lastImage (c.program before) rest

namespace Machine

section Program

variable {τ : Type}

private theorem program_play (m : Machine τ) (vs : List Move) : (m.play vs).program = m.program := by
  induction vs generalizing m with
  | nil => rfl
  | cons v vs ih =>
    have step : (m.move v).program = m.program := by
      cases v with
      | slot => exact m.keeps_execute_of_hosts (p := .program) (by decide) (by decide)
      | timers | setKey | releaseAll => rfl
    rw [play, ih, step]

end Program

variable {τ : Type} [TimeBase τ]

def answer (m : Machine τ) : Call τ → Machine τ × Option Trouble
  | .command c => m.apply c
  | .arm => ({ m with keypad := m.keypad.arm }, none)
  | .disarm => ({ m with keypad := m.keypad.disarm }, none)

def afterCalls (m : Machine τ) : List (Call τ) → Machine τ
  | [] => m
  | c :: rest => (m.answer c).1.afterCalls rest

/-- The machines and the troubles that come of some calls. -/
def transcript (m : Machine τ) : List (Call τ) → List (Machine τ × Option Trouble)
  | [] => []
  | c :: rest => m.answer c :: (m.answer c).1.transcript rest

theorem Fit.answer {m : Machine τ} (fit : m.Fit) (c : Call τ) : (m.answer c).1.Fit := by
  cases c with
  | command c => exact fit.apply c
  | arm | disarm => exact { fit with }

private theorem program_answer (m : Machine τ) (c : Call τ) : (m.answer c).1.program = c.program m.program := by
  cases c with
  | arm | disarm => rfl
  | command c =>
    cases c with
    | load image =>
      simp only [answer, apply, load_eq, Call.program, fitImage]
      by_cases large : maxProgramSize < image.length
      · rw [if_pos large, if_pos large]
      · rw [if_neg large, if_neg large]
    | execute => exact m.keeps_execute_of_hosts (p := .program) (by decide) (by decide)
    | tick now =>
      obtain ⟨s, eq⟩ := m.tick_eq_play now
      change (m.tick now).1.program = m.program
      rw [eq]
      exact m.program_play _
    | reset | setKey | releaseAll | setCatchUp => rfl

/-- Only images that are not refused change the program. -/
theorem program_afterCalls (m : Machine τ) (h : List (Call τ)) : (m.afterCalls h).program = lastImage m.program h := by
  induction h generalizing m with
  | nil => rfl
  | cons c rest ih => rw [afterCalls, ih, program_answer, lastImage]

theorem Fit.afterCalls {m : Machine τ} (fit : m.Fit) (h : List (Call τ)) : (m.afterCalls h).Fit := by
  induction h generalizing m with
  | nil => exact fit
  | cons c rest ih => exact ih (fit.answer c)

end Machine

namespace BareMachine

variable {τ : Type} [TimeBase τ]

def answer (s : BareMachine τ) : Call τ → BareMachine τ × Option Stop
  | .command c => s.apply c
  | .arm => s.act arm
  | .disarm => s.act disarm

def afterCalls (s : BareMachine τ) : List (Call τ) → BareMachine τ
  | [] => s
  | c :: rest => (s.answer c).1.afterCalls rest

/-- Everything but the address of the instruction that was fetched last. -/
def seen (s : BareMachine τ) : BareMachine τ := { s with opPc := programStart }

/-- What can be seen of the machine after each of some calls, and why the call ended early, if it did. -/
def transcript (s : BareMachine τ) : List (Call τ) → List (BareMachine τ × Option Stop)
  | [] => []
  | c :: rest => ((s.answer c).1.seen, (s.answer c).2) :: (s.answer c).1.transcript rest

/-- A call does on the bare form of a machine what it does on the machine. -/
theorem answer_ofMachine {m : Machine τ} (fit : m.Fit) (p : Nat) (c : Call τ) :
    ∃ q, (ofMachine m p).answer c = (ofMachine (m.answer c).1 q, (m.answer c).2.map Stop.trouble) := by
  cases c with
  | command c => exact apply_ofMachine m p fit c
  | arm | disarm => exact ⟨p, rfl⟩

theorem afterCalls_ofMachine {m : Machine τ} (fit : m.Fit) (p : Nat) (h : List (Call τ)) :
    ∃ q, (ofMachine m p).afterCalls h = ofMachine (m.afterCalls h) q := by
  induction h generalizing m p with
  | nil => exact ⟨p, rfl⟩
  | cons c rest ih =>
    obtain ⟨q, step⟩ := answer_ofMachine fit p c
    rw [afterCalls, step]
    exact ih (fit.answer c) q

/-- What can be seen of the bare form of a machine is what becomes of the machine: the address of the instruction that
was fetched last has no say in it. -/
theorem transcript_ofMachine {m : Machine τ} (fit : m.Fit) (p : Nat) (calls : List (Call τ)) :
    (ofMachine m p).transcript calls =
      (m.transcript calls).map fun r => (ofMachine r.1 programStart, r.2.map Stop.trouble) := by
  induction calls generalizing m p with
  | nil => rfl
  | cons c rest ih =>
    obtain ⟨q, step⟩ := answer_ofMachine fit p c
    have rest := ih (fit.answer c) q
    rw [transcript, step, Machine.transcript, List.map_cons, ← rest]
    rfl

/-- The bare form of a machine with the held keys, the source of random bytes and the way to deal with late ticks of
another one. -/
def adopt (s t : BareMachine τ) : BareMachine τ :=
  { s with pressed := t.pressed, random := t.random, catchUp := t.catchUp }

private theorem adopt_reset {m n : Machine τ} (same : n.program = m.program) (p q : Nat) :
    (ofMachine n.reset q).adopt (ofMachine m.reset p) = ofMachine m.reset q := by
  unfold adopt ofMachine Machine.reset
  rw [same]
  rfl

private theorem apply_load_fresh (random : RandomSource) (catchUp : Bool) {image : List UInt8}
    (small : image.length ≤ maxProgramSize) :
    ∃ (n : Machine τ) (q : Nat), (fresh random catchUp).apply (.load image) = (ofMachine n q, none) ∧
      n.Fit ∧ n.program = image := by
  let m : Machine τ := Machine.fresh random catchUp
  have fit : m.Fit := (Machine.Sound.fresh random catchUp).toFit
  let n : Machine τ := { m with memory := m.memory.withProgram image, program := image }
  have accepted : m.apply (.load image) = (n, none) := by
    simp only [Machine.apply, m.load_eq]
    rw [if_neg (Nat.not_lt_of_le small)]
  obtain ⟨q, load⟩ := apply_ofMachine m programStart fit (.load image)
  rw [accepted, ← fresh_eq] at load
  exact ⟨n, q, load, ⟨fit.depth, fit.target, small⟩, rfl⟩

/-- A machine that is reset differs from a new one on which the last image was loaded before its reset only in the held
keys, the source of random bytes, the way to deal with late ticks and the address of the instruction that was fetched
last; and no further calls tell the two apart, given that they agree on the first three. -/
theorem reset_restores (random random' : RandomSource) (catchUp catchUp' : Bool) (h : List (Call τ)) :
    let m := (Machine.fresh random catchUp).afterCalls h
    let old := ((fresh random catchUp).afterCalls h).apply .reset
    let loaded := (fresh random' catchUp').apply (.load (lastImage [] h))
    let new := loaded.1.apply .reset
    (∃ p, (fresh random catchUp).afterCalls h = ofMachine m p ∧ old.1 = ofMachine m.reset p) ∧
      old.2 = none ∧ loaded.2 = none ∧ new.2 = none ∧ old.1.seen = (new.1.adopt old.1).seen ∧
      ∀ calls, old.1.transcript calls = (new.1.adopt old.1).transcript calls := by
  intro m old loaded new
  have start : (Machine.fresh random catchUp : Machine τ).Fit := (Machine.Sound.fresh random catchUp).toFit
  have fit : m.Fit := start.afterCalls h
  have program : m.program = lastImage [] h := Machine.program_afterCalls _ h
  -- the state before the reset, and after it
  obtain ⟨p, before⟩ := afterCalls_ofMachine start programStart h
  rw [← fresh_eq] at before
  have reset : old = (ofMachine m.reset p, none) := by
    unfold old
    rw [before, apply_reset_ofMachine m p fit]
  -- the new machine, which has the same program
  have small : (lastImage [] h).length ≤ maxProgramSize := by
    rw [← program]
    exact fit.program
  obtain ⟨n, q, load, fit', program'⟩ : ∃ (n : Machine τ) (q : Nat),
      loaded = (ofMachine n q, none) ∧ n.Fit ∧ n.program = lastImage [] h := apply_load_fresh random' catchUp' small
  have restart : new = (ofMachine n.reset q, none) := by
    unfold new
    rw [load, apply_reset_ofMachine n q fit']
  -- but for the address of the instruction that was fetched last, it then is the old one
  have adopted : (ofMachine n.reset q).adopt (ofMachine m.reset p) = ofMachine m.reset q :=
    adopt_reset (program'.trans program.symm) p q
  have fit'' : m.reset.Fit := fit.apply .reset
  rw [reset, load, restart, adopted]
  refine ⟨⟨p, before, rfl⟩, rfl, rfl, rfl, rfl, ?_⟩
  intro calls
  rw [transcript_ofMachine fit'' p, transcript_ofMachine fit'' q]

end BareMachine

end Chip8
