import Chip8.Proofs.Host.Keys
import Chip8.Proofs.Host.Loop

/-!
# What the window does to its machine

For the machine, all that a window amounts to are the events that reach its keypad and the ticks.  `Machine.hosted` says
what becomes of a machine by these alone, with no window, no speaker and no display; a run of a window does just that to
its machine, and ends with just that fault (`Window.run_eq_hosted`).
-/

namespace Chip8

/-- What an event does to a machine, if it does anything. -/
def HostEvent.command? {τ : Type} : HostEvent → Option (Command τ)
  | .keyDown code => (keyOf? code).map fun key => .setKey key.val true
  | .keyUp code => (keyOf? code).map fun key => .setKey key.val false
  | .focusLost => some .releaseAll
  | .quit | .other => none

/-- What becomes of a machine with a host. -/
structure Hosted (τ : Type) where
  /-- The machine after each tick, but for one that faults. -/
  ticked : List (Machine τ)
  last : Machine τ
  fault : Option Fault

variable {τ : Type} [TimeBase τ]

/-- What becomes of a machine by the events and the ticks of a script.  All events that have come up are passed on
before a tick; if somebody has asked to quit by then, there is no tick any more. -/
def Machine.hosted (m : Machine τ) (asked : Bool) : List (τ × List HostEvent) → Hosted τ
  | [] => ⟨[], m, none⟩
  | (now, events) :: rest =>
    let m := m.after (events.filterMap HostEvent.command?)
    let asked := asked || events.any HostEvent.asksToQuit
    if asked then ⟨[], m, none⟩
    else match m.tick now with
      | (m, some fault) => ⟨[], m, some fault⟩
      | (m, none) =>
        let later := m.hosted asked rest
        { later with ticked := m :: later.ticked }

namespace Window

/-- An event reaches the machine as its command. -/
private theorem keypad_handle (m : Machine τ) (asked : Bool) (e : HostEvent) :
    { m with keypad := (Input.handle ⟨m.keypad, asked⟩ e).keypad } = m.after e.command?.toList := by
  have sent (code : Int) (pressed : Bool) :
      { m with keypad := (Input.send ⟨m.keypad, asked⟩ code pressed).keypad } =
        m.after ((keyOf? code).map fun key => Command.setKey key.val pressed).toList := by
    unfold Input.send
    cases keyOf? code <;> rfl
  cases e with
  | keyDown code =>
    by_cases escape : code = escapeCode
    · -- Escape is no key of the keypad
      subst escape
      rfl
    · rw [Input.handle, if_neg escape]
      exact sent code true
  | keyUp code => exact sent code false
  | quit | focusLost | other => rfl

private theorem handleEvents_singleton (w : Window τ) (e : HostEvent) :
    w.handleEvents [e] =
      { w with
        machine := w.machine.after e.command?.toList
        quitRequested := w.quitRequested || e.asksToQuit } := by
  have asked := Input.quitRequested_handle ⟨w.machine.keypad, w.quitRequested⟩ e
  rw [← keypad_handle w.machine w.quitRequested, ← asked]
  rfl

/-- Events reach the machine as their commands, and may ask to quit. -/
theorem handleEvents_eq (w : Window τ) (events : List HostEvent) :
    w.handleEvents events =
      { w with
        machine := w.machine.after (events.filterMap HostEvent.command?)
        quitRequested := w.quitRequested || events.any HostEvent.asksToQuit } := by
  induction events generalizing w with
  | nil => simp [handleEvents, Input.handleAll, Machine.after]
  | cons e rest ih =>
    have split : w.handleEvents (e :: rest) = (w.handleEvents [e]).handleEvents rest := rfl
    rw [split, ih, handleEvents_singleton, List.any_cons, Bool.or_assoc]
    cases command : (e.command? : Option (Command τ)) with
    | none => rw [List.filterMap_cons_none command]; rfl
    | some c => rw [List.filterMap_cons_some command]; rfl

/-- What becomes of the machine in a run. -/
def Run.hosted (run : Run τ) : Hosted τ := ⟨run.rounds.map (·.1.machine), run.last.machine, run.fault⟩

/-- Whatever the window is like, its rounds do to the machine what the events and the ticks do. -/
theorem hosted_rounds (w : Window τ) (script : List (τ × List HostEvent)) :
    (w.rounds script).hosted = w.machine.hosted w.quitRequested script := by
  induction script generalizing w with
  | nil => rfl
  | cons entry rest ih =>
    obtain ⟨now, events⟩ := entry
    have way := w.way_round now events
    have machine : (w.handleEvents events).machine = w.machine.after (events.filterMap HostEvent.command?) := by
      rw [handleEvents_eq]
    have asked : (w.handleEvents events).quitRequested =
        (w.quitRequested || events.any HostEvent.asksToQuit) := by
      rw [handleEvents_eq]
    rw [rounds, Machine.hosted, ← machine, ← asked]
    generalize w.round now events = r at way ⊢
    cases way with
    | stopped asked =>
      rw [if_pos asked]
      rfl
    | faulted unasked tick =>
      simp only [unasked, Bool.false_eq_true, if_false, tick]
      rfl
    | @continued unasked next tick _ _ quitRequested =>
      have later := ih next
      simp only [Run.hosted, quitRequested] at later
      simp only [unasked, Bool.false_eq_true, if_false, tick, ← later]
      rfl

/-- A window that was made for a machine is a fresh one with some speaker. -/
theorem exists_speaker_of_create {m : Machine τ} {scale : Int} {mixer : Mixer} {sound : Bool} {w : Window τ}
    {made : List MixerCall} (created : create m scale mixer sound = .ok (w, made)) :
    ∃ speaker, Speaker.create mixer sound = .ok (speaker, made) ∧ w = fresh m scale speaker := by
  unfold create at created
  split at created
  · contradiction
  · rename_i speaker calls spoken
    obtain ⟨rfl, rfl⟩ := Prod.mk.inj (Except.ok.inj created)
    exact ⟨speaker, spoken, rfl⟩

/-- The loop of a window adds nothing to its machine.  Whatever window it is, the machine goes through what the events
and the ticks make of it alone, and its fault is all that can end the loop early.  Turning the tone on or off, showing
the display and shutting down the speaker do not change the machine and always come to their end.  A window that was
made for a machine has just that machine, and nobody has asked it to quit. -/
theorem run_eq_hosted (w : Window τ) (calls : List MixerCall) (start : τ) (script : List (τ × List HostEvent)) :
    let fold := w.machine.hosted w.quitRequested script
    let left := (Host.opened w calls).act (Host.run start script)
    (w.run start script).hosted = fold ∧
      left.1.rounds.map (·.machine) = fold.ticked ∧
      left.1.window.machine = fold.last ∧
      left.2 = fold.fault.map Interruption.fault ∧
      (∀ (h : Host τ) (active : Bool),
        ∃ next, (Host.updateTone active).run h = .ok () next ∧ next.window.machine = h.window.machine) ∧
      (∀ (h : Host τ) (now : τ),
        ∃ next, (Host.present now).run h = .ok () next ∧ next.window.machine = h.window.machine) ∧
      (∀ h : Host τ, ∃ next, Host.shutDown.run h = .ok () next ∧ next.window.machine = h.window.machine) ∧
      ∀ (m : Machine τ) (scale : Int) (mixer : Mixer) (sound : Bool) (v : Window τ) (made : List MixerCall),
        create m scale mixer sound = .ok (v, made) → v.machine = m ∧ v.quitRequested = false := by
  intro fold left
  have hosted : (w.run start script).hosted = fold := hosted_rounds (w.start start) script
  have run : left = _ := Host.act_run (Host.opened w calls) start script
  refine ⟨hosted, ?_, ?_, ?_, ?_, ?_, ?_, ?_⟩
  · rw [run, ← hosted]
    simp [Host.behind, Host.opened, Run.hosted]
  · rw [run, ← hosted]
    rfl
  · rw [run, ← hosted]
    rfl
  · intro h active
    exact ⟨_, h.run_updateTone active, rfl⟩
  · intro h now
    obtain ⟨nextPresent, shown, countedFrom, fps, picture, present⟩ := h.window.exists_present_eq now
    exact ⟨_, h.run_present now, by rw [present]⟩
  · intro h
    exact ⟨_, h.run_shutDown, rfl⟩
  · intro m scale mixer sound v made created
    obtain ⟨speaker, -, rfl⟩ := exists_speaker_of_create created
    exact ⟨rfl, rfl⟩

/-- A key that is pressed after the window was closed still reaches the machine, but no tick does. -/
example :
    let fold := (Machine.fresh (.cycle [] 0) false : Machine Rat).hosted false [(0, [.quit, .keyDown 120])]
    fold.ticked = [] ∧ fold.last.keypad.isPressed 0 = true := by decide +kernel

end Window

end Chip8
