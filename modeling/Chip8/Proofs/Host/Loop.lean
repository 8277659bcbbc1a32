import Chip8.Proofs.Bare.Host

/-!
# The loop of the window and its bare form

`Window.Way` lists the ways in which a round of the window can go, so that what holds of every round is proved by cases
on it (`Window.way_round`).  The bare loop does what the loop of the window does (`Host.act_run`): it leaves the window
and the record that a run of the window describes, ends early just if the run has a fault, and has shut down the speaker
once.
-/

namespace Chip8

namespace Window

variable {τ : Type} [TimeBase τ]

/-- The ways in which a round can go. -/
inductive Way (w : Window τ) (now : τ) (events : List HostEvent) : Window τ × Outcome → Prop where
  /-- By the end of the events, somebody has asked to quit. -/
  | stopped (asked : (w.handleEvents events).quitRequested = true) :
      Way w now events ({ w.handleEvents events with running := false }, .stopped)
  /-- The machine faults. -/
  | faulted (unasked : (w.handleEvents events).quitRequested = false) {machine : Machine τ} {f : Fault}
      (tick : (w.handleEvents events).machine.tick now = (machine, some f)) :
      Way w now events ({ w.handleEvents events with machine := machine }, .faulted f)
  /-- The machine ticks, the tone follows it, and the display may be shown. -/
  | continued (unasked : (w.handleEvents events).quitRequested = false) {next : Window τ}
      (tick : (w.handleEvents events).machine.tick now = (next.machine, none))
      (speaker : next.speaker = (w.speaker.update next.machine.soundActive).1)
      (running : next.running = w.running) (quitRequested : next.quitRequested = false) :
      Way w now events (next, .continued (w.speaker.update next.machine.soundActive).2)

/-- Showing the display changes nothing else. -/
theorem exists_present_eq (w : Window τ) (now : τ) :
    ∃ nextPresent shown countedFrom fps picture, w.present now =
      { w with
        nextPresent := nextPresent, shown := shown, countedFrom := countedFrom, fps := fps, picture := picture } := by
  unfold present measure
  split
  · simp only []
    split <;> exact ⟨_, _, _, _, _, rfl⟩
  · exact ⟨_, _, _, _, _, rfl⟩

/-- A round goes one of the ways. -/
theorem way_round (w : Window τ) (now : τ) (events : List HostEvent) : w.Way now events (w.round now events) := by
  unfold round
  simp only []
  split
  · rename_i asked
    exact .stopped asked
  · rename_i unasked
    have unasked : (w.handleEvents events).quitRequested = false := by simpa using unasked
    split
    · rename_i tick
      exact .faulted unasked tick
    · rename_i machine tick
      obtain ⟨nextPresent, shown, countedFrom, fps, picture, present⟩ := exists_present_eq
        { w.handleEvents events with machine := machine, speaker := (w.speaker.update machine.soundActive).1 } now
      change Way w now events (Window.present { w.handleEvents events with
        machine := machine, speaker := (w.speaker.update machine.soundActive).1 } now, _)
      rw [present]
      exact .continued unasked tick rfl rfl unasked

end Window

namespace Host

variable {τ : Type}

/-! ### Events -/

private theorem run_send (h : Host τ) (code : Int) (pressed : Bool) :
    (send code pressed).run h =
      .ok () { h with
        window :=
          let input := Input.send ⟨h.window.machine.keypad, h.window.quitRequested⟩ code pressed
          { h.window with
            machine := { h.window.machine with keypad := input.keypad }
            quitRequested := input.quitRequested } } := by
  unfold send Input.send
  cases keyOf? code <;> rfl

private theorem run_handle (h : Host τ) (e : HostEvent) :
    (handle e).run h = .ok () { h with window := h.window.handleEvents [e] } := by
  cases e with
  | keyDown code =>
    let input : Input := ⟨h.window.machine.keypad, h.window.quitRequested⟩
    simp only [handle, Window.handleEvents, Input.handleAll, List.foldl_cons, List.foldl_nil]
    by_cases escape : code = escapeCode
    · have asked : input.handle (.keyDown code) = { input with quitRequested := true } := if_pos escape
      rw [if_pos escape, asked]
      rfl
    · have passed : input.handle (.keyDown code) = input.send code true := if_neg escape
      rw [if_neg escape, run_send, passed]
  | keyUp code => exact run_send h code false
  | quit | focusLost | other => rfl

private theorem run_poll (h : Host τ) (events : List HostEvent) :
    (poll events).run h = .ok () { h with window := h.window.handleEvents events } := by
  induction events generalizing h with
  | nil => rfl
  | cons e rest ih =>
    rw [poll, EStateM.run_bind, run_handle]
    exact ih _

/-! ### The speaker -/

/-- The host after an operation of its speaker. -/
def sounding (h : Host τ) (r : Speaker × List MixerCall) : Host τ :=
  { h with window := { h.window with speaker := r.1 }, calls := h.calls ++ r.2 }

theorem run_startTone (h : Host τ) : startTone.run h = .ok () (h.sounding h.window.speaker.start) := by
  cases channel : h.window.speaker.hasChannel <;>
    simp [startTone, changeSpeaker, changeWindow, call, sounding, Speaker.start, Speaker.channelCalls, channel]

theorem run_stopTone (h : Host τ) : stopTone.run h = .ok () (h.sounding h.window.speaker.stop) := by
  cases channel : h.window.speaker.hasChannel <;>
    simp [stopTone, changeSpeaker, changeWindow, call, sounding, Speaker.stop, Speaker.channelCalls, channel]

theorem run_updateTone (h : Host τ) (active : Bool) :
    (updateTone active).run h = .ok () (h.sounding (h.window.speaker.update active)) := by
  unfold updateTone Speaker.update
  rw [EStateM.run_bind, EStateM.run_get]
  simp only []
  split
  · exact run_startTone h
  · split
    · exact run_stopTone h
    · simp [sounding]

private theorem run_stopChannel (h : Host τ) :
    (stopChannel : HostAction τ Unit).run h =
      if h.window.speaker.mixer.stopFails then .error .mixer { h with calls := h.calls ++ [.stop] }
      else .ok () { h with calls := h.calls ++ [.stop] } := by
  unfold stopChannel
  simp only [call, EStateM.run_bind, EStateM.run_modify, EStateM.run_get]
  split <;> rfl

private theorem run_tryCatch (a : HostAction τ Unit) (f : Interruption → HostAction τ Unit) (h : Host τ) :
    (tryCatch a f).run h =
      match a.run h with
      | .ok () next => .ok () next
      | .error e next => (f e).run next := by
  change EStateM.tryCatch a f h = _
  unfold EStateM.tryCatch EStateM.run
  cases a h <;> rfl

/-- The exception of a mixer that refuses to stop the channel goes no further. -/
private theorem run_silence (h : Host τ) : silence.run h = .ok () { h with calls := h.calls ++ [.stop] } := by
  unfold silence
  rw [run_tryCatch, run_stopChannel]
  cases h.window.speaker.mixer.stopFails <;> rfl

/-- The host after its speaker was shut down. -/
def closed (h : Host τ) : Host τ := { h.sounding h.window.speaker.shutdown with shutdowns := h.shutdowns + 1 }

theorem run_shutDown (h : Host τ) : shutDown.run h = .ok () h.closed := by
  cases channel : h.window.speaker.hasChannel <;>
    cases running : h.window.speaker.mixerRunning <;>
    simp [shutDown, run_silence, changeSpeaker, changeWindow, call, closed, sounding, Speaker.shutdown,
      Speaker.channelCalls, Speaker.quitCalls, channel, running]

/-- Whichever way an action ends, the speaker is shut down behind it, which leaves no exception of its own. -/
private theorem run_finally (h : Host τ) (a : HostAction τ Unit) :
    (tryFinally a shutDown).run h =
      match a.run h with
      | .ok () next => .ok () next.closed
      | .error e next => .error e next.closed := by
  have shut (next : Host τ) : shutDown next = .ok () next.closed := run_shutDown next
  change EStateM.map Prod.fst (tryFinally' a fun _ => shutDown) h = _
  unfold EStateM.map tryFinally' EStateM.instMonadFinally EStateM.run
  cases result : a h <;> simp only [result, shut]

/-! ### Rounds -/

variable [TimeBase τ]

private theorem run_tick (h : Host τ) (now : τ) :
    (tick now).run h =
      match h.window.machine.tick now with
      | (machine, none) => .ok () { h with window := { h.window with machine := machine } }
      | (machine, some f) => .error (.fault f) { h with window := { h.window with machine := machine } } := by
  unfold tick
  rw [EStateM.run_bind, EStateM.run_get]
  simp only []
  rcases h.window.machine.tick now with ⟨machine, _ | f⟩ <;> rfl

private theorem run_measure (h : Host τ) (now : τ) :
    (measure now).run h = .ok () { h with window := h.window.measure now } := by
  simp only [measure, changeWindow, Window.measure, EStateM.run_bind, EStateM.run_modify, EStateM.run_get]
  split <;> rfl

theorem run_present (h : Host τ) (now : τ) :
    (present now).run h = .ok () { h with window := h.window.present now } := by
  simp only [present, changeWindow, Window.present, EStateM.run_bind, EStateM.run_get]
  split
  · exact run_measure _ now
  · rfl

private theorem run_round (h : Host τ) (now : τ) (events : List HostEvent) :
    (round now events).run h =
      match h.window.round now events with
      | (next, .continued calls) =>
        .ok () { h with window := next, calls := h.calls ++ calls, rounds := h.rounds ++ [next] }
      | (next, .stopped) => .ok () { h with window := next }
      | (next, .faulted f) => .error (.fault f) { h with window := next } := by
  simp only [round, Window.round, EStateM.run_bind, run_poll, EStateM.run_get]
  split
  · rfl
  · simp only [EStateM.run_bind, run_tick]
    rcases (h.window.handleEvents events).machine.tick now with ⟨machine, _ | f⟩
    · simp only [EStateM.run_get, run_updateTone, sounding, run_present]
      rfl
    · rfl

/-! ### Runs -/

/-- The host behind a run of its window. -/
def behind (h : Host τ) (run : Window.Run τ) : Host τ :=
  ⟨run.last, h.calls ++ run.rounds.flatMap (·.2) ++ run.calls, h.rounds ++ run.rounds.map (·.1), h.shutdowns + 1⟩

omit [TimeBase τ] in
private theorem closed_eq_behind (h : Host τ) (w : Window τ) (fault : Option Fault) :
    ({ h with window := w } : Host τ).closed = h.behind (w.finish fault) := by
  simp [closed, sounding, behind, Window.finish]

private theorem run_loop (h : Host τ) (on : h.window.running = true) (now : τ)
    (script : List (τ × List HostEvent)) :
    (tryFinally (loop now script) shutDown).run h =
      match (h.window.rounds script).fault with
      | none => .ok () (h.behind (h.window.rounds script))
      | some f => .error (.fault f) (h.behind (h.window.rounds script)) := by
  rw [run_finally]
  induction script generalizing h now with
  | nil =>
    have quit : h.window.round now [.quit] =
        ({ h.window with quitRequested := true, running := false }, .stopped) := rfl
    rw [loop, run_round, quit]
    simp only []
    rw [closed_eq_behind _ _ none]
    rfl
  | cons entry rest ih =>
    obtain ⟨time, events⟩ := entry
    rw [loop, EStateM.run_bind, run_round, Window.rounds]
    have way := h.window.way_round time events
    generalize h.window.round time events = r at way ⊢
    cases way with
    | continued _ _ _ running =>
      have on' := running.trans on
      simp only [EStateM.run_bind, EStateM.run_get]
      rw [if_pos on', ih _ on']
      simp [behind]
    | stopped =>
      -- the loop sees that the window is not running any more
      simp only [EStateM.run_bind, EStateM.run_get]
      rw [if_neg Bool.false_ne_true, EStateM.run_pure]
      simp only []
      rw [closed_eq_behind _ _ none]
      rfl
    | faulted =>
      simp only []
      rw [closed_eq_behind _ _ (some _)]
      rfl

/-- The bare loop leaves what a run of the window describes, and ends early just with its fault. -/
theorem act_run (h : Host τ) (now : τ) (script : List (τ × List HostEvent)) :
    h.act (run now script) =
      (h.behind (h.window.run now script), (h.window.run now script).fault.map Interruption.fault) := by
  have result := run_loop { h with window := h.window.start now } rfl now script
  have begun : (run now script).run h =
      (tryFinally (loop now script) shutDown).run { h with window := h.window.start now } := by
    simp only [run, changeWindow, EStateM.run_bind, EStateM.run_modify]
    rfl
  unfold act Window.run
  rw [begun, result]
  cases ((h.window.start now).rounds script).fault <;> rfl

end Host

end Chip8
