import Chip8.Proofs.Bare.Histories
import Chip8.Proofs.Bare.Renderer
import Chip8.Proofs.Host.Machine
import Mathlib.Data.List.Chain
import Mathlib.Tactic.NormNum

/-!
# What the window shows

A round of the loop reads the clock twice: for the tick of the machine, and then to see whether the display is to be
shown.  `Machine.screened` is the loop with both readings and with the renderer in its steps, on one surface that is
painted over every time; `Machine.ScreenedWay` lists the ways in which a round of it can go.

* The renderer refuses no display, and a round shows the display as its tick left it, just if that is due
  (`Machine.screened_faithful`);
* the showings lie at least a period apart (`Machine.screened_apart`), whatever the clock does;
* a run of the window shows the same, if both readings of a round agree (`Window.picture_rounds`).

`Window.shows_display` says so together with what is shown: every pixel in its colour.
-/

namespace Chip8

open TimeBase (later reached period)

/-- A round of the loop, with the times that the clock tells at its tick and when the display may be shown. -/
structure Turn (τ : Type) where
  tick : τ
  look : τ
  events : List HostEvent

structure Showing (τ : Type) where
  time : τ
  surface : Surface

/-- A completed round: the machine after its tick, and the showing at its end if there is one. -/
structure ShownRound (τ : Type) where
  machine : Machine τ
  showing : Option (Showing τ)

/-- What becomes of a loop that shows the display. -/
structure Screening (τ : Type) where
  rounds : List (ShownRound τ)
  fault : Option Fault
  /-- What the renderer complained about. -/
  refused : Option RenderError

namespace Screening

variable {τ : Type}

def push (s : Screening τ) (machine : Machine τ) (showing : Option (Showing τ)) : Screening τ :=
  { s with rounds := ⟨machine, showing⟩ :: s.rounds }

/-- What was shown, one after the other. -/
def showings (s : Screening τ) : List (Showing τ) := s.rounds.filterMap (·.showing)

/-- The picture after some rounds: that of the last showing, or the one before all of them. -/
def pictureAfter (s : Screening τ) (k : Nat) (before : Option Frame) : Option Frame :=
  ((s.rounds.take k).filterMap (·.showing)).foldl (fun _ g => some g.surface.frame) before

variable [TimeBase τ]

/-- The time from which on the display may be shown again after some rounds, given the one before all of them. -/
def dueAfter (s : Screening τ) (k : Nat) (next : τ) : τ :=
  ((s.rounds.take k).filterMap (·.showing)).foldl (fun _ g => later g.time (period presentHz)) next

/-- Does the loop do to the machine what was to become of it, and show just that whenever it is due? -/
structure Faithful (s : Screening τ) (fold : Hosted τ) (next : τ) (turns : List (Turn τ)) : Prop where
  refused : s.refused = none
  fault : s.fault = fold.fault
  machines : s.rounds.map (·.machine) = fold.ticked
  shows : ∀ (k : Nat) (r : ShownRound τ) (g : Showing τ), s.rounds[k]? = some r → r.showing = some g →
    g.surface.Shows r.machine.display pixelOff pixelOn ∧ turns[k]?.map (·.look) = some g.time
  due : ∀ (k : Nat) (r : ShownRound τ) (turn : Turn τ), s.rounds[k]? = some r → turns[k]? = some turn →
    r.showing.isSome = reached (s.dueAfter k next) turn.look

/-- A round in front shows the display as its tick left it if it is due, and puts off the next showing then. -/
theorem Faithful.push {s : Screening τ} {fold : Hosted τ} {next : τ} {turns : List (Turn τ)} {machine : Machine τ}
    {turn : Turn τ} (showing : Option (Showing τ))
    (faithful : s.Faithful fold (showing.elim next fun g => later g.time (period presentHz)) turns)
    (shown : ∀ g, showing = some g → g.surface.Shows machine.display pixelOff pixelOn ∧ turn.look = g.time)
    (due : showing.isSome = reached next turn.look) :
    (s.push machine showing).Faithful { fold with ticked := machine :: fold.ticked } next (turn :: turns) where
  refused := faithful.refused
  fault := faithful.fault
  machines := congrArg (machine :: ·) faithful.machines
  shows := by
    intro k r g round showing
    cases k with
    | zero =>
      obtain rfl := Option.some.inj round
      obtain ⟨shows, time⟩ := shown g showing
      exact ⟨shows, congrArg some time⟩
    | succ k => exact faithful.shows k r g round showing
  due := by
    intro k r entry round here
    cases k with
    | zero =>
      obtain rfl := Option.some.inj round
      obtain rfl := Option.some.inj here
      exact due
    | succ k =>
      have later := faithful.due k r entry round here
      cases showing <;> exact later

end Screening

variable {τ : Type} [TimeBase τ]

namespace Machine

/-- What the loop makes of a machine, and shows of it, given the surface and the time from which on the display may be
shown again. -/
def screened (m : Machine τ) (asked : Bool) (canvas : Surface) (next : τ) : List (Turn τ) → Screening τ
  | [] => ⟨[], none, none⟩
  | turn :: rest =>
    let m := m.after (turn.events.filterMap HostEvent.command?)
    let asked := asked || turn.events.any HostEvent.asksToQuit
    if asked then ⟨[], none, none⟩
    else match m.tick turn.tick with
      | (_, some fault) => ⟨[], some fault, none⟩
      | (m, none) =>
        if reached next turn.look then
          match canvas.render m.display.bytes pixelOff.shade pixelOn.shade with
          | .error e => ⟨[], none, some e⟩
          | .ok surface =>
            (m.screened asked surface (later turn.look (period presentHz)) rest).push m (some ⟨turn.look, surface⟩)
        else (m.screened asked canvas next rest).push m none

/-- The ways in which a round can go. -/
inductive ScreenedWay (m : Machine τ) (asked : Bool) (canvas : Surface) (next : τ) (turn : Turn τ)
    (rest : List (Turn τ)) : Screening τ → Prop where
  | stopped (asks : (asked || turn.events.any HostEvent.asksToQuit) = true) :
      ScreenedWay m asked canvas next turn rest ⟨[], none, none⟩
  | faulted (unasked : (asked || turn.events.any HostEvent.asksToQuit) = false) {n : Machine τ} {f : Fault}
      (tick : (m.after (turn.events.filterMap HostEvent.command?)).tick turn.tick = (n, some f)) :
      ScreenedWay m asked canvas next turn rest ⟨[], some f, none⟩
  | shown (unasked : (asked || turn.events.any HostEvent.asksToQuit) = false) {n : Machine τ}
      (tick : (m.after (turn.events.filterMap HostEvent.command?)).tick turn.tick = (n, none))
      (due : reached next turn.look = true) {t : Surface} (fits : t.Fits)
      (shows : t.Shows n.display pixelOff pixelOn) (picture : t.frame = Frame.ofDisplay n.display pixelOff pixelOn) :
      ScreenedWay m asked canvas next turn rest
        ((n.screened false t (later turn.look (period presentHz)) rest).push n (some ⟨turn.look, t⟩))
  | kept (unasked : (asked || turn.events.any HostEvent.asksToQuit) = false) {n : Machine τ}
      (tick : (m.after (turn.events.filterMap HostEvent.command?)).tick turn.tick = (n, none))
      (early : reached next turn.look = false) :
      ScreenedWay m asked canvas next turn rest ((n.screened false canvas next rest).push n none)

theorem way_screened (m : Machine τ) (asked : Bool) {canvas : Surface} (fits : canvas.Fits) (next : τ) (turn : Turn τ)
    (rest : List (Turn τ)) :
    m.ScreenedWay asked canvas next turn rest (m.screened asked canvas next (turn :: rest)) := by
  unfold screened
  simp only []
  split
  · rename_i asks
    exact .stopped asks
  · -- nobody wants to quit, so it is up to the tick and then to the clock
    rename_i unasked
    have unasked : (asked || turn.events.any HostEvent.asksToQuit) = false := by simpa using unasked
    split
    · rename_i tick
      exact .faulted unasked tick
    · rename_i n tick
      rw [unasked]
      split
      · rename_i due
        obtain ⟨t, rendered, fits', shows, picture⟩ := Surface.render_bytes fits n.display pixelOff pixelOn
        rw [rendered]
        exact .shown unasked tick due fits' shows picture
      · rename_i early
        exact .kept unasked tick (by simpa using early)

/-- The loop does to the machine what the events and the ticks do, and a round shows the display as its tick left it,
just if that is due at the second reading of the clock. -/
theorem screened_faithful (m : Machine τ) (asked : Bool) {canvas : Surface} (fits : canvas.Fits) (next : τ)
    (turns : List (Turn τ)) :
    (m.screened asked canvas next turns).Faithful (m.hosted asked (turns.map fun turn => (turn.tick, turn.events)))
      next turns := by
  induction turns generalizing m asked canvas next with
  | nil => exact ⟨rfl, rfl, rfl, by simp [screened], by simp⟩
  | cons turn rest ih =>
    have way := m.way_screened asked fits next turn rest
    simp only [List.map_cons, hosted]
    generalize m.screened asked canvas next (turn :: rest) = seen at way ⊢
    cases way with
    | stopped asks =>
      rw [if_pos asks]
      exact ⟨rfl, rfl, rfl, by simp, by simp⟩
    | faulted unasked tick =>
      simp only [unasked, Bool.false_eq_true, if_false, tick]
      exact ⟨rfl, rfl, rfl, by simp, by simp⟩
    | @shown unasked n tick due t fits' shows =>
      have later := ih n false fits' (later turn.look (period presentHz))
      simp only [unasked, Bool.false_eq_true, if_false, tick]
      refine Screening.Faithful.push (some ⟨turn.look, t⟩) later ?_ due.symm
      intro g showing
      obtain rfl := Option.some.inj showing
      exact ⟨shows, rfl⟩
    | @kept unasked n tick early =>
      have later := ih n false fits next
      simp only [unasked, Bool.false_eq_true, if_false, tick]
      refine Screening.Faithful.push none later ?_ early.symm
      intro g showing
      contradiction

theorem screened_apart (m : Machine Rat) (asked : Bool) {canvas : Surface} (fits : canvas.Fits) (next : Rat)
    (turns : List (Turn Rat)) :
    let times := (m.screened asked canvas next turns).showings.map (·.time)
    times.IsChain (fun a b => a + 1 / 60 ≤ b) ∧ ∀ t ∈ times.head?, next ≤ t := by
  induction turns generalizing m asked canvas next with
  | nil => simp [screened, Screening.showings]
  | cons turn rest ih =>
    have way := m.way_screened asked fits next turn rest
    generalize m.screened asked canvas next (turn :: rest) = seen at way ⊢
    cases way with
    | stopped | faulted => simp [Screening.showings]
    | @shown unasked n tick due t fits =>
      obtain ⟨apart, first⟩ := ih n false fits (later turn.look (period presentHz))
      have due : next ≤ turn.look := of_decide_eq_true due
      have period : (later turn.look (period presentHz) : Rat) = turn.look + 1 / 60 := by
        simp [later, TimeBase.period, presentHz]
      rw [period] at apart first
      constructor
      · exact List.isChain_cons.2 ⟨first, apart⟩
      · intro time latest
        obtain rfl : turn.look = time := Option.some.inj latest
        exact due
    | @kept unasked n tick early => exact ih n false fits next

end Machine

namespace Window

theorem present_of_due {w : Window τ} {now : τ} (due : reached w.nextPresent now = true) :
    (w.present now).nextPresent = later now (period presentHz) ∧
      (w.present now).picture = some (Frame.ofDisplay w.machine.display pixelOff pixelOn) := by
  unfold present measure
  rw [if_pos due]
  simp only []
  split <;> exact ⟨rfl, rfl⟩

/-- A round in which the machine ticks shows the display if it is due, and otherwise leaves the picture. -/
theorem round_of_tick {w : Window τ} {now : τ} {events : List HostEvent}
    (unasked : (w.quitRequested || events.any HostEvent.asksToQuit) = false) {n : Machine τ}
    (tick : (w.machine.after (events.filterMap HostEvent.command?)).tick now = (n, none)) :
    ∃ next calls, w.round now events = (next, .continued calls) ∧ next.machine = n ∧ next.quitRequested = false ∧
      (reached w.nextPresent now = true → next.nextPresent = later now (period presentHz) ∧
        next.picture = some (Frame.ofDisplay n.display pixelOff pixelOn)) ∧
      (reached w.nextPresent now = false → next.nextPresent = w.nextPresent ∧ next.picture = w.picture) := by
  let ticked : Window τ :=
    { w with machine := n, quitRequested := false, speaker := (w.speaker.update n.soundActive).1 }
  have round : w.round now events = (ticked.present now, .continued (w.speaker.update n.soundActive).2) := by
    rw [Window.round, handleEvents_eq]
    simp only [unasked, Bool.false_eq_true, if_false, tick]
    rfl
  obtain ⟨nextPresent, shown, countedFrom, fps, picture, present⟩ := exists_present_eq ticked now
  refine ⟨ticked.present now, _, round, by rw [present], by rw [present], ?_, ?_⟩
  · intro due
    exact present_of_due (w := ticked) due
  · intro early
    have same : ticked.present now = ticked := by
      rw [Window.present, if_neg]
      exact Bool.eq_false_iff.1 early
    rw [same]
    exact ⟨rfl, rfl⟩

theorem rounds_of_end {w : Window τ} {now : τ} {events : List HostEvent} (rest : List (τ × List HostEvent))
    (ends : (w.quitRequested || events.any HostEvent.asksToQuit) = true ∨
      ∃ n f, (w.machine.after (events.filterMap HostEvent.command?)).tick now = (n, some f)) :
    (w.rounds ((now, events) :: rest)).rounds = [] := by
  have handled := w.handleEvents_eq events
  have way := w.way_round now events
  rw [rounds]
  generalize w.round now events = r at way ⊢
  cases way with
  | stopped | faulted => rfl
  | continued unasked tick =>
    rw [handled] at unasked tick
    rcases ends with asks | ⟨n, f, fault⟩
    · exact absurd (asks.symm.trans unasked) (by simp)
    · exact absurd (fault.symm.trans tick) (by simp)

/-- A run of the window has in its picture what was shown last, if both readings of the clock agree. -/
theorem picture_rounds (w : Window τ) {canvas : Surface} (fits : canvas.Fits) (script : List (τ × List HostEvent)) :
    let turns := script.map fun entry => (⟨entry.1, entry.1, entry.2⟩ : Turn τ)
    ∀ (k : Nat) (r : Window τ × List MixerCall), (w.rounds script).rounds[k]? = some r →
      r.1.picture = (w.machine.screened w.quitRequested canvas w.nextPresent turns).pictureAfter (k + 1) w.picture := by
  induction script generalizing w canvas with
  | nil => simp [rounds, finish]
  | cons entry rest ih =>
    obtain ⟨now, events⟩ := entry
    intro turns k r round
    have way := w.machine.way_screened w.quitRequested fits w.nextPresent ⟨now, now, events⟩
      (rest.map fun entry => ⟨entry.1, entry.1, entry.2⟩)
    change r.1.picture = (w.machine.screened w.quitRequested canvas w.nextPresent (_ :: _)).pictureAfter _ _
    generalize w.machine.screened w.quitRequested canvas w.nextPresent (_ :: _) = seen at way ⊢
    cases way with
    | stopped asks =>
      rw [rounds_of_end rest (.inl asks)] at round
      contradiction
    | faulted unasked tick =>
      rw [rounds_of_end rest (.inr ⟨_, _, tick⟩)] at round
      contradiction
    | @shown unasked n tick due t fits' shows picture =>
      obtain ⟨next, calls, step, machine, quiet, dueStep, -⟩ := round_of_tick unasked tick
      obtain ⟨again, picture'⟩ := dueStep due
      have later := ih next fits'
      rw [machine, quiet, again] at later
      rw [rounds, step] at round
      cases k with
      | zero =>
        obtain rfl := Option.some.inj round
        exact picture'.trans (congrArg some picture.symm)
      | succ k =>
        rw [later k r round, picture', ← picture]
        rfl
    | @kept unasked n tick early =>
      obtain ⟨next, calls, step, machine, quiet, -, earlyStep⟩ := round_of_tick unasked tick
      obtain ⟨again, picture'⟩ := earlyStep early
      have later := ih next fits
      rw [machine, quiet, again] at later
      rw [rounds, step] at round
      cases k with
      | zero =>
        obtain rfl := Option.some.inj round
        exact picture'
      | succ k =>
        rw [later k r round, picture']
        rfl

/-- Whatever was drawn on a blank display and cleared again, it can be rendered in any two colours, and then every
pixel has the colour that says whether it is on.  Rendering is nothing that can end the loop: what ends it, and what the
machine goes through, are up to the events and the ticks.  A round shows the display as its tick left it, just if that
is due, and a run of the window has in its picture what was shown last.  In exact time two showings that follow each
other are at least a sixtieth of a second apart. -/
theorem shows_display {canvas : Surface} (fits : canvas.Fits) :
    (∀ (random : RandomSource) (catchUp : Bool) (calls : List DisplayCall) (off on : Colour),
      let d := calls.foldl Display.call Display.blank
      ∃ (s : BareMachine τ) (t : Surface),
        (BareMachine.makeCalls calls).run (BareMachine.fresh random catchUp) = .ok () s ∧
          canvas.render s.pixels off.shade on.shade = .ok t ∧ render d off.shade on.shade = .ok t.frame ∧
          ∀ x y : Nat, x < 64 → y < 32 → ∃ b, s.pixels[x + y * 64]? = some b ∧
            d.pixelAt? (Display.index x y) = some (b != 0) ∧ t.at? x y = some (if b != 0 then on else off)) ∧
    (∀ (m : Machine τ) (asked : Bool) (next : τ) (turns : List (Turn τ)),
      (m.screened asked canvas next turns).Faithful (m.hosted asked (turns.map fun turn => (turn.tick, turn.events)))
        next turns) ∧
    (∀ (w : Window τ) (start : τ) (script : List (τ × List HostEvent)),
      let run := w.run start script
      let seen := w.machine.screened w.quitRequested canvas w.nextPresent
        (script.map fun entry => ⟨entry.1, entry.1, entry.2⟩)
      seen.fault = run.fault ∧ seen.rounds.map (·.machine) = run.rounds.map (·.1.machine) ∧
        ∀ (k : Nat) (r : Window τ × List MixerCall), run.rounds[k]? = some r →
          r.1.picture = seen.pictureAfter (k + 1) w.picture) ∧
    ∀ (m : Machine Rat) (asked : Bool) (next : Rat) (turns : List (Turn Rat)),
      ((m.screened asked canvas next turns).showings.map (·.time)).IsChain fun a b => a + 1 / 60 ≤ b := by
  refine ⟨?_, fun m asked next turns => m.screened_faithful asked fits next turns, ?_,
    fun m asked next turns => (m.screened_apart asked fits next turns).1⟩
  · intro random catchUp calls off on d
    have drawn := BareMachine.run_makeCalls (Machine.fresh random catchUp : Machine τ) programStart calls
    rw [← BareMachine.fresh_eq] at drawn
    obtain ⟨t, rendered, -, shows, picture⟩ := Surface.render_bytes fits d off on
    refine ⟨_, t, drawn, rendered, ?_, ?_⟩
    · rw [picture]
      exact render_eq d off on
    · intro x y wide high
      obtain ⟨lit, here, colour⟩ := shows x y wide high
      have entry := getElem?_bytes d wide high
      obtain rfl : d.isLit (cell x y) = lit := Option.some.inj ((pixelAt?_index d wide high).symm.trans here)
      refine ⟨_, entry, ?_, ?_⟩
      · rw [here]
        cases d.isLit (cell x y) <;> rfl
      · rw [colour]
        cases d.isLit (cell x y) <;> rfl
  · intro w start script run seen
    have faithful := w.machine.screened_faithful w.quitRequested fits w.nextPresent
      (script.map fun entry => ⟨entry.1, entry.1, entry.2⟩)
    have hosted : run.hosted = w.machine.hosted w.quitRequested script := hosted_rounds (w.start start) script
    have same : (script.map fun entry => (⟨entry.1, entry.1, entry.2⟩ : Turn τ)).map
        (fun turn => (turn.tick, turn.events)) = script := by
      rw [List.map_map]
      exact List.map_id script
    rw [same, ← hosted] at faithful
    exact ⟨faithful.fault, faithful.machines, picture_rounds (w.start start) fits script⟩

/-- A sprite that goes on at the opposite edges, in black and white. -/
theorem shows_display_at_corner :
    let calls : List DisplayCall := [.clear, .draw ⟨63, 31, [0xC0]⟩, .draw ⟨64, 0, [0xFF]⟩]
    ∃ (s : BareMachine Rat) (t : Surface),
      (BareMachine.makeCalls calls).run (BareMachine.fresh (.cycle [7] 0) false) = .ok () s ∧
        Surface.blank.render s.pixels pixelOff.shade pixelOn.shade = .ok t ∧ t.at? 63 31 = some pixelOn ∧
        t.at? 0 31 = some pixelOn ∧ t.at? 0 0 = some pixelOff := by
  intro calls
  have fits : Surface.blank.Fits := ⟨rfl, rfl⟩
  obtain ⟨s, t, drawn, rendered, -, colours⟩ :=
    (shows_display (τ := Rat) fits).1 (.cycle [7] 0) false calls pixelOff pixelOn
  obtain ⟨corner, across, out⟩ :
      (calls.foldl Display.call Display.blank).pixelAt? (Display.index (63 : Nat) (31 : Nat)) = some true ∧
        (calls.foldl Display.call Display.blank).pixelAt? (Display.index (0 : Nat) (31 : Nat)) = some true ∧
        (calls.foldl Display.call Display.blank).pixelAt? (Display.index (0 : Nat) (0 : Nat)) = some false := by
    decide +kernel
  have colour {x y : Nat} (wide : x < 64) (high : y < 32) {lit : Bool}
      (here : (calls.foldl Display.call Display.blank).pixelAt? (Display.index x y) = some lit) :
      t.at? x y = some (if lit then pixelOn else pixelOff) := by
    obtain ⟨b, -, same, colour⟩ := colours x y wide high
    obtain rfl : (b != 0) = lit := Option.some.inj (same.symm.trans here)
    exact colour
  exact ⟨s, t, drawn, rendered, colour (by decide) (by decide) corner, colour (by decide) (by decide) across,
    colour (by decide) (by decide) out⟩

end Window

end Chip8
