import Chip8.Proofs.Host.Machine

/-!
# The tone

The tone sounds as long as the sound timer of the machine runs.  The window looks at the timer after each tick, and the
mixer only hears of it where the timer starts or ends (`Speaker.edges`).  Whatever ends the loop, the speaker is shut
down once behind it, and after that the channel is left alone (`Window.tone_follows_timer`).
-/

namespace Chip8

namespace Speaker

/-- The calls that make a tone follow a sequence of samples, given how it is before: one where it starts and one where
it ends. -/
def edges (before : Bool) : List Bool → List MixerCall
  | [] => []
  | now :: rest =>
    if now = before then edges now rest else (if now then .unpause else .pause) :: edges now rest

/-- The edges of a tone that is off at first start it and end it in turn; if it is on, they end it first. -/
theorem edges_alternate {before : Bool} {samples : List Bool} {k : Nat} {c : MixerCall}
    (h : (edges before samples)[k]? = some c) : c = if decide (k % 2 = 0) = before then .pause else .unpause := by
  induction samples generalizing before k with
  | nil => simp [edges] at h
  | cons now rest ih =>
    unfold edges at h
    by_cases same : now = before
    · rw [if_pos same, same] at h
      exact ih h
    · rw [if_neg same] at h
      have turned : now = !before := Bool.eq_not_of_ne same
      cases k with
      | zero =>
        obtain rfl := Option.some.inj h
        rw [turned]
        cases before <;> rfl
      | succ k =>
        have parity : decide ((k + 1) % 2 = 0) = !decide (k % 2 = 0) := by
          rw [← decide_not, decide_eq_decide]
          omega
        rw [ih h, turned, parity]
        simp only [Bool.not_eq_eq_eq_not]

/-- The tone is what is asked for, and the mixer hears of it if it was different before. -/
theorem update_eq (s : Speaker) (active : Bool) :
    s.update active =
      ({ s with playing := active },
        if active = s.playing then [] else s.channelCalls (if active then .unpause else .pause)) := by
  obtain ⟨mixer, enabled, playing, hasChannel, mixerRunning⟩ := s
  cases active <;> cases playing <;> rfl

/-- The ways in which a speaker comes about: without sound, without a mixer, or with a tone. -/
theorem create_eq_ok {mixer : Mixer} {sound : Bool} {s : Speaker} {made : List MixerCall}
    (created : create mixer sound = .ok (s, made)) :
    (sound = false ∧ s = ⟨mixer, false, false, false, mixer.active⟩ ∧ made = []) ∨
      sound = true ∧
        (mixer.fails = true ∧ s = ⟨mixer, false, false, false, false⟩ ∧
            made = quitCalls mixer.active ++ [.start sampleRate (-16) 1 bufferSamples] ∨
          mixer.fails = false ∧ ∃ wave, tone mixer = .ok wave ∧ s = ⟨mixer, true, false, true, true⟩ ∧
            made = quitCalls mixer.active ++ [.start sampleRate (-16) 1 bufferSamples] ++ toneCalls wave) := by
  unfold create at created
  cases sound with
  | false =>
    obtain ⟨rfl, rfl⟩ := Prod.mk.inj (Except.ok.inj created)
    exact .inl ⟨rfl, rfl, rfl⟩
  | true =>
    rw [Bool.not_true, if_neg Bool.false_ne_true] at created
    refine .inr ⟨rfl, ?_⟩
    cases fails : mixer.fails with
    | true =>
      rw [if_pos fails] at created
      obtain ⟨rfl, rfl⟩ := Prod.mk.inj (Except.ok.inj created)
      exact .inl ⟨rfl, rfl, rfl⟩
    | false =>
      rw [if_neg (by simp [fails])] at created
      cases toned : tone mixer with
      | error e => rw [toned] at created; contradiction
      | ok wave =>
        rw [toned] at created
        obtain ⟨rfl, rfl⟩ := Prod.mk.inj (Except.ok.inj created)
        exact .inr ⟨rfl, wave, rfl, rfl, rfl⟩

/-- A speaker has a channel if sound is wanted and the mixer can be started, and is silent at first. -/
theorem silent_of_create {mixer : Mixer} {sound : Bool} {s : Speaker} {made : List MixerCall}
    (created : create mixer sound = .ok (s, made)) :
    s.playing = false ∧ s.hasChannel = (sound && !mixer.fails) := by
  rcases create_eq_ok created with ⟨rfl, rfl, -⟩ | ⟨rfl, ⟨fails, rfl, -⟩ | ⟨fails, -, -, rfl, -⟩⟩
  · exact ⟨rfl, rfl⟩
  · simp [fails]
  · simp [fails]

/-- Shutting down leaves the same speaker, whether the tone sounded or not. -/
theorem shutdown_update (s : Speaker) (active : Bool) : (s.update active).1.shutdown = s.shutdown := by
  rw [update_eq]
  rfl

end Speaker

namespace Window

variable {τ : Type} [TimeBase τ]

/-- What a run does with a speaker. -/
structure Run.Sounds (s : Speaker) (run : Run τ) : Prop where
  follows : ∀ v ∈ run.rounds, v.1.speaker.playing = v.1.machine.soundActive
  edges : run.rounds.flatMap (·.2) =
    if s.hasChannel then Speaker.edges s.playing (run.rounds.map (·.1.machine.soundActive)) else []
  ends : (run.last.speaker, run.calls) = s.shutdown

omit [TimeBase τ] in
theorem sounds_finish (w : Window τ) (fault : Option Fault) : (w.finish fault).Sounds w.speaker where
  follows := by simp [finish]
  edges := by simp [finish, Speaker.edges]
  ends := rfl

omit [TimeBase τ] in
/-- The tone is made to follow the timer before anything else is done with the speaker. -/
theorem Run.Sounds.cons {s : Speaker} {next : Window τ} {run : Run τ}
    (speaker : next.speaker = (s.update next.machine.soundActive).1) (later : run.Sounds next.speaker) :
    Run.Sounds s
      { run with rounds := (next, (s.update next.machine.soundActive).2) :: run.rounds } := by
  have playing : next.speaker.playing = next.machine.soundActive := by rw [speaker, Speaker.update_eq]
  have channel : next.speaker.hasChannel = s.hasChannel := by rw [speaker, Speaker.update_eq]
  constructor
  · intro v mem
    rcases List.mem_cons.1 mem with rfl | mem
    · exact playing
    · exact later.follows v mem
  · rw [List.flatMap_cons, later.edges, playing, channel, List.map_cons, Speaker.edges, Speaker.update_eq]
    cases sounding : s.hasChannel with
    | false => simp [Speaker.channelCalls, sounding]
    | true =>
      by_cases same : next.machine.soundActive = s.playing <;> simp [Speaker.channelCalls, sounding, same]
  · rw [← s.shutdown_update next.machine.soundActive, ← speaker]
    exact later.ends

omit [TimeBase τ] in
/-- The calls of a run with a speaker that is silent at first. -/
theorem Run.Sounds.calls_eq {s : Speaker} {run : Run τ} (sounds : run.Sounds s) (silent : s.playing = false) :
    run.rounds.flatMap (·.2) ++ run.calls =
      (if s.hasChannel then Speaker.edges false (run.rounds.map (·.1.machine.soundActive)) ++ [.stop] else []) ++
        (if s.mixerRunning then [.quit] else []) := by
  have closing : run.calls = s.channelCalls .stop ++ Speaker.quitCalls s.mixerRunning := congrArg Prod.snd sounds.ends
  rw [sounds.edges, closing, silent, Speaker.channelCalls, Speaker.quitCalls]
  cases s.hasChannel <;> simp

theorem sounds_rounds (w : Window τ) (script : List (τ × List HostEvent)) : (w.rounds script).Sounds w.speaker := by
  induction script generalizing w with
  | nil => exact sounds_finish { w with quitRequested := true, running := false } none
  | cons entry rest ih =>
    obtain ⟨now, events⟩ := entry
    have way := w.way_round now events
    rw [rounds]
    generalize w.round now events = r at way ⊢
    cases way with
    | stopped => exact sounds_finish { w.handleEvents events with running := false } none
    | @faulted _ machine f => exact sounds_finish { w.handleEvents events with machine := machine } (some f)
    | @continued _ next _ speaker => exact (ih next).cons speaker

/-- The tone of a new window for a machine, in a run of any script.  At the end of each round that let the machine tick,
the tone is on just if the sound timer runs.  If there is a channel, the mixer hears of the tone just where it starts or
ends, in turn, and is then told once to stop the channel; all that may come behind that is the end of the mixer itself.
Whatever ended the loop, the speaker has been shut down once and is silent, without a channel and without a mixer, and
no exception came up but the fault of the machine. -/
theorem tone_follows_timer {m : Machine τ} {scale : Int} {mixer : Mixer} {sound : Bool} {w : Window τ}
    {made : List MixerCall} (created : create m scale mixer sound = .ok (w, made)) (start : τ)
    (script : List (τ × List HostEvent)) :
    let fold := m.hosted false script
    let edges := Speaker.edges false (fold.ticked.map (·.soundActive))
    let left := (Host.opened w made).act (Host.run start script)
    w.speaker.hasChannel = (sound && !mixer.fails) ∧
      left.1.rounds.map (·.machine) = fold.ticked ∧
      (∀ v ∈ left.1.rounds, v.speaker.playing = decide (0 < v.machine.sound)) ∧
      left.1.calls =
        made ++ (if w.speaker.hasChannel then edges ++ [.stop] else []) ++
          (if w.speaker.mixerRunning then [.quit] else []) ∧
      (∀ k c, edges[k]? = some c → c = if k % 2 = 0 then .unpause else .pause) ∧
      left.1.shutdowns = 1 ∧
      left.1.window.speaker.playing = false ∧
      left.1.window.speaker.hasChannel = false ∧
      left.1.window.speaker.mixerRunning = false ∧
      left.2 = fold.fault.map Interruption.fault := by
  intro fold edges left
  obtain ⟨speaker, spoken, rfl⟩ := exists_speaker_of_create created
  obtain ⟨silent, channel⟩ := Speaker.silent_of_create spoken
  let w := fresh m scale speaker
  have hosted : (w.run start script).hosted = fold := hosted_rounds (w.start start) script
  have sounds : (w.run start script).Sounds speaker := sounds_rounds (w.start start) script
  have run : left = _ := Host.act_run (Host.opened w made) start script
  have ticked : fold.ticked = (w.run start script).rounds.map (·.1.machine) := by rw [← hosted]; rfl
  have last : left.1.window.speaker = speaker.shutdown.1 := by
    rw [run, ← sounds.ends]
    rfl
  refine ⟨channel, ?_, ?_, ?_, ?_, ?_, ?_, ?_, ?_, ?_⟩
  · rw [run, ticked]
    simp [Host.behind, Host.opened]
  · intro v mem
    have listed : v ∈ [] ++ (w.run start script).rounds.map (·.1) := by rw [run] at mem; exact mem
    rw [List.nil_append] at listed
    obtain ⟨r, completed, rfl⟩ := List.mem_map.1 listed
    exact sounds.follows r completed
  · have samples : (w.run start script).rounds.map (·.1.machine.soundActive) = fold.ticked.map (·.soundActive) := by
      rw [ticked, List.map_map]
      rfl
    have calls : left.1.calls = made ++ (w.run start script).rounds.flatMap (·.2) ++ (w.run start script).calls := by
      rw [run]
      rfl
    rw [calls, List.append_assoc, sounds.calls_eq silent, samples, List.append_assoc]
    rfl
  · intro k c h
    rw [Speaker.edges_alternate h]
    by_cases even : k % 2 = 0 <;> simp [even]
  · rw [run]
    rfl
  · rw [last]
    rfl
  · rw [last]
    rfl
  · rw [last]
    rfl
  · rw [run, ← hosted]
    rfl

/-- The tone starts and ends, then the timer is set and runs out within a tick, and while the tone sounds once more the
program returns from no call.  The mixer refuses to stop the channel. -/
theorem tone_follows_timer_fault :
    let m : Machine Rat := (Machine.fresh (.cycle [] 0) false).after
      [.load [0x60, 0x01, 0xF0, 0x18, 0x00, 0xE0, 0xF0, 0x18, 0xF0, 0x18, 0x00, 0xEE], .reset]
    let mixer : Mixer := ⟨false, 2, none, true, true⟩
    ∃ w made, create m 15 mixer true = .ok (w, made) ∧
      let left := (Host.opened w made).act
        (Host.run 0 [(0, []), (1 / 100, []), (1 / 10, [.keyDown 120]), (1 / 5, []), (41 / 200, []), (21 / 100, [])])
      left.1.calls = made ++ [.unpause, .pause, .unpause, .stop, .quit] ∧
        left.1.shutdowns = 1 ∧
        left.1.window.speaker.playing = false ∧
        left.2 = some (.fault (.stackUnderflow 0x20A)) := by
  intro m mixer
  let speaker : Speaker := ⟨mixer, true, false, true, true⟩
  let made : List MixerCall :=
    [.quit, .start 44100 (-16) 1 512, .sound ⟨fullAmplitude, 100, 100⟩, .volume, .channel 0, .play (-1), .pause]
  have spoken : Speaker.create mixer true = .ok (speaker, made) := by decide +kernel
  have created : create m 15 mixer true = .ok (fresh m 15 speaker, made) := by rw [create, spoken]
  let script : List (Rat × List HostEvent) :=
    [(0, []), (1 / 100, []), (1 / 10, [.keyDown 120]), (1 / 5, []), (41 / 200, []), (21 / 100, [])]
  obtain ⟨-, -, -, calls, -, once, silent, -, -, ended⟩ := tone_follows_timer created 0 script
  obtain ⟨samples, fault⟩ : (m.hosted false script).ticked.map (·.soundActive) = [false, true, false, false, true] ∧
      (m.hosted false script).fault = some (.stackUnderflow 0x20A) := by decide +kernel
  rw [samples] at calls
  rw [fault] at ended
  exact ⟨fresh m 15 speaker, made, created, calls.trans (List.append_assoc made _ _), once, silent, ended⟩

end Window

end Chip8
