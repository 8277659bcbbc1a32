import Chip8.Proofs.Host.Loop
import Chip8.Proofs.Host.Tone

/-!
# The speaker and its mixer

A host may ask its speaker for anything in any order (`SpeakerCall`).  Its calls to the mixer are on record, and
`MixerState.behind` is what they make of the mixer, which knows nothing else: does it run, and is the sound on its
channel heard?

* A host that serves a call does with the speaker what `Speaker.respond` says, and there is no exception, even if the
  mixer refuses to stop the channel (`Host.run_serve`, `Host.run_serveAll`);
* what the speaker knows of its mixer is true, beginning with a new speaker (`Speaker.attuned_of_create`), after each
  call (`Host.Attuned.served`) and so after all of them;
* only a shutdown takes the channel away and ends the mixer (`Speaker.exists_respond_eq`), and nothing brings them back
  (`Host.foldl_served_of_mem`);
* there is a tone, and so a speaker, for every mixer whose rate fits into thirty-two bits and whose number of channels
  of sound fits into a byte (`Speaker.exists_tone`, `Speaker.exists_create`).

`Speaker.follows_calls` puts this together.
-/

namespace Chip8

/-! ### The mixer -/

/-- What the channel of a mixer does. -/
inductive Playback where
  | idle
  | paused
  | heard
deriving DecidableEq

/-- What becomes of a mixer through the calls that it gets. -/
structure MixerState where
  running : Bool
  playback : Playback
deriving DecidableEq

namespace MixerState

/-- The mixer after a call.  One that fails changes nothing, and neither does starting a mixer that runs. -/
def after (m : Mixer) (t : MixerState) : MixerCall → MixerState
  | .start .. => if m.fails || t.running then t else ⟨true, .idle⟩
  | .quit => ⟨false, .idle⟩
  | .play _ => if t.running then { t with playback := .heard } else t
  | .pause => if t.playback = .heard then { t with playback := .paused } else t
  | .unpause => if t.playback = .paused then { t with playback := .heard } else t
  | .stop => if m.stopFails then t else { t with playback := .idle }
  | .sound _ | .volume | .channel _ => t

/-- The mixer behind all calls so far. -/
def behind (m : Mixer) (calls : List MixerCall) : MixerState := calls.foldl (after m) ⟨m.active, .idle⟩

theorem behind_append (m : Mixer) (calls more : List MixerCall) :
    behind m (calls ++ more) = more.foldl (after m) (behind m calls) :=
  List.foldl_append

end MixerState

/-! ### What the speaker does -/

/-- What a speaker can be asked for. -/
inductive SpeakerCall where
  | update (active : Bool)
  | start
  | stop
  | shutdown
deriving DecidableEq

namespace Speaker

/-- The speaker after a call, and the calls that it makes to the mixer. -/
def respond (s : Speaker) : SpeakerCall → Speaker × List MixerCall
  | .update active => s.update active
  | .start => s.start
  | .stop => s.stop
  | .shutdown => s.shutdown

/-- What a speaker knows of its mixer. -/
def mixerState (s : Speaker) : MixerState :=
  ⟨s.mixerRunning, if s.hasChannel then (if s.playing then .heard else .paused) else .idle⟩

/-- All other calls only concern the tone. -/
theorem exists_respond_eq (s : Speaker) {c : SpeakerCall} (on : c ≠ .shutdown) :
    ∃ playing, (s.respond c).1 = { s with playing := playing } := by
  cases c with
  | update active => exact ⟨active, by rw [respond, update_eq]⟩
  | start => exact ⟨true, rfl⟩
  | stop => exact ⟨false, rfl⟩
  | shutdown => contradiction

theorem hasChannel_respond {s : Speaker} (off : s.hasChannel = false) (c : SpeakerCall) :
    (s.respond c).1.hasChannel = false := by
  by_cases last : c = .shutdown
  · rw [last]
    rfl
  · obtain ⟨playing, same⟩ := s.exists_respond_eq last
    rw [same]
    exact off

theorem eq_quit_of_mem_quitCalls {running : Bool} {x : MixerCall} (made : x ∈ quitCalls running) : x = .quit := by
  cases running with
  | false => contradiction
  | true => exact List.mem_singleton.1 made

/-- Without a channel there is nothing left to do but to end the mixer. -/
theorem eq_quit_of_mem_respond {s : Speaker} (off : s.hasChannel = false) {c : SpeakerCall} {x : MixerCall}
    (made : x ∈ (s.respond c).2) : x = .quit := by
  cases c with
  | update active =>
    rw [respond, update_eq] at made
    simp [channelCalls, off] at made
  | start | stop => simp [respond, start, stop, channelCalls, off] at made
  | shutdown =>
    have quit : x ∈ quitCalls s.mixerRunning := by simpa [respond, shutdown, channelCalls, off] using made
    exact eq_quit_of_mem_quitCalls quit

/-- The calls that a speaker makes leave its mixer as the speaker has it then. -/
theorem foldl_respond (s : Speaker) (running : s.hasChannel = true → s.mixerRunning = true) (c : SpeakerCall) :
    (s.respond c).2.foldl (MixerState.after s.mixer) s.mixerState = (s.respond c).1.mixerState := by
  have start : s.start.2.foldl (MixerState.after s.mixer) s.mixerState = s.start.1.mixerState := by
    cases channel : s.hasChannel <;> cases playing : s.playing <;>
      simp [Speaker.start, channelCalls, mixerState, MixerState.after, channel, playing]
  have stop : s.stop.2.foldl (MixerState.after s.mixer) s.mixerState = s.stop.1.mixerState := by
    cases channel : s.hasChannel <;> cases playing : s.playing <;>
      simp [Speaker.stop, channelCalls, mixerState, MixerState.after, channel, playing]
  cases c with
  | update active =>
    rw [respond, update]
    split
    · exact start
    · split
      · exact stop
      · rfl
  | start => exact start
  | stop => exact stop
  | shutdown =>
    -- whatever the channel does, nothing is left of it when the mixer ends
    cases channel : s.hasChannel with
    | false =>
      cases on : s.mixerRunning <;>
        simp [respond, shutdown, channelCalls, quitCalls, mixerState, MixerState.after, channel, on]
    | true => simp [respond, shutdown, channelCalls, quitCalls, mixerState, MixerState.after, channel, running channel]

end Speaker

namespace Host

variable {τ : Type}

def serve : SpeakerCall → HostAction τ Unit
  | .update active => updateTone active
  | .start => startTone
  | .stop => stopTone
  | .shutdown => shutDown

def serveAll : List SpeakerCall → HostAction τ Unit
  | [] => return ()
  | c :: rest => do
    serve c
    serveAll rest

/-- The host after it has served a call. -/
def served (h : Host τ) (c : SpeakerCall) : Host τ :=
  { h.sounding (h.window.speaker.respond c) with
    shutdowns := if c = .shutdown then h.shutdowns + 1 else h.shutdowns }

@[simp] theorem speaker_served (h : Host τ) (c : SpeakerCall) :
    (h.served c).window.speaker = (h.window.speaker.respond c).1 := rfl

@[simp] theorem calls_served (h : Host τ) (c : SpeakerCall) :
    (h.served c).calls = h.calls ++ (h.window.speaker.respond c).2 := rfl

theorem run_serve (h : Host τ) (c : SpeakerCall) : (serve c).run h = .ok () (h.served c) := by
  cases c with
  | update active => exact run_updateTone h active
  | start => exact run_startTone h
  | stop => exact run_stopTone h
  | shutdown => exact run_shutDown h

theorem run_serveAll (h : Host τ) (cs : List SpeakerCall) : (serveAll cs).run h = .ok () (cs.foldl served h) := by
  induction cs generalizing h with
  | nil => rfl
  | cons c rest ih =>
    rw [serveAll, EStateM.run_bind, run_serve]
    exact ih (h.served c)

/-- The host of a speaker which knows its mixer: the calls so far have left the mixer as the speaker has it, and where
there is a channel the mixer runs. -/
structure Attuned (m : Mixer) (h : Host τ) : Prop where
  mixer : h.window.speaker.mixer = m
  state : MixerState.behind m h.calls = h.window.speaker.mixerState
  running : h.window.speaker.hasChannel = true → h.window.speaker.mixerRunning = true

theorem Attuned.served {m : Mixer} {h : Host τ} (attuned : h.Attuned m) (c : SpeakerCall) : (h.served c).Attuned m := by
  have state : MixerState.behind m (h.served c).calls = (h.served c).window.speaker.mixerState := by
    rw [calls_served, MixerState.behind_append, attuned.state, ← attuned.mixer]
    exact h.window.speaker.foldl_respond attuned.running c
  by_cases last : c = .shutdown
  · rw [last] at state ⊢
    exact ⟨attuned.mixer, state, Bool.noConfusion⟩
  · obtain ⟨playing, same⟩ := h.window.speaker.exists_respond_eq last
    rw [← speaker_served] at same
    refine ⟨?_, state, ?_⟩
    · rw [same]
      exact attuned.mixer
    · rw [same]
      exact attuned.running

theorem Attuned.foldl {m : Mixer} {h : Host τ} (attuned : h.Attuned m) (cs : List SpeakerCall) :
    (cs.foldl Host.served h).Attuned m := by
  induction cs generalizing h with
  | nil => exact attuned
  | cons c rest ih => exact ih (attuned.served c)

/-- As long as nobody shuts the speaker down, only the tone changes. -/
theorem exists_foldl_served_eq (h : Host τ) {cs : List SpeakerCall} (on : .shutdown ∉ cs) :
    ∃ playing, (cs.foldl served h).window.speaker = { h.window.speaker with playing := playing } := by
  induction cs generalizing h with
  | nil => exact ⟨h.window.speaker.playing, rfl⟩
  | cons c rest ih =>
    obtain ⟨other, on⟩ := List.ne_and_not_mem_of_not_mem_cons on
    obtain ⟨before, first⟩ := h.window.speaker.exists_respond_eq (Ne.symm other)
    obtain ⟨playing, later⟩ := ih (h.served c) on
    exact ⟨playing, by rw [List.foldl_cons, later, speaker_served, first]⟩

/-- Channel and mixer do not come back behind the last shutdown. -/
theorem foldl_served_of_mem (h : Host τ) {cs : List SpeakerCall} (off : .shutdown ∈ cs) :
    (cs.foldl served h).window.speaker.hasChannel = false ∧
      (cs.foldl served h).window.speaker.mixerRunning = false := by
  induction cs generalizing h with
  | nil => contradiction
  | cons c rest ih =>
    by_cases again : .shutdown ∈ rest
    · exact ih (h.served c) again
    · -- this is the last shutdown, and what follows only concerns the tone
      obtain rfl : .shutdown = c := (List.mem_cons.1 off).resolve_right again
      obtain ⟨playing, later⟩ := exists_foldl_served_eq (h.served .shutdown) again
      rw [List.foldl_cons, later]
      exact ⟨rfl, rfl⟩

/-- Without a channel, the end of the mixer is all that a host ever calls. -/
theorem exists_calls_foldl_served (h : Host τ) (off : h.window.speaker.hasChannel = false) (cs : List SpeakerCall) :
    ∃ made, (cs.foldl served h).calls = h.calls ++ made ∧ ∀ x ∈ made, x = .quit := by
  induction cs generalizing h with
  | nil => exact ⟨[], (List.append_nil _).symm, fun _ mem => nomatch mem⟩
  | cons c rest ih =>
    obtain ⟨made, calls, quits⟩ := ih (h.served c) (Speaker.hasChannel_respond off c)
    refine ⟨(h.window.speaker.respond c).2 ++ made, ?_, ?_⟩
    · rw [List.foldl_cons, calls, calls_served, List.append_assoc]
    · intro x mem
      rcases List.mem_append.1 mem with first | later
      · exact Speaker.eq_quit_of_mem_respond off first
      · exact quits x later

end Host

namespace Speaker

theorem attuned_of_create {τ : Type} {m : Mixer} {sound : Bool} {h : Host τ}
    (created : create m sound = .ok (h.window.speaker, h.calls)) : h.Attuned m := by
  rcases create_eq_ok created with ⟨-, speaker, made⟩ | ⟨-, ⟨fails, speaker, made⟩ | ⟨works, wave, -, speaker, made⟩⟩
  · constructor <;> simp [speaker, made, MixerState.behind, mixerState]
  · constructor <;>
      cases active : m.active <;>
      simp [speaker, made, MixerState.behind, MixerState.after, quitCalls, mixerState, fails, active]
  · constructor <;>
      cases active : m.active <;>
      simp [speaker, made, MixerState.behind, MixerState.after, quitCalls, toneCalls, mixerState, works, active]

/-- A speaker without a channel has not come beyond the start of its mixer. -/
theorem eq_start_of_mem_create {m : Mixer} {sound : Bool} {s : Speaker} {made : List MixerCall}
    (created : create m sound = .ok (s, made)) (off : s.hasChannel = false) :
    ∀ x ∈ made, x = .quit ∨ x = .start sampleRate (-16) 1 bufferSamples := by
  intro x mem
  rcases create_eq_ok created with ⟨-, -, rfl⟩ | ⟨-, ⟨-, -, rfl⟩ | ⟨-, -, -, rfl, -⟩⟩
  · contradiction
  · rcases List.mem_append.1 mem with ended | started
    · exact .inl (eq_quit_of_mem_quitCalls ended)
    · exact .inr (List.mem_singleton.1 started)
  · contradiction

/-- There is no speaker just if there should be a tone and is none. -/
theorem create_eq_error_iff {m : Mixer} {sound : Bool} {e : WaveError} :
    create m sound = .error e ↔ sound = true ∧ m.fails = false ∧ tone m = .error e := by
  unfold create
  cases sound <;> cases m.fails <;> cases tone m <;> simp

/-! ### The tone of a mixer -/

private theorem roundQuotient_toneHz {rate : Int} (small : rate.natAbs < 1 <<< 31) :
    (nearestBinary64 rate.natAbs toneHz.natAbs).round ≤ 5 <<< 20 := by
  -- 440 has nine bits, so binary64 still has fractions where the quotient is
  have size : toneHz.natAbs = 440 := rfl
  have toneLog : (440 : Nat).log2 = 8 := by decide
  have log : rate.natAbs.log2 < 31 := by
    rcases Nat.eq_zero_or_pos rate.natAbs with zero | positive
    · rw [zero]
      decide
    · exact (Nat.log2_lt (Nat.ne_of_gt positive)).2 small
  have near := round_nearestBinary64_le (n := rate.natAbs) (d := 440) (by decide) (by omega)
  rw [size]
  omega

private theorem squareWave_toneHz {rate : Int} (small : rate.natAbs < 1 <<< 31) :
    wavePeriod rate toneHz ≤ 1 <<< 23 ∧
      squareWave rate toneHz fullAmplitude = .ok (.ofPeriod (wavePeriod rate toneHz) fullAmplitude) := by
  have quotient := roundQuotient_toneHz small
  have inside : quotientOverflows rate toneHz = false := by
    have limit : 5 <<< 20 < 1 <<< 1024 := by decide +kernel
    exact decide_eq_false (Nat.not_le.2 (Nat.lt_of_le_of_lt quotient limit))
  have period : wavePeriod rate toneHz ≤ 1 <<< 23 := by
    have bound : roundQuotient rate toneHz ≤ (nearestBinary64 rate.natAbs toneHz.natAbs).round := by
      unfold roundQuotient
      simp only []
      split <;> omega
    unfold wavePeriod
    omega
  have fits : Text.fitsLong (wavePeriod rate toneHz) = true := by
    simp only [Text.fitsLong, Bool.and_eq_true, decide_eq_true_eq]
    omega
  have array : checkArray [wavePeriod rate toneHz] = .ok () := by
    apply checkArray_of_le
    change 2 * wavePeriod rate toneHz ≤ 1 <<< 38
    omega
  refine ⟨period, ?_⟩
  rw [squareWave, if_neg (by decide), inside, if_neg Bool.false_ne_true, fits, Bool.not_true,
    if_neg Bool.false_ne_true, array]
  rfl

private theorem exists_forChannels {w : SquareWave} (short : w.high + w.low ≤ 1 <<< 23) {channels : Int}
    (few : channels < 256) : ∃ spread, w.forChannels channels = .ok spread := by
  unfold SquareWave.forChannels
  split
  · exact ⟨w, rfl⟩
  · have fits : Text.fitsLong channels = true := by
      simp only [Text.fitsLong, Bool.and_eq_true, decide_eq_true_eq]
      omega
    have array : checkArray [w.high + w.low, channels.toNat] = .ok () := by
      apply checkArray_of_le
      calc
        2 * (w.high + w.low) * channels.toNat ≤ 2 ^ 24 * 2 ^ 8 := Nat.mul_le_mul (by omega) (by omega)
        _ ≤ memoryBytes := by decide
    rw [fits, Bool.not_true, if_neg Bool.false_ne_true, array]
    exact ⟨_, rfl⟩

theorem exists_tone {m : Mixer} (rate : (m.frequency.getD sampleRate).natAbs < 1 <<< 31) (channels : m.channels < 256) :
    ∃ wave, tone m = .ok wave := by
  obtain ⟨period, wave⟩ := squareWave_toneHz rate
  have length := SquareWave.length_ofPeriod (wavePeriod (m.frequency.getD sampleRate) toneHz) fullAmplitude
  obtain ⟨spread, made⟩ := exists_forChannels (Nat.le_trans (Nat.le_of_eq length) period) channels
  refine ⟨spread, ?_⟩
  rw [tone, wave]
  exact made

theorem exists_create {m : Mixer} (rate : (m.frequency.getD sampleRate).natAbs < 1 <<< 31) (channels : m.channels < 256)
    (sound : Bool) : ∃ s made, create m sound = .ok (s, made) := by
  cases result : create m sound with
  | ok r => exact ⟨r.1, r.2, rfl⟩
  | error e =>
    obtain ⟨-, -, failed⟩ := create_eq_error_iff.1 result
    obtain ⟨wave, toned⟩ := exists_tone rate channels
    rw [toned] at failed
    contradiction

/-! ### Any sequence of calls -/

/-- There is a speaker for a mixer unless sound is wanted, the mixer can be started and there is no tone at its rate; so
there is one for every mixer whose rate fits into thirty-two bits and whose channels of sound are counted by a byte.  If
it has no channel, the mixer has at most been ended and told to start.  Whatever is asked of a new speaker then, no
exception comes up, and behind it

* there is a channel as long as sound was wanted, the mixer could be started and nobody has shut the speaker down;
* with a channel the mixer runs, and its sound is heard if the tone is on and paused if not;
* an update makes the tone what is asked for, and calls the channel once if there is one and the tone was different;
* without a channel there are no calls to it any more, whatever comes next;
* a shutdown leaves a silent speaker, no channel and a mixer that does not run, even if the mixer refuses to stop the
  channel, and once there was a shutdown another one makes no call. -/
theorem follows_calls {τ : Type} (m : Mixer) (sound : Bool) :
    (∀ e, create m sound = .error e ↔ sound = true ∧ m.fails = false ∧ tone m = .error e) ∧
      ((m.frequency.getD sampleRate).natAbs < 1 <<< 31 → m.channels < 256 → ∃ s made, create m sound = .ok (s, made)) ∧
      ∀ h : Host τ, create m sound = .ok (h.window.speaker, h.calls) →
        (h.window.speaker.hasChannel = false →
          ∀ x ∈ h.calls, x = .quit ∨ x = .start sampleRate (-16) 1 bufferSamples) ∧
        ∀ cs : List SpeakerCall,
          let left := h.act (Host.serveAll cs)
          let channel := left.1.window.speaker.hasChannel
          let playing := left.1.window.speaker.playing
          let shut := left.1.act (Host.serve .shutdown)
          left.2 = none ∧
            (channel = true ↔ sound = true ∧ m.fails = false ∧ .shutdown ∉ cs) ∧
            (channel = true → MixerState.behind m left.1.calls = ⟨true, if playing then .heard else .paused⟩) ∧
            (∀ active,
              let next := left.1.act (Host.serve (.update active))
              next.1.window.speaker.playing = active ∧
                next.1.calls = left.1.calls ++
                  if channel = true ∧ playing ≠ active then [if active then .unpause else .pause] else []) ∧
            (channel = false → ∀ more, ∃ made,
              (left.1.act (Host.serveAll more)).1.calls = left.1.calls ++ made ∧ ∀ x ∈ made, x = .quit) ∧
            shut.2 = none ∧
            shut.1.window.speaker.playing = false ∧
            shut.1.window.speaker.hasChannel = false ∧
            MixerState.behind m shut.1.calls = ⟨false, .idle⟩ ∧
            (.shutdown ∈ cs → shut.1.calls = left.1.calls) := by
  refine ⟨fun _ => create_eq_error_iff, fun rate channels => exists_create rate channels sound, ?_⟩
  intro h created
  refine ⟨eq_start_of_mem_create created, ?_⟩
  intro cs
  have attuned : (cs.foldl Host.served h).Attuned m := (attuned_of_create created).foldl cs
  have served (k : Host τ) (c : SpeakerCall) : k.act (Host.serve c) = (k.served c, none) := by
    rw [Host.act, Host.run_serve]
  have servedAll (k : Host τ) (cs : List SpeakerCall) : k.act (Host.serveAll cs) = (cs.foldl Host.served k, none) := by
    rw [Host.act, Host.run_serveAll]
  simp only [served, servedAll]
  -- from here on only the speaker behind the calls and the record of them matter
  generalize left : cs.foldl Host.served h = k at attuned
  refine ⟨trivial, ?_, ?_, ?_, k.exists_calls_foldl_served, trivial, rfl, rfl, (attuned.served .shutdown).state, ?_⟩
  · by_cases off : .shutdown ∈ cs
    · have gone := (h.foldl_served_of_mem off).1
      rw [left] at gone
      simp [gone, off]
    · obtain ⟨playing, speaker⟩ := h.exists_foldl_served_eq off
      rw [left] at speaker
      simp [speaker, (silent_of_create created).2, off]
  · intro channel
    rw [attuned.state, mixerState, attuned.running channel, if_pos channel]
  · intro active
    rw [Host.speaker_served, Host.calls_served, respond, update_eq]
    refine ⟨rfl, ?_⟩
    by_cases same : active = k.window.speaker.playing
    · simp [same]
    · cases channel : k.window.speaker.hasChannel <;> simp [channelCalls, channel, same, Ne.symm same]
  · intro off
    obtain ⟨channel, running⟩ := h.foldl_served_of_mem off
    rw [left] at channel running
    simp [respond, shutdown, channelCalls, quitCalls, channel, running]

/-- The mixer runs beforehand, sounds on two channels and refuses to stop the channel.  The tone is on when the speaker
is shut down, and somebody shuts it down once more. -/
theorem follows_calls_refused_stop :
    let mixer : Mixer := ⟨false, 2, none, true, true⟩
    let made : List MixerCall :=
      [.quit, .start 44100 (-16) 1 512, .sound ⟨fullAmplitude, 100, 100⟩, .volume, .channel 0, .play (-1), .pause]
    let window : Window Rat := .fresh (.fresh (.cycle [] 0) false) 15 ⟨mixer, true, false, true, true⟩
    let h := Host.opened window made
    let left := h.act (Host.serveAll [.start, .update true, .update false, .update true])
    let shut := left.1.act (Host.serve .shutdown)
    create mixer true = .ok (h.window.speaker, h.calls) ∧
      left.1.window.speaker.hasChannel = true ∧
      MixerState.behind mixer left.1.calls = ⟨true, .heard⟩ ∧
      shut.2 = none ∧
      MixerState.behind mixer shut.1.calls = ⟨false, .idle⟩ ∧
      (shut.1.act (Host.serve .shutdown)).1.calls = shut.1.calls := by
  intro mixer made window h left shut
  have created : create mixer true = .ok (h.window.speaker, h.calls) := by decide +kernel
  have calls := ((follows_calls mixer true).2.2 h created).2
  obtain ⟨-, channel, heard, -, -, quiet, -, -, ended, -⟩ := calls [.start, .update true, .update false, .update true]
  obtain ⟨-, -, -, -, -, -, -, -, -, again⟩ := calls [.start, .update true, .update false, .update true, .shutdown]
  have on := channel.2 ⟨rfl, rfl, by decide⟩
  exact ⟨created, on, heard on, quiet, ended, again (by decide)⟩

end Speaker

end Chip8
