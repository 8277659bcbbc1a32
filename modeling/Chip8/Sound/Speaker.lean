import Chip8.Sound.Wave

/-!
# The speaker

The speaker sounds a tone of 440 Hz through a mixer.  The tone is prepared once and loops on a channel that is paused
while the speaker is silent.

* Every operation gives the speaker after it and the calls that it makes to the mixer, in order;
* `Speaker.create` prepares the tone.  If the mixer cannot be started, the speaker goes on without one.  If there is no
  tone at the rate of the mixer, there is no speaker;
* `Speaker.update` only calls the mixer when the tone starts or ends;
* `Speaker.shutdown` stops the channel and gives the mixer back.  A channel that refuses to stop is let go all the same.
-/

namespace Chip8

/-- How a mixer behaves. -/
structure Mixer where
  /-- Does starting it fail? -/
  fails : Bool
  /-- The number of channels of sound that it has after it was started. -/
  channels : Int
  /-- The rate of samples that it reports, if it is not the one asked for. -/
  frequency : Option Int
  /-- Is it running beforehand? -/
  active : Bool
  /-- Does stopping a channel fail? -/
  stopFails : Bool
deriving DecidableEq, Repr

/-- The mixer that does what it is asked for. -/
def Mixer.plain : Mixer := ⟨false, 1, none, false, false⟩

/-- A call to the mixer. -/
inductive MixerCall where
  /-- Start, with a rate of samples, their size in bits (negative if signed), channels of sound and a buffer size. -/
  | start (frequency size channels buffer : Int)
  | quit
  /-- Make a sound of the samples of a wave. -/
  | sound (wave : SquareWave)
  /-- Set the volume of the sound to that of the tone. -/
  | volume
  | channel (number : Nat)
  /-- Play the sound on the channel, again so many times, or for ever if the number is negative. -/
  | play (loops : Int)
  | pause
  | unpause
  | stop
deriving DecidableEq, Repr

/-- The rate of samples that the speaker asks for. -/
def sampleRate : Int := 44100

/-- The frequency of the tone. -/
def toneHz : Int := 440

/-- The volume of the tone. -/
def toneVolume : Float := 0.1

/-- The number of samples in the buffer of the mixer. -/
def bufferSamples : Int := 512

structure Speaker where
  /-- How the mixer behaves. -/
  mixer : Mixer
  /-- Is sound wanted, and was it possible? -/
  enabled : Bool
  playing : Bool
  hasChannel : Bool
  mixerRunning : Bool
deriving DecidableEq, Repr

namespace Speaker

/-- The tone for a mixer: each sample once for every channel of sound. -/
def tone (m : Mixer) : Except WaveError SquareWave := do
  let wave ← squareWave (m.frequency.getD sampleRate) toneHz fullAmplitude
  wave.forChannels m.channels

/-- The calls that stop a mixer which is running. -/
def quitCalls (running : Bool) : List MixerCall := if running then [.quit] else []

/-- The calls that prepare the tone. -/
def toneCalls (wave : SquareWave) : List MixerCall := [.sound wave, .volume, .channel 0, .play (-1), .pause]

/-- A speaker, silent at first. -/
def create (m : Mixer) (enabled : Bool) : Except WaveError (Speaker × List MixerCall) :=
  if !enabled then .ok (⟨m, false, false, false, m.active⟩, [])
  else
    let start := quitCalls m.active ++ [.start sampleRate (-16) 1 bufferSamples]
    if m.fails then .ok (⟨m, false, false, false, false⟩, start)
    else match tone m with
      | .error e => .error e
      | .ok wave => .ok (⟨m, true, false, true, true⟩, start ++ toneCalls wave)

/-- A call to the channel, if there is one. -/
def channelCalls (s : Speaker) (c : MixerCall) : List MixerCall := if s.hasChannel then [c] else []

/-- Turns the tone on. -/
def start (s : Speaker) : Speaker × List MixerCall := ({ s with playing := true }, s.channelCalls .unpause)

/-- Turns the tone off. -/
def stop (s : Speaker) : Speaker × List MixerCall := ({ s with playing := false }, s.channelCalls .pause)

/-- Turns the tone on or off, unless it is so already. -/
def update (s : Speaker) (active : Bool) : Speaker × List MixerCall :=
  if active && !s.playing then s.start
  else if !active && s.playing then s.stop
  else (s, [])

/-- Silences the speaker and gives channel and mixer back. -/
def shutdown (s : Speaker) : Speaker × List MixerCall :=
  ({ s with playing := false, hasChannel := false, mixerRunning := false },
    s.channelCalls .stop ++ quitCalls s.mixerRunning)

end Speaker

end Chip8
