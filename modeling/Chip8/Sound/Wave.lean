import Chip8.Rounding
import Chip8.Text.ByteSize
import Chip8.Text.Numeral

/-!
# The square wave

One period of a square wave of signed sixteen-bit samples: the first half at the amplitude, rounded down if the number
of samples is odd, and the rest at the opposite value.

* A `SquareWave` keeps the lengths of the two halves and not the samples one by one; `SquareWave.runs` are its runs of
  equal samples, and `SquareWave.spread` repeats each sample;
* `squareWave` is the wave of a tone, or the reason why there is none, and `SquareWave.forChannels` the wave for several
  channels of sound.
-/

namespace Chip8

/-- One period of a square wave. -/
structure SquareWave where
  /-- The value of the first samples; the others have the opposite value. -/
  amplitude : Int
  /-- The number of samples at the amplitude. -/
  high : Nat
  /-- The number of samples at the opposite value. -/
  low : Nat
deriving DecidableEq, Repr

namespace SquareWave

/-- The wave with so many samples. -/
def ofPeriod (period : Nat) (amplitude : Int) : SquareWave := ⟨amplitude, period / 2, period - period / 2⟩

theorem length_ofPeriod (period : Nat) (amplitude : Int) :
    (ofPeriod period amplitude).high + (ofPeriod period amplitude).low = period :=
  Nat.add_sub_cancel' (Nat.div_le_self period 2)

/-- The runs of equal samples in order, each with its value and its length. -/
def runs (w : SquareWave) : List (Int × Nat) :=
  if w.amplitude = 0 then [(0, w.high + w.low)] else [(w.amplitude, w.high), (-w.amplitude, w.low)]

/-- The wave with so many samples in place of each one. -/
def spread (count : Nat) (w : SquareWave) : SquareWave := ⟨w.amplitude, w.high * count, w.low * count⟩

end SquareWave

/-- Why there is no wave. -/
inductive WaveError where
  | noFrequency
  /-- The quotient of the frequencies is beyond all binary64 numbers. -/
  | quotientTooLarge
  | tooManySamples
  | tooManyBytes
  /-- There is no memory for samples in an array of this shape. -/
  | outOfMemory (shape : List Nat)
  | tooManyChannels
  /-- A sample does not fit into sixteen bits. -/
  | sampleOutOfRange (value : Int)
deriving DecidableEq, Repr

/-- The number of bytes of a sample. -/
def sampleBytes : Nat := 2

/-- The number of bytes of an array of samples. -/
def arrayBytes (shape : List Nat) : Nat := shape.foldl (· * ·) sampleBytes

/-- The text of the shape of an array. -/
def shapeText : List Nat → String
  | [length] => "(" ++ Text.decimal length ++ ",)"
  | shape => "(" ++ ", ".intercalate (shape.map Text.decimal) ++ ")"

/-- The message of an error. -/
def WaveError.message : WaveError → String
  | noFrequency => "division by zero"
  | quotientTooLarge => "integer division result too large for a float"
  | tooManySamples => "Maximum allowed dimension exceeded"
  | tooManyBytes => "array is too big; `arr.size * arr.dtype.itemsize` is larger than the maximum possible size."
  | outOfMemory shape =>
    "Unable to allocate " ++ Text.byteSize (arrayBytes shape) ++ " for an array with shape " ++ shapeText shape ++
      " and data type int16"
  | tooManyChannels => "Python int too large to convert to C long"
  | sampleOutOfRange value => Text.misfit value "int16"

/-- The number of samples of one period, at `rate` samples a second of a tone of `hz` periods a second. -/
def wavePeriod (rate hz : Int) : Nat := max 2 (roundQuotient rate hz).toNat

/-- The number of bytes for which there is taken to be memory.  It belongs to the computer and not to the program. -/
def memoryBytes : Nat := 1 <<< 38

/-- Refuses an array of samples that is too large. -/
def checkArray (shape : List Nat) : Except WaveError Unit :=
  if !Text.fitsLong (arrayBytes shape) then .error .tooManyBytes
  else if memoryBytes < arrayBytes shape then .error (.outOfMemory shape)
  else .ok ()

theorem checkArray_of_le {shape : List Nat} (small : arrayBytes shape ≤ memoryBytes) : checkArray shape = .ok () := by
  have memory : memoryBytes = 274877906944 := rfl
  have fits : Text.fitsLong (arrayBytes shape) = true := by
    simp only [Text.fitsLong, Bool.and_eq_true, decide_eq_true_eq]
    omega
  rw [checkArray, fits, Bool.not_true, if_neg Bool.false_ne_true, if_neg (Nat.not_lt.2 small)]

/-- Does a sample fit into sixteen bits? -/
def fitsSample (value : Int) : Bool := -32768 ≤ value && value ≤ 32767

/-- One period of a square wave.  Of two samples that do not fit the lower half's is reported. -/
def squareWave (rate hz amplitude : Int) : Except WaveError SquareWave :=
  if hz = 0 then .error .noFrequency
  else if quotientOverflows rate hz then .error .quotientTooLarge
  else if !Text.fitsLong (wavePeriod rate hz) then .error .tooManySamples
  else match checkArray [wavePeriod rate hz] with
    | .error e => .error e
    | .ok () =>
      if !fitsSample (-amplitude) then .error (.sampleOutOfRange (-amplitude))
      else if !fitsSample amplitude then .error (.sampleOutOfRange amplitude)
      else .ok (.ofPeriod (wavePeriod rate hz) amplitude)

/-- The wave with each sample once for every channel of sound, of which there is at least one. -/
def SquareWave.forChannels (w : SquareWave) (channels : Int) : Except WaveError SquareWave :=
  if channels ≤ 1 then .ok w
  else if !Text.fitsLong channels then .error .tooManyChannels
  else match checkArray [w.high + w.low, channels.toNat] with
    | .error e => .error e
    | .ok () => .ok (w.spread channels.toNat)

/-- The amplitude of a wave that is as loud as sixteen bits allow. -/
def fullAmplitude : Int := 32767

end Chip8
