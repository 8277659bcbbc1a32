import Chip8.Random.Twister

/-!
# Sources of random bytes

Where the random instruction takes its bytes from: a fixed list that is repeated for ever, or the generator.
-/

namespace Chip8

/-- A source of random bytes. -/
inductive RandomSource where
  /-- The bytes of a list, again and again, of which `drawn` have been drawn.  An empty list counts as a single zero. -/
  | cycle (bytes : List UInt8) (drawn : Nat)
  | twister (generator : Twister)
deriving DecidableEq

namespace RandomSource

/-- The source that repeats the given bytes. -/
def ofBytes (bytes : List UInt8) : RandomSource := cycle bytes 0

def ofSeed (seed : Int) : RandomSource := twister (Twister.ofSeed seed)

/-- The next byte, and the source after it. -/
def draw : RandomSource → UInt8 × RandomSource
  | cycle bytes drawn => (bytes.getD (drawn % bytes.length) 0, cycle bytes (drawn + 1))
  | twister generator =>
    let (b, generator) := generator.nextByte
    (b, twister generator)

end RandomSource

end Chip8
