/-!
# The Mersenne Twister

The pseudo-random generator with a period of 2 ^ 19937 - 1: a state of 624 words of 32 bits, renewed as a whole when
all of them have been used, and tempered word by word on the way out.

* `Twister.ofWords` starts the generator from a list of words, `Twister.ofSeed` from an integer, whose sign does not
  count;
* `Twister.next` is the next word;
* `Twister.nextByte` is a byte drawn evenly: the leading nine bits of successive words, until they are below 256.
-/

namespace Chip8

/-- The state of the generator. -/
structure Twister where
  /-- The words of the current round. -/
  words : Vector UInt32 624
  /-- The number of words of the round already used. -/
  used : Nat
deriving DecidableEq

namespace Twister

/-- The word at a position, counted modulo the size of the state. -/
private def word (v : Vector UInt32 624) (i : Nat) : UInt32 := v[Fin.ofNat 624 i]

/-- The state with the word at a position replaced. -/
private def put (v : Vector UInt32 624) (i : Nat) (w : UInt32) : Vector UInt32 624 := v.set (Fin.ofNat 624 i) w

/-- A word mixed with its own leading bits, as the seeding steps need it. -/
private def mix (w : UInt32) : UInt32 := w ^^^ (w >>> 30)

/-- The words that grow from a single one by a linear recurrence. -/
def expand (seed : UInt32) : Vector UInt32 624 :=
  (List.range 623).foldl
    (fun v i => put v (i + 1) (1812433253 * mix (word v i) + UInt32.ofNat (i + 1)))
    (put (Vector.replicate 624 0) 0 seed)

/-- The position after `i`, where the first word is skipped and takes over the last one at the end of a pass. -/
private def advance (v : Vector UInt32 624) (i : Nat) : Vector UInt32 624 × Nat :=
  if i + 1 < 624 then (v, i + 1) else (put v 0 (word v 623), 1)

/-- One step of the first seeding pass, at position `i` with the key word `j`. -/
private def absorb (key : Array UInt32) (s : Vector UInt32 624 × Nat × Nat) : Vector UInt32 624 × Nat × Nat :=
  let (v, i, j) := s
  let w := (word v i ^^^ (mix (word v (i - 1)) * 1664525)) + key.getD j 0 + UInt32.ofNat j
  let (v, i) := advance (put v i w) i
  (v, i, if j + 1 < key.size then j + 1 else 0)

/-- One step of the second seeding pass, at position `i`. -/
private def settle (s : Vector UInt32 624 × Nat) : Vector UInt32 624 × Nat :=
  let (v, i) := s
  advance (put v i ((word v i ^^^ (mix (word v (i - 1)) * 1566083941)) - UInt32.ofNat i)) i

/-- The generator started from a list of words. -/
def ofWords (key : Array UInt32) : Twister :=
  let first := Nat.repeat (absorb key) (max 624 key.size) (expand 19650218, 1, 0)
  let second := Nat.repeat settle 623 (first.1, first.2.1)
  ⟨put second.1 0 0x80000000, 624⟩

/-- The words of 32 bits of a natural number, least significant first; zero has none. -/
def wordsOf (n : Nat) : List UInt32 :=
  if _h : n = 0 then [] else UInt32.ofNat (n % 0x100000000) :: wordsOf (n / 0x100000000)
termination_by n
decreasing_by exact Nat.div_lt_self (by omega) (by decide)

/-- The generator started from an integer, by the words of its absolute value. -/
def ofSeed (seed : Int) : Twister :=
  let words := wordsOf seed.natAbs
  ofWords (if words.isEmpty then #[0] else words.toArray)

def renew (v : Vector UInt32 624) : Vector UInt32 624 :=
  (List.range 624).foldl
    (fun v i =>
      let y := (word v i &&& 0x80000000) ||| (word v (i + 1) &&& 0x7FFFFFFF)
      put v i (word v (i + 397) ^^^ (y >>> 1) ^^^ (if y &&& 1 = 1 then 0x9908B0DF else 0)))
    v

def temper (w : UInt32) : UInt32 :=
  let w := w ^^^ (w >>> 11)
  let w := w ^^^ ((w <<< 7) &&& 0x9D2C5680)
  let w := w ^^^ ((w <<< 15) &&& 0xEFC60000)
  w ^^^ (w >>> 18)

/-- The next word, and the generator after it. -/
def next (t : Twister) : UInt32 × Twister :=
  if t.used < 624 then (temper (word t.words t.used), { t with used := t.used + 1 })
  else
    let v := renew t.words
    (temper (word v 0), ⟨v, 1⟩)

/-- The first of the next `tries` words whose leading nine bits are below 256, as a byte.  The byte is zero if there
is none among them. -/
def byteWithin (t : Twister) : Nat → UInt8 × Twister
  | 0 => (0, t)
  | tries + 1 =>
    let (w, t) := t.next
    let r := (w >>> 23).toNat
    if r < 256 then (UInt8.ofNat r, t) else byteWithin t tries

/-- The next byte.  The generator itself looks at words until one of them gives a byte, which one in two does; here
it looks at ten thousand at most, so that the search ends whatever the state is. -/
def nextByte (t : Twister) : UInt8 × Twister := t.byteWithin 10000

end Twister

end Chip8
