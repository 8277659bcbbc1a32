import Chip8.Text.Numeral

/-!
# The keypad

The sixteen keys of the hexadecimal keypad, and the watch for a released key on which a program can wait.

* `Keypad.set` records that a key was pressed or released.  While the keypad is tracking, the last key that went from
  held to released is kept in `Keypad.released`;
* `Keypad.arm` starts tracking and forgets the released key, `Keypad.disarm` stops it;
* `Keypad.releaseAll` lets go of all keys at once, which does not count as releasing any.

Key numbers from outside are integers; those that name no key read as not held, and setting them changes nothing.
-/

namespace Chip8

abbrev Key := Fin 16

def Key.ofInt? (n : Int) : Option Key :=
  if h : 0 ≤ n ∧ n < 16 then some ⟨n.toNat, by omega⟩ else none

theorem Key.ofInt?_val (k : Key) : Key.ofInt? k.val = some k := by
  unfold Key.ofInt?
  rw [dif_pos ⟨by omega, by omega⟩]
  rfl

theorem Key.eq_val_of_ofInt? {n : Int} {k : Key} (h : Key.ofInt? n = some k) : n = k.val := by
  unfold Key.ofInt? at h
  split at h
  · obtain rfl := Option.some.inj h
    simp only []
    omega
  · contradiction

theorem Key.ofInt?_eq_none_iff (n : Int) : Key.ofInt? n = none ↔ ¬(0 ≤ n ∧ n < 16) := by
  unfold Key.ofInt?
  split
  · rename_i valid
    simp [valid]
  · rename_i invalid
    simp [invalid]

/-- The key with a number, counted modulo sixteen. -/
def Key.ofNat (n : Nat) : Key := ⟨n % 16, by omega⟩

/-- The name of a key: a `K` and its digit. -/
def Key.name (k : Key) : String := "K" ++ Text.hex 1 k.val

def Key.all : List Key := List.finRange 16

/-- The state of the keypad. -/
structure Keypad where
  /-- Which keys are held, by number. -/
  held : Vector Bool 16
  /-- Are released keys being watched for? -/
  tracking : Bool
  /-- The key that was released last while tracking. -/
  released : Option Key
deriving DecidableEq

namespace Keypad

def initial : Keypad := ⟨Vector.replicate 16 false, false, none⟩

/-- Records that a key is now held or not. -/
def set (k : Keypad) (key : Int) (pressed : Bool) : Keypad :=
  match Key.ofInt? key with
  | none => k
  | some i =>
    { k with
      held := k.held.set i pressed
      released := if k.tracking && k.held[i] && !pressed then some i else k.released }

/-- Records that no key is held any more. -/
def releaseAll (k : Keypad) : Keypad := { k with held := Vector.replicate 16 false }

def isPressed (k : Keypad) (key : Int) : Bool :=
  match Key.ofInt? key with
  | none => false
  | some i => k.held[i]

/-- Starts to watch for a released key. -/
def arm (k : Keypad) : Keypad := { k with tracking := true, released := none }

/-- Stops watching and forgets the released key. -/
def disarm (k : Keypad) : Keypad := { k with tracking := false, released := none }

/-- The keys that are held, in order. -/
def heldKeys (k : Keypad) : List Key := Key.all.filter fun i => k.held[i]

def summary (k : Keypad) : String :=
  "KeyState(held=[" ++ ",".intercalate (k.heldKeys.map fun i => Text.hex 1 i.val) ++ "], tracking=" ++
    (if k.tracking then "True" else "False") ++ ")"

theorem tracking_set (k : Keypad) (key : Int) (pressed : Bool) : (k.set key pressed).tracking = k.tracking := by
  unfold set
  split <;> rfl

/-- While the keypad tracks, letting go of a key that is held replaces the released key; nothing else does. -/
theorem released_set (k : Keypad) (key : Int) (pressed : Bool) :
    (k.set key pressed).released =
      if k.tracking && k.isPressed key && !pressed then Key.ofInt? key else k.released := by
  unfold set isPressed
  cases Key.ofInt? key with
  | none => simp
  | some i => rfl

/-- After a key was pressed or released, it reads as such, and the other numbers read as before. -/
theorem isPressed_set (k : Keypad) (key : Key) (other : Int) (pressed : Bool) :
    (k.set key.val pressed).isPressed other = if (key.val : Int) = other then pressed else k.isPressed other := by
  simp only [set, Key.ofInt?_val, isPressed]
  unfold Key.ofInt?
  split
  · rename_i heq
    split at heq
    · simp at heq
    · rw [if_neg (by omega)]
  · rename_i i heq
    split at heq
    · obtain rfl := Option.some.inj heq
      simp only [Fin.getElem_fin, Vector.getElem_set]
      by_cases h : (key.val : Int) = other
      · rw [if_pos h, if_pos (by omega)]
      · rw [if_neg h, if_neg (by omega)]
    · simp at heq

/-- A number that reads as held is that of a key. -/
theorem exists_key_of_isPressed {k : Keypad} {key : Int} (held : k.isPressed key = true) : ∃ i : Key, key = i.val := by
  unfold isPressed at held
  split at held
  · contradiction
  · rename_i i found
    exact ⟨i, Key.eq_val_of_ofInt? found⟩

theorem isPressed_iff (k : Keypad) (number : Nat) :
    k.isPressed number = true ↔ ∃ i : Key, number = i.val ∧ k.isPressed i.val = true := by
  constructor
  · intro held
    obtain ⟨i, same⟩ := exists_key_of_isPressed held
    exact ⟨i, Int.ofNat_inj.1 same, same ▸ held⟩
  · rintro ⟨i, rfl, held⟩
    exact held

theorem isPressed_congr {k l : Keypad} (same : k.held = l.held) (key : Int) : k.isPressed key = l.isPressed key := by
  unfold isPressed
  rw [same]

theorem isPressed_releaseAll (k : Keypad) (key : Int) : k.releaseAll.isPressed key = false := by
  unfold isPressed releaseAll
  split <;> simp

end Keypad

end Chip8
