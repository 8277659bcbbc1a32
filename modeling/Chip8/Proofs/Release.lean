import Chip8.Keypad

/-!
# Released keys

Which key a keypad keeps while it watches for released keys.  A `KeyEvent` is what a host can tell a keypad, and
`Keypad.releases` lists the keys that go from held to released by events of their own, in order; letting go of all keys
at once releases none, nor does letting go of a key that is not held.

Each released key takes the place of the one before, so a keypad that was armed keeps the last of them
(`Keypad.released_after_arm`), and this is not the first one as soon as another key follows
(`Keypad.released_replaces_first`).
-/

namespace Chip8

/-- Something that a host tells the keypad. -/
inductive KeyEvent where
  | set (key : Int) (pressed : Bool)
  | releaseAll
deriving DecidableEq

namespace Keypad

def handle (k : Keypad) : KeyEvent → Keypad
  | .set key pressed => k.set key pressed
  | .releaseAll => k.releaseAll

def handleAll (k : Keypad) (es : List KeyEvent) : Keypad := es.foldl handle k

/-- The key that goes from held to released by an event of its own. -/
def release? (k : Keypad) : KeyEvent → Option Key
  | .set key pressed => if k.isPressed key && !pressed then Key.ofInt? key else none
  | .releaseAll => none

/-- The keys that go from held to released by events of their own, in order. -/
def releases (k : Keypad) : List KeyEvent → List Key
  | [] => []
  | e :: es => (k.release? e).toList ++ (k.handle e).releases es

theorem tracking_handle (k : Keypad) (e : KeyEvent) : (k.handle e).tracking = k.tracking := by
  cases e with
  | set key pressed => exact k.tracking_set key pressed
  | releaseAll => rfl

/-- While the keypad tracks, a key that is released takes the place of the one before. -/
theorem released_handle {k : Keypad} (tracking : k.tracking = true) (e : KeyEvent) :
    (k.handle e).released = (k.release? e).or k.released := by
  cases e with
  | releaseAll => rfl
  | set key pressed =>
    have set := k.released_set key pressed
    rw [tracking, Bool.true_and] at set
    rw [handle, set, release?]
    cases tap : k.isPressed key && !pressed with
    | false => rfl
    | true =>
      obtain ⟨held, -⟩ := Bool.and_eq_true_iff.1 tap
      obtain ⟨i, rfl⟩ := exists_key_of_isPressed held
      rw [if_pos rfl, if_pos rfl, Key.ofInt?_val, Option.some_or]

/-- While the keypad tracks, it keeps the key that was released last. -/
theorem released_handleAll {k : Keypad} (tracking : k.tracking = true) (es : List KeyEvent) :
    (k.handleAll es).tracking = true ∧ (k.handleAll es).released = (k.releases es).getLast?.or k.released := by
  induction es generalizing k with
  | nil => exact ⟨tracking, rfl⟩
  | cons e es ih =>
    have still : (k.handle e).tracking = true := (k.tracking_handle e).trans tracking
    obtain ⟨later, last⟩ := ih still
    refine ⟨later, last.trans ?_⟩
    rw [released_handle tracking, releases, List.getLast?_append, Option.or_assoc]
    cases k.release? e <;> rfl

/-- A keypad that was armed watches on and keeps the key that was released last since then, in whatever order keys are
pressed and released; it keeps none just if none was released.  So it keeps the first one just if that is the last one
too. -/
theorem released_after_arm (k : Keypad) (es : List KeyEvent) :
    let keys := k.arm.releases es
    let after := k.arm.handleAll es
    after.tracking = true ∧ after.released = keys.getLast? ∧ (after.released = none ↔ keys = []) ∧
      (after.released = keys.head? ↔ keys.head? = keys.getLast?) := by
  intro keys after
  obtain ⟨tracking, last⟩ := released_handleAll (k := k.arm) rfl es
  have kept : after.released = keys.getLast? := last.trans (Option.or_none ..)
  refine ⟨tracking, kept, ?_, ?_⟩
  · rw [kept, List.getLast?_eq_none_iff]
  · rw [kept]
    exact eq_comm

/-- Two keys are held and released one after the other: the second takes the place of the first. -/
theorem released_replaces_first :
    let es : List KeyEvent := [.set 1 true, .set 2 true, .set 1 false, .set 2 false]
    initial.arm.releases es = [1, 2] ∧ (initial.arm.handleAll es).released = some 2 ∧
      (initial.arm.handleAll es).released ≠ (initial.arm.releases es).head? := by
  decide

end Keypad

end Chip8
