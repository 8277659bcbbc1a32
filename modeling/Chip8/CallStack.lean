/-!
# The call stack

A stack of sixteen slots for return addresses.  `CallStack.live` lists the addresses in use, the outermost first; the
slots above them keep what was written there last.
-/

namespace Chip8

def stackDepth : Nat := 16

/-- A stack of return addresses. -/
structure CallStack where
  /-- The slots, the outermost first. -/
  slots : Vector Nat 16
  /-- The number of slots in use. -/
  depth : Nat
deriving DecidableEq

namespace CallStack

def empty : CallStack := ⟨Vector.replicate 16 0, 0⟩

/-- The addresses in use, the outermost first. -/
def live (s : CallStack) : List Nat := s.slots.toList.take s.depth

/-- The stack with an address on top, or `none` if every slot is in use. -/
def push? (s : CallStack) (a : Nat) : Option CallStack :=
  if h : s.depth < 16 then some ⟨s.slots.set s.depth a, s.depth + 1⟩ else none

/-- The address on top and the stack without it, or `none` if no slot is in use. -/
def pop? (s : CallStack) : Option (Nat × CallStack) :=
  if 0 < s.depth then
    (s.slots[s.depth - 1]?).map fun a => (a, { s with depth := s.depth - 1 })
  else none

/-- Pushing an address puts it behind the ones in use. -/
theorem live_of_push? {s t : CallStack} {a : Nat} (h : s.push? a = some t) : t.live = s.live ++ [a] := by
  unfold push? at h
  split at h
  · rename_i room
    obtain rfl := Option.some.inj h
    simp only [live, Vector.toList_set]
    rw [List.take_add_one, List.take_set_of_le (Nat.le_refl _)]
    simp [room]
  · simp at h

/-- The address that is popped was the last one in use, and the ones before it stay. -/
theorem live_of_pop? {s t : CallStack} {a : Nat} (h : s.pop? = some (a, t)) : s.live = t.live ++ [a] := by
  unfold pop? at h
  split at h
  · rename_i used
    obtain ⟨b, hb, eq⟩ := Option.map_eq_some_iff.1 h
    obtain ⟨rfl, rfl⟩ := Prod.mk.inj eq
    obtain ⟨k, hk⟩ : ∃ k, s.depth = k + 1 := ⟨s.depth - 1, by omega⟩
    simp only [live, hk, Nat.add_sub_cancel] at hb ⊢
    rw [List.take_add_one, ← Vector.getElem?_toList.symm, hb]
    rfl
  · simp at h

/-- Pushing keeps within the slots. -/
theorem depth_of_push? {s t : CallStack} {a : Nat} (h : s.push? a = some t) : t.depth ≤ 16 := by
  unfold push? at h
  split at h
  · rename_i room
    obtain rfl := Option.some.inj h
    exact room
  · simp at h

/-- Popping frees a slot. -/
theorem depth_of_pop? {s t : CallStack} {a : Nat} (h : s.pop? = some (a, t)) : t.depth < s.depth := by
  unfold pop? at h
  split at h
  · rename_i used
    obtain ⟨b, _, eq⟩ := Option.map_eq_some_iff.1 h
    obtain ⟨-, rfl⟩ := Prod.mk.inj eq
    exact Nat.sub_lt used (by omega)
  · simp at h

/-- Pushing an address changes the first slot that is not in use, and no other. -/
theorem getElem?_of_push? {s t : CallStack} {a k : Nat} (h : s.push? a = some t) (other : k ≠ s.depth) :
    t.slots[k]? = s.slots[k]? := by
  unfold push? at h
  split at h
  · rename_i room
    obtain rfl := Option.some.inj h
    exact Vector.getElem?_set_ne room other.symm
  · simp at h

/-- Popping an address leaves it in its slot. -/
theorem slots_of_pop? {s t : CallStack} {a : Nat} (h : s.pop? = some (a, t)) : t.slots = s.slots := by
  unfold pop? at h
  split at h
  · obtain ⟨b, _, eq⟩ := Option.map_eq_some_iff.1 h
    obtain ⟨-, rfl⟩ := Prod.mk.inj eq
    rfl
  · simp at h

/-- A stack that keeps within its slots has as many addresses in use as its depth says. -/
theorem length_live {s : CallStack} (fits : s.depth ≤ 16) : s.live.length = s.depth := by
  simp [live, fits]

/-- There is no room for an address just if every slot is in use. -/
theorem push?_eq_none_iff {s : CallStack} (fits : s.depth ≤ 16) (a : Nat) : s.push? a = none ↔ s.live.length = 16 := by
  rw [length_live fits]
  unfold push?
  split
  · simp only [reduceCtorEq, false_iff]
    omega
  · simp only [true_iff]
    omega

/-- There is no address to pop just if no slot is in use. -/
theorem pop?_eq_none_iff {s : CallStack} (fits : s.depth ≤ 16) : s.pop? = none ↔ s.live = [] := by
  rw [← List.length_eq_zero_iff, length_live fits]
  unfold pop?
  split
  · have inside : s.depth - 1 < 16 := by omega
    simp only [inside, Vector.getElem?_eq_getElem, Option.map_some, reduceCtorEq, false_iff]
    omega
  · simp only [true_iff]
    omega

end CallStack

end Chip8
