import Mathlib.Data.List.Induction
import Chip8.Host.Input
import Chip8.Proofs.Footprint
import Chip8.Proofs.Timing.Tick

/-!
# Keys end to end

What the events of the window come to for a program.  Whatever a machine does meanwhile, a key of the keypad is held
just if the last event that had to do with it pressed it; a quit is asked for just if the window was closed or Escape
was pressed at some time; and the two instructions that skip on a key read just these keys (`keys_follow_events`).

All of this rests on the keys of the keyboard and those of the keypad being matched one to one (`keyOf?_eq_some_iff`).
-/

namespace Chip8

/-- The code of the key of the keyboard for a key of the keypad: that of its character. -/
def Key.code (k : Key) : Int :=
  let characters : Vector Char 16 :=
    #v['x', '1', '2', '3', 'q', 'w', 'e', 'a', 's', 'd', 'z', 'c', '4', 'r', 'f', 'v']
  Int.ofNat (characters.get k).toNat

theorem keyOf?_eq_some_iff (code : Int) (k : Key) : keyOf? code = some k ↔ code = k.code := by
  constructor
  · intro h
    obtain ⟨entry, found, rfl⟩ := Option.map_eq_some_iff.1 h
    have listed : ∀ e ∈ keyMap, e.1 = e.2.code := by decide
    have same : entry.1 = code := by simpa using List.find?_some found
    rw [← same, listed entry (List.mem_of_find?_eq_some found)]
  · rintro rfl
    have mapped : ∀ j : Key, keyOf? j.code = some j := by decide
    exact mapped k

theorem Key.code_ne_escapeCode (k : Key) : k.code ≠ escapeCode := by
  revert k
  decide

namespace HostEvent

/-- Does the event ask the host to quit? -/
def asksToQuit : HostEvent → Bool
  | .quit => true
  | .keyDown code => code == escapeCode
  | .keyUp _ | .focusLost | .other => false

/-- The events that have to do with a key. -/
def ofKey (k : Key) : List HostEvent := [.keyDown k.code, .keyUp k.code, .focusLost]

theorem asksToQuit_iff (e : HostEvent) : e.asksToQuit = true ↔ e = .quit ∨ e = .keyDown escapeCode := by
  cases e <;> simp [asksToQuit]

theorem any_asksToQuit_iff (events : List HostEvent) :
    events.any asksToQuit = true ↔ .quit ∈ events ∨ .keyDown escapeCode ∈ events := by
  rw [List.any_eq_true]
  constructor
  · rintro ⟨e, mem, asks⟩
    rcases e.asksToQuit_iff.1 asks with rfl | rfl
    · exact .inl mem
    · exact .inr mem
  · rintro (mem | mem)
    · exact ⟨_, mem, rfl⟩
    · exact ⟨_, mem, rfl⟩

end HostEvent

namespace Input

theorem send_of_unmapped (i : Input) {code : Int} (unmapped : ∀ k : Key, code ≠ k.code) (pressed : Bool) :
    i.send code pressed = i := by
  unfold send
  cases found : keyOf? code with
  | none => rfl
  | some k => exact absurd ((keyOf?_eq_some_iff code k).1 found) (unmapped k)

theorem quitRequested_handle (i : Input) (e : HostEvent) :
    (i.handle e).quitRequested = (i.quitRequested || e.asksToQuit) := by
  have passed (code : Int) (pressed : Bool) : (i.send code pressed).quitRequested = i.quitRequested := by
    unfold send
    split <;> rfl
  cases e with
  | keyDown code =>
    by_cases escape : code = escapeCode <;> simp [handle, HostEvent.asksToQuit, escape, passed]
  | keyUp code => simp [handle, HostEvent.asksToQuit, passed]
  | quit | focusLost | other => simp [handle, HostEvent.asksToQuit]

private theorem isPressed_send (i : Input) (code : Int) (pressed : Bool) (k : Key) :
    (i.send code pressed).keypad.isPressed k.val = if code = k.code then pressed else i.keypad.isPressed k.val := by
  unfold send
  cases found : keyOf? code with
  | none =>
    have other : code ≠ k.code := fun same => by
      rw [(keyOf?_eq_some_iff code k).2 same] at found
      contradiction
    rw [if_neg other]
  | some key =>
    have same : ((key.val : Int) = k.val) ↔ code = k.code := by
      rw [← keyOf?_eq_some_iff, found, Option.some_inj, Int.ofNat_inj, Fin.val_inj]
    simp only [Keypad.isPressed_set, same]

/-- An event that has to do with a key leaves it held just if it pressed it, and the other events leave it as it was. -/
theorem isPressed_handle (i : Input) (e : HostEvent) (k : Key) :
    (i.handle e).keypad.isPressed k.val =
      if e ∈ HostEvent.ofKey k then decide (e = .keyDown k.code) else i.keypad.isPressed k.val := by
  cases e with
  | keyDown code =>
    by_cases escape : code = escapeCode
    · have other : escapeCode ≠ k.code := k.code_ne_escapeCode.symm
      simp [handle, HostEvent.ofKey, escape, other]
    · simp [handle, HostEvent.ofKey, escape, isPressed_send]
  | keyUp code => simp [handle, HostEvent.ofKey, isPressed_send]
  | focusLost => simp [handle, HostEvent.ofKey, Keypad.isPressed_releaseAll]
  | quit | other => simp [handle, HostEvent.ofKey]

end Input

/-- Does the command have nothing to do with keys? -/
def Command.isKeyless {τ : Type} : Command τ → Bool
  | .setKey .. | .releaseAll => false
  | .load _ | .reset | .execute | .tick _ | .setCatchUp _ => true

namespace Machine

section Held

variable {τ : Type}

private theorem held_execute (m : Machine τ) : m.execute.1.keypad.held = m.keypad.held :=
  m.keeps_execute_of_hosts (p := .held) (by decide) (by decide)

private theorem held_play (m : Machine τ) {vs : List Move} (keyless : ∀ v ∈ vs, v = .slot ∨ v = .timers) :
    (m.play vs).keypad.held = m.keypad.held := by
  induction vs generalizing m with
  | nil => rfl
  | cons v vs ih =>
    have step : (m.move v).keypad.held = m.keypad.held := by
      rcases keyless v (by simp) with rfl | rfl
      · exact m.held_execute
      · rfl
    rw [play, ih _ fun w hw => keyless w (by simp [hw]), step]

end Held

variable {τ : Type} [TimeBase τ]

/-- Whatever a machine does on its own, the same keys stay held. -/
theorem held_apply (m : Machine τ) {c : Command τ} (keyless : c.isKeyless = true) :
    (m.apply c).1.keypad.held = m.keypad.held := by
  cases c with
  | load image =>
    simp only [apply, load_eq]
    by_cases large : maxProgramSize < image.length
    · rw [if_pos large]
    · rw [if_neg large]
  | reset | setCatchUp => rfl
  | execute => exact m.held_execute
  | tick now =>
    obtain ⟨s, eq⟩ := tick_eq_play m now
    have moves : ∀ v ∈ m.moves (.tick now), v = .slot ∨ v = .timers := by
      intro v hv
      rcases List.mem_append.1 hv with slots | steps
      · exact .inl (List.eq_of_mem_replicate slots)
      · exact .inr (List.eq_of_mem_replicate steps)
    change (m.tick now).1.keypad.held = _
    rw [eq]
    exact m.held_play moves
  | setKey | releaseAll => contradiction

end Machine

/-- Something that happens while a host passes events on to a machine. -/
inductive Happening (τ : Type) where
  | event (e : HostEvent)
  /-- The machine does something of its own. -/
  | own (c : Command τ) (keyless : c.isKeyless = true)

/-- The event that happens, if it is one. -/
def Happening.event? {τ : Type} : Happening τ → Option HostEvent
  | .event e => some e
  | .own .. => none

/-- A machine and a host that passes events on to it. -/
structure Session (τ : Type) where
  machine : Machine τ
  quitRequested : Bool

namespace Session

variable {τ : Type} [TimeBase τ]

def step (s : Session τ) : Happening τ → Session τ
  | .event e =>
    let input := Input.handle ⟨s.machine.keypad, s.quitRequested⟩ e
    ⟨{ s.machine with keypad := input.keypad }, input.quitRequested⟩
  | .own c _ => ⟨(s.machine.apply c).1, s.quitRequested⟩

/-- The session after one thing has happened after the other. -/
def after (s : Session τ) (hs : List (Happening τ)) : Session τ := hs.foldl step s

private theorem quitRequested_after (s : Session τ) (hs : List (Happening τ)) :
    (s.after hs).quitRequested = (s.quitRequested || (hs.filterMap Happening.event?).any HostEvent.asksToQuit) := by
  induction hs generalizing s with
  | nil => simp [after]
  | cons h rest ih =>
    have later := ih (s.step h)
    cases h with
    | event e =>
      have asked := Input.quitRequested_handle ⟨s.machine.keypad, s.quitRequested⟩ e
      have split : (s.step (.event e)).quitRequested = (s.quitRequested || e.asksToQuit) := asked
      rw [split, Bool.or_assoc] at later
      exact later
    | own => exact later

/-- From a keypad at rest on, a key is held just if the last event that had to do with it pressed it. -/
private theorem isPressed_after {s : Session τ} (rest : ∀ k : Key, s.machine.keypad.isPressed k.val = false)
    (hs : List (Happening τ)) (k : Key) :
    (s.after hs).machine.keypad.isPressed k.val = true ↔
      ((hs.filterMap Happening.event?).filter (· ∈ HostEvent.ofKey k)).getLast? = some (.keyDown k.code) := by
  induction hs using List.reverseRecOn with
  | nil => simp [after, rest]
  | append_singleton hs h ih =>
    have last : s.after (hs ++ [h]) = (s.after hs).step h := by simp [after]
    rw [last, List.filterMap_append, List.filter_append]
    cases h with
    | own c keyless =>
      have same := Keypad.isPressed_congr ((s.after hs).machine.held_apply keyless) k.val
      have none : [Happening.own c keyless].filterMap Happening.event? = [] := rfl
      rw [none, List.filter_nil, List.append_nil, ← ih, step, same]
    | event e =>
      have handled := Input.isPressed_handle ⟨(s.after hs).machine.keypad, (s.after hs).quitRequested⟩ e k
      by_cases concerned : e ∈ HostEvent.ofKey k
      · simp [step, Happening.event?, handled, concerned]
      · simpa [step, Happening.event?, handled, concerned] using ih

end Session

namespace Machine

section Skips

variable {τ : Type}

private theorem decode_skip {x : Nat} (register : x < 16) :
    decode (0xE09E + 0x100 * x : Nat) = some (.skipKeyPressed x) ∧
      decode (0xE0A1 + 0x100 * x : Nat) = some (.skipKeyNotPressed x) := by
  have all : ∀ y : Fin 16, decode (0xE09E + 0x100 * y.val : Nat) = some (.skipKeyPressed y.val) ∧
      decode (0xE0A1 + 0x100 * y.val : Nat) = some (.skipKeyNotPressed y.val) := by decide +kernel
  exact all ⟨x, register⟩

private theorem execute_of_skipIf {m : Machine τ} (on : m.halted = false) (runs : m.awaiting = none) {word : Nat}
    (fetched : m.memory.fetch? m.pc = some word) {i : Instruction} (decoded : decode word = some i) {c : Bool}
    (skips : m.advance.perform m.pc i = .ok (m.advance.skipIf c)) :
    m.execute = ({ m with pc := m.pc + if c = true then 4 else 2, count := m.count + 1 }, none) := by
  rw [Slot.eq_execute (.done on runs fetched decoded skips)]
  cases c <;> rfl

end Skips

variable {τ : Type} [TimeBase τ]

/-- From a keypad at rest on, while a machine does whatever it does: a key is held just if the last event that had to do
with it pressed it, and a quit is asked for just if there was an event that asks for it.  In every machine with this
keypad, the two instructions that skip on a key take the keys that are held in this sense; a register beyond the keys
counts as one that is not held.  Keys that are not mapped and events of other kinds change nothing, and Escape changes
nothing when it is let go. -/
theorem keys_follow_events {m : Machine τ} (rest : ∀ k : Key, m.keypad.isPressed k.val = false)
    (hs : List (Happening τ)) :
    let s := (Session.mk m false).after hs
    let events := hs.filterMap Happening.event?
    let down (k : Key) := (events.filter (· ∈ HostEvent.ofKey k)).getLast? = some (.keyDown k.code)
    (∀ k : Key, s.machine.keypad.isPressed k.val = true ↔ down k) ∧
      (s.quitRequested = true ↔ .quit ∈ events ∨ .keyDown escapeCode ∈ events) ∧
      (∀ n : Machine τ, n.keypad.held = s.machine.keypad.held → n.halted = false → n.awaiting = none → ∀ x < 16,
        (n.memory.fetch? n.pc = some (0xE09E + 0x100 * x) →
          n.execute =
            ({ n with
              pc := n.pc + if ∃ k : Key, (n.reg x).toNat = k.val ∧ down k then 4 else 2
              count := n.count + 1 }, none)) ∧
          (n.memory.fetch? n.pc = some (0xE0A1 + 0x100 * x) →
            n.execute =
              ({ n with
                pc := n.pc + if ∃ k : Key, (n.reg x).toNat = k.val ∧ down k then 2 else 4
                count := n.count + 1 }, none))) ∧
      ∀ i : Input, i.handle .other = i ∧ i.handle (.keyUp escapeCode) = i ∧
        ∀ code, (∀ k : Key, code ≠ k.code) →
          i.handle (.keyUp code) = i ∧ (code ≠ escapeCode → i.handle (.keyDown code) = i) := by
  intro s events down
  have pressed : ∀ k : Key, s.machine.keypad.isPressed k.val = true ↔ down k := Session.isPressed_after rest hs
  refine ⟨pressed, ?_, ?_, ?_⟩
  · have asked : s.quitRequested = (false || events.any HostEvent.asksToQuit) := Session.quitRequested_after _ hs
    rw [asked, Bool.false_or]
    exact HostEvent.any_asksToQuit_iff events
  · intro n shared on runs x register
    have read : n.keypad.isPressed (n.reg x).toNat = true ↔ ∃ k : Key, (n.reg x).toNat = k.val ∧ down k := by
      rw [Keypad.isPressed_congr shared, Keypad.isPressed_iff]
      simp only [pressed]
    constructor
    · intro word
      have slot :=
        execute_of_skipIf (c := n.keypad.isPressed (n.reg x).toNat) on runs word (decode_skip register).1 rfl
      simpa only [read] using slot
    · intro word
      have slot :=
        execute_of_skipIf (c := !n.keypad.isPressed (n.reg x).toNat) on runs word (decode_skip register).2 rfl
      simpa only [Bool.not_eq_true', ← Bool.not_eq_true, read, ite_not] using slot
  · intro i
    refine ⟨rfl, i.send_of_unmapped (fun k => k.code_ne_escapeCode.symm) false, fun code unmapped => ⟨?_, ?_⟩⟩
    · exact i.send_of_unmapped unmapped false
    · intro plain
      rw [Input.handle, if_neg plain]
      exact i.send_of_unmapped unmapped true

/-- Two keys are held when the focus is lost, and one of them is let go late and pressed again.  The program tests the
other one before and after. -/
theorem keys_follow_events_late_release :
    let m : Machine Rat := (fresh (.cycle [] 0) false).after [.load [0xE0, 0xA1, 0xE0, 0xA1], .reset]
    let s := (Session.mk m false).after
      [.event (.keyDown 120), .own .execute rfl, .event (.keyDown 113), .event .focusLost,
        .event (.keyUp 113), .event (.keyDown 300), .event (.keyDown 113), .event (.keyUp escapeCode)]
    (∀ k : Key, m.keypad.isPressed k.val = false) ∧
      s.machine.keypad.isPressed 0 = false ∧ s.machine.keypad.isPressed 4 = true ∧ s.quitRequested = false ∧
      s.machine.execute.1.pc = 0x206 := by
  intro m s
  have rest : ∀ k : Key, m.keypad.isPressed k.val = false := by decide +kernel
  obtain ⟨pressed, quit, skips, -⟩ := keys_follow_events rest
    [.event (.keyDown 120), .own .execute rfl, .event (.keyDown 113), .event .focusLost,
      .event (.keyUp 113), .event (.keyDown 300), .event (.keyDown 113), .event (.keyUp escapeCode)]
  obtain ⟨on, runs, word, zero, pc⟩ : s.machine.halted = false ∧ s.machine.awaiting = none ∧
      s.machine.memory.fetch? s.machine.pc = some 0xE0A1 ∧ s.machine.reg 0 = 0 ∧ s.machine.pc = 0x202 := by
    decide +kernel
  have slot := (skips s.machine rfl on runs 0 (by decide)).2 word
  refine ⟨rest, ?_, (pressed 4).2 rfl, ?_, ?_⟩
  · rw [Bool.eq_false_iff]
    intro held
    exact absurd ((pressed 0).1 held) (by decide)
  · rw [Bool.eq_false_iff]
    intro asked
    exact absurd (quit.1 asked) (by decide)
  · rw [slot, zero, pc]
    decide

end Machine

end Chip8
