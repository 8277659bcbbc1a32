import Chip8.Proofs.Footprint
import Chip8.Proofs.Timing.Tick

/-!
# Calls and returns

`Machine.trace` lists the instructions that a run performs, each with its address; an instruction that faults is not
among them.  Of such a list `openCalls` gives the calls that have not returned, where a return belongs to the innermost
open call, and `Balanced` says that all its calls have returned and all its returns belong to calls in it.

* The innermost open call of a run is followed by a balanced stretch (`exists_call_of_openCalls`);
* after every run the stack holds the addresses behind the open calls, the outermost first (`Machine.live_play`);
* what lies on the stack below its depth stays while the depth does not fall below it (`Machine.slots_play`).

`Machine.call_discipline` adds what becomes of the next call or return.
-/

namespace Chip8

/-- An instruction that was performed, and its address. -/
structure Performed where
  address : Nat
  instruction : Instruction
deriving DecidableEq

namespace Performed

def isPlain (e : Performed) : Bool :=
  match e.instruction with
  | .call _ | .ret => false
  | _ => true

/-- The addresses of the open calls after an instruction, given those before it, the outermost first. -/
def reopen (calls : List Nat) (e : Performed) : List Nat :=
  match e.instruction with
  | .call _ => calls ++ [e.address]
  | .ret => calls.dropLast
  | _ => calls

/-- An instruction calls, returns, or does neither. -/
theorem kinds (e : Performed) : (∃ a t, e = ⟨a, .call t⟩) ∨ (∃ a, e = ⟨a, .ret⟩) ∨ e.isPlain = true := by
  obtain ⟨a, i⟩ := e
  cases i with
  | call t => exact .inl ⟨a, t, rfl⟩
  | ret => exact .inr (.inl ⟨a, rfl⟩)
  | _ => exact .inr (.inr rfl)

theorem reopen_of_isPlain (calls : List Nat) {e : Performed} (plain : e.isPlain = true) : reopen calls e = calls := by
  unfold isPlain at plain
  unfold reopen
  split at plain
  · contradiction
  · contradiction
  · rfl

end Performed

/-- The addresses of the calls that have not returned, the outermost first. -/
def openCalls (past : List Performed) : List Nat := past.foldl Performed.reopen []

/-- Instructions among which every call returns and every return belongs to a call. -/
inductive Balanced : List Performed → Prop where
  | nil : Balanced []
  | plain {es : List Performed} {e : Performed} (before : Balanced es) (plain : e.isPlain = true) : Balanced (es ++ [e])
  | returned {es body : List Performed} {a b t : Nat} (before : Balanced es) (inside : Balanced body) :
      Balanced (es ++ ⟨a, .call t⟩ :: body ++ [⟨b, .ret⟩])

theorem openCalls_append_singleton (past : List Performed) (e : Performed) :
    openCalls (past ++ [e]) = Performed.reopen (openCalls past) e := by
  simp [openCalls]

/-- Since the innermost of the open calls, all calls have returned. -/
theorem exists_call_of_openCalls {past : List Performed} {calls : List Nat} {a : Nat}
    (h : openCalls past = calls ++ [a]) :
    ∃ before t since, past = before ++ ⟨a, .call t⟩ :: since ∧ Balanced since ∧ openCalls before = calls := by
  -- a return leads back to the call before the one that it belongs to, so the induction is on the length
  induction length : past.length using Nat.strongRecOn generalizing past calls a with
  | ind n ih =>
    rcases List.eq_nil_or_concat past with rfl | ⟨earlier, e, rfl⟩
    · simp [openCalls] at h
    · rw [List.concat_eq_append] at h length ⊢
      rw [List.length_append, List.length_singleton] at length
      rw [openCalls_append_singleton] at h
      rcases e.kinds with ⟨b, t, rfl⟩ | ⟨b, rfl⟩ | plain
      · obtain ⟨outer, last⟩ := List.append_inj' h rfl
        obtain rfl := List.singleton_inj.1 last
        exact ⟨earlier, t, [], rfl, .nil, outer⟩
      · have inner : openCalls earlier ≠ [] := by
          intro none
          simp [Performed.reopen, none] at h
        obtain ⟨c, split⟩ : ∃ c, openCalls earlier = (calls ++ [a]) ++ [c] := by
          rw [← h]
          exact ⟨(openCalls earlier).getLast inner, (List.dropLast_concat_getLast inner).symm⟩
        obtain ⟨start, t, body, rfl, inside, opened⟩ := ih earlier.length (by omega) split rfl
        have shorter : start.length < n := by
          simp only [List.length_append, List.length_cons] at length
          omega
        obtain ⟨before, u, since, rfl, balanced, rest⟩ := ih start.length shorter opened rfl
        refine ⟨before, u, since ++ ⟨c, .call t⟩ :: body ++ [⟨b, .ret⟩], ?_, .returned balanced inside, rest⟩
        simp
      · rw [Performed.reopen_of_isPlain _ plain] at h
        obtain ⟨before, t, since, rfl, balanced, rest⟩ := ih earlier.length (by omega) h rfl
        exact ⟨before, t, since ++ [e], by simp, .plain balanced plain, rest⟩

namespace Machine

variable {τ : Type}

/-- The instruction that a move performs without a fault. -/
def performs (m : Machine τ) : Move → Option Performed
  | .slot =>
    match m.execute.2 with
    | none => m.upcoming.map fun i => ⟨m.pc, i⟩
    | some _ => none
  | .timers | .setKey .. | .releaseAll => none

/-- The instructions that moves perform without a fault, in order. -/
def trace (m : Machine τ) : List Move → List Performed
  | [] => []
  | v :: vs => (m.performs v).toList ++ (m.move v).trace vs

/-- The ways in which a move can treat the call stack, given what it performs. -/
inductive Stacks (m n : Machine τ) : Option Performed → Prop where
  | call {t : Nat} (pushed : m.stack.push? (m.pc + 2) = some n.stack) : Stacks m n (some ⟨m.pc, .call t⟩)
  | ret {a : Nat} (popped : m.stack.pop? = some (a, n.stack)) : Stacks m n (some ⟨m.pc, .ret⟩)
  | plain {e : Option Performed} (plain : ∀ p ∈ e, p.isPlain = true) (same : n.stack = m.stack) : Stacks m n e

private theorem stack_not_mem_footprint {a : Nat} {i : Instruction} (plain : (Performed.mk a i).isPlain = true)
    (index depth : Nat) : (∀ k, .slot k ∉ i.footprint index depth) ∧ .depth ∉ i.footprint index depth := by
  cases i with
  | call | ret => contradiction
  | _ => simp [Instruction.footprint, Part.bytes, Part.registers, Part.ofRegister, Part.flag]

private theorem stacks_of_perform {m n : Machine τ} {i : Instruction} (h : m.advance.perform m.pc i = .ok n) :
    Stacks m n (some ⟨m.pc, i⟩) := by
  rcases (Performed.mk m.pc i).kinds with ⟨a, t, same⟩ | ⟨a, same⟩ | plain
  · obtain ⟨rfl, rfl⟩ := Performed.mk.inj same
    simp only [perform] at h
    split at h
    · rename_i pushed
      obtain rfl := Except.ok.inj h
      exact .call pushed
    · contradiction
  · obtain ⟨rfl, rfl⟩ := Performed.mk.inj same
    simp only [perform] at h
    split at h
    · rename_i popped
      obtain rfl := Except.ok.inj h
      exact .ret popped
    · contradiction
  · -- neither the slots nor the depth of the stack lie in the footprint
    obtain ⟨slots, depth⟩ := stack_not_mem_footprint plain m.index m.stack.depth
    have kept : n.stack = m.advance.stack :=
      stack_eq_of_keeps (fun k => keeps_of_perform h (slots k)) (keeps_of_perform h depth)
    exact .plain (fun p member => by obtain rfl := Option.some.inj member; exact plain) kept

private theorem stack_poll (m : Machine τ) (x : Nat) : (m.poll x).stack = m.stack := by
  unfold poll
  split <;> rfl

/-- A move treats the call stack in one of the ways. -/
theorem stacks_move (m : Machine τ) (v : Move) : Stacks m (m.move v) (m.performs v) := by
  cases v with
  | slot =>
    have slot := m.slot_execute
    unfold performs move
    generalize m.execute = r at slot ⊢
    cases slot with
    | idle halted => exact .plain (by simp [upcoming, halted]) rfl
    | poll _ waits =>
      exact .plain (by simp [upcoming, waits]) (stack_poll m _)
    | outside | faulted => exact .plain (by simp) rfl
    | unknown on runs fetched unknown =>
      exact .plain (by simp [upcoming_of_fetch on runs fetched, unknown]) rfl
    | done on runs fetched decoded done =>
      simp only [upcoming_of_fetch on runs fetched, decoded]
      exact stacks_of_perform done
  | timers | setKey | releaseAll => exact .plain (by simp [performs]) rfl

namespace Stacks

variable {m n : Machine τ} {e : Option Performed}

theorem depth_le (moved : Stacks m n e) (fits : m.stack.depth ≤ 16) : n.stack.depth ≤ 16 := by
  cases moved with
  | call pushed => exact CallStack.depth_of_push? pushed
  | ret popped => exact Nat.le_trans (Nat.le_of_lt (CallStack.depth_of_pop? popped)) fits
  | plain _ same => rwa [same]

theorem slots_below (moved : Stacks m n e) {k : Nat} (below : k < m.stack.depth) :
    n.stack.slots[k]? = m.stack.slots[k]? := by
  cases moved with
  | call pushed => exact CallStack.getElem?_of_push? pushed (Nat.ne_of_lt below)
  | ret popped => rw [CallStack.slots_of_pop? popped]
  | plain _ same => rw [same]

theorem live_eq (moved : Stacks m n e) {past : List Performed} (h : m.stack.live = (openCalls past).map (· + 2)) :
    n.stack.live = (openCalls (past ++ e.toList)).map (· + 2) := by
  cases moved with
  | call pushed =>
    rw [CallStack.live_of_push? pushed, h, Option.toList_some, openCalls_append_singleton]
    simp [Performed.reopen]
  | @ret a popped =>
    have split := CallStack.live_of_pop? popped
    rw [h] at split
    have rest : n.stack.live = ((openCalls past).map (· + 2)).dropLast := by rw [split, List.dropLast_concat]
    rw [rest, Option.toList_some, openCalls_append_singleton, ← List.map_dropLast]
    rfl
  | plain plain same =>
    rw [same, h]
    cases e with
    | none => rw [Option.toList_none, List.append_nil]
    | some p => rw [Option.toList_some, openCalls_append_singleton, Performed.reopen_of_isPlain _ (plain p rfl)]

end Stacks

theorem depth_play {m : Machine τ} (fits : m.stack.depth ≤ 16) (vs : List Move) : (m.play vs).stack.depth ≤ 16 := by
  induction vs generalizing m with
  | nil => exact fits
  | cons v vs ih => exact ih ((m.stacks_move v).depth_le fits)

/-- What lies on the stack stays there, as long as the depth does not fall below it. -/
theorem slots_play (m : Machine τ) {vs : List Move} {k : Nat}
    (below : ∀ us, us <+: vs → k < (m.play us).stack.depth) :
    (m.play vs).stack.slots[k]? = m.stack.slots[k]? := by
  induction vs generalizing m with
  | nil => rfl
  | cons v vs ih =>
    have first : k < m.stack.depth := below [] List.nil_prefix
    have rest : ∀ us, us <+: vs → k < ((m.move v).play us).stack.depth := fun us before =>
      below (v :: us) (List.cons_prefix_cons.2 ⟨rfl, before⟩)
    exact (ih (m.move v) rest).trans ((m.stacks_move v).slots_below first)

private theorem live_play_append {m : Machine τ} {past : List Performed}
    (h : m.stack.live = (openCalls past).map (· + 2)) (vs : List Move) :
    (m.play vs).stack.live = (openCalls (past ++ m.trace vs)).map (· + 2) := by
  induction vs generalizing m past with
  | nil =>
    rw [trace, List.append_nil]
    exact h
  | cons v vs ih =>
    rw [trace, ← List.append_assoc]
    exact ih ((m.stacks_move v).live_eq h)

/-- From an empty stack on, the stack holds the addresses behind the open calls. -/
theorem live_play {m : Machine τ} (empty : m.stack.live = []) (vs : List Move) :
    (m.play vs).stack.live = (openCalls (m.trace vs)).map (· + 2) := by
  have begin : m.stack.live = (openCalls []).map (· + 2) := empty
  exact live_play_append begin vs

/-- The slot that comes to a return goes on behind the call on top of the stack. -/
theorem execute_of_ret {m : Machine τ} (fits : m.stack.depth ≤ 16) (next : m.upcoming = some .ret) :
    (m.stack.live = [] ∧ m.execute.2 = some (.stackUnderflow m.pc) ∧ m.execute.1.stack = m.stack) ∨
      ∃ a, m.execute.2 = none ∧ m.execute.1.pc = a ∧ m.stack.live = m.execute.1.stack.live ++ [a] := by
  rw [execute_of_upcoming next]
  simp only [perform]
  cases popped : m.advance.stack.pop? with
  | none => exact .inl ⟨(CallStack.pop?_eq_none_iff fits).1 popped, rfl, rfl⟩
  | some top =>
    obtain ⟨a, t⟩ := top
    exact .inr ⟨a, rfl, rfl, CallStack.live_of_pop? popped⟩

/-- The slot that comes to a call puts the address behind it on the stack, if there is room. -/
theorem execute_of_call {m : Machine τ} (fits : m.stack.depth ≤ 16) {t : Nat} (next : m.upcoming = some (.call t)) :
    (m.stack.live.length = 16 ∧ m.execute.2 = some (.stackOverflow m.pc) ∧ m.execute.1.stack = m.stack) ∨
      (m.stack.live.length < 16 ∧ m.execute.2 = none ∧ m.execute.1.pc = t ∧
        m.execute.1.stack.live = m.stack.live ++ [m.pc + 2]) := by
  rw [execute_of_upcoming next]
  simp only [perform]
  cases pushed : m.advance.stack.push? m.advance.pc with
  | none => exact .inl ⟨(CallStack.push?_eq_none_iff fits _).1 pushed, rfl, rfl⟩
  | some stack =>
    have room : m.stack.live.length ≠ 16 := by
      intro full
      have none : m.stack.push? m.advance.pc = none := (CallStack.push?_eq_none_iff fits _).2 full
      exact absurd (none.symm.trans pushed) (by simp)
    have bound : m.stack.live.length ≤ 16 := by
      rw [CallStack.length_live fits]
      exact fits
    exact .inr ⟨by omega, rfl, rfl, CallStack.live_of_push? pushed⟩

/-- From a reset on, whatever a program does and whatever happens on the keypad meanwhile, the stack holds the addresses
behind the calls that have not returned.  What lies on it stays while it is in use.  A return goes on behind the call
to which it belongs, which is the last one with nothing but returned calls since; without an open call it is a fault.  A
call is a fault just if sixteen are open.  Faults leave the stack alone. -/
theorem call_discipline (m : Machine τ) (vs : List Move) :
    let n := m.reset.play vs
    let past := m.reset.trace vs
    n.stack.live = (openCalls past).map (· + 2) ∧
      (∀ us k, (∀ ws, ws <+: us → k < (n.play ws).stack.depth) →
        (n.play us).stack.slots[k]? = n.stack.slots[k]?) ∧
      (n.upcoming = some .ret →
        (openCalls past = [] ∧ n.execute.2 = some (.stackUnderflow n.pc) ∧ n.execute.1.stack = n.stack) ∨
          ∃ before a t since, past = before ++ ⟨a, .call t⟩ :: since ∧ Balanced since ∧
            n.execute.2 = none ∧ n.execute.1.pc = a + 2 ∧
            n.execute.1.stack.live = (openCalls before).map (· + 2)) ∧
      ∀ t, n.upcoming = some (.call t) →
        ((openCalls past).length = 16 ∧ n.execute.2 = some (.stackOverflow n.pc) ∧ n.execute.1.stack = n.stack) ∨
          ((openCalls past).length < 16 ∧ n.execute.2 = none ∧ n.execute.1.pc = t ∧
            n.execute.1.stack.live = (openCalls past ++ [n.pc]).map (· + 2)) := by
  intro n past
  have live : n.stack.live = (openCalls past).map (· + 2) := live_play rfl vs
  have fits : n.stack.depth ≤ 16 := depth_play (Nat.zero_le _) vs
  refine ⟨live, fun us k => n.slots_play, ?_, ?_⟩
  · intro next
    rcases execute_of_ret fits next with ⟨none, fault⟩ | ⟨b, done, pc, top⟩
    · rw [live, List.map_eq_nil_iff] at none
      exact .inl ⟨none, fault⟩
    · -- the address on top lies behind the innermost open call
      rw [live] at top
      obtain ⟨calls, last, split, rest, eq⟩ := List.map_eq_append_iff.1 top
      obtain ⟨a, rfl, behind⟩ := List.map_eq_singleton_iff.1 eq
      obtain ⟨before, t, since, found, balanced, outer⟩ := exists_call_of_openCalls split
      exact .inr ⟨before, a, t, since, found, balanced, done, pc.trans behind.symm, by rw [outer, rest]⟩
  · intro t next
    have length : n.stack.live.length = (openCalls past).length := by rw [live, List.length_map]
    have result := execute_of_call fits next
    rw [length, live] at result
    simpa using result

example :
    let m : Machine Rat :=
      ((fresh (.cycle [] 0) false).after
        [.load [0x22, 0x04, 0x12, 0x02, 0x22, 0x08, 0x00, 0xEE, 0xF0, 0x0A, 0x00, 0xEE]]).reset
    let past := m.trace [.slot, .slot, .slot, .setKey 1 true, .slot, .setKey 1 false, .slot]
    past = [⟨0x200, .call 0x204⟩, ⟨0x204, .call 0x208⟩, ⟨0x208, .getKeyPress 0⟩] ∧ openCalls past = [0x200, 0x204] := by
  decide +kernel

end Machine

end Chip8
