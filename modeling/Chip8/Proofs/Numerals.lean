import Chip8.Instruction.Pattern
import Chip8.Text.Numeral

/-!
# Reading numerals

Numerals with upper-case digits in a base up to sixteen, read from the left.  A numeral that was written gives back its
number (`readNumeral?_digits`), however many zeros stand in front of it (`readNumeral?_zeros`): the digits of a number
form the number (`foldl_digits`), each of them is one of the base (`lt_of_mem_digits`), and each has its own character
(`placeValue?_digitChar`).  So numerals of different numbers differ (`hex_injective`, `decimal_injective`).
-/

namespace Chip8.Text

/-- The number of a numeral, of which only the characters in front of `cs` were read so far and form `acc`. -/
def readNumeralFrom? (base acc : Nat) : List Char → Option Nat
  | [] => some acc
  | c :: cs =>
    match placeValue? c with
    | some d => if d < base then readNumeralFrom? base (acc * base + d) cs else none
    | none => none

/-- The number of a numeral. -/
def readNumeral? (base : Nat) (cs : List Char) : Option Nat := readNumeralFrom? base 0 cs

theorem placeValue?_digitChar {d : Nat} (small : d < 16) : placeValue? (digitChar d) = some d := by
  have all : ∀ k : Fin 16, placeValue? (digitChar k.val) = some k.val := by decide
  exact all ⟨d, small⟩

theorem digitChar_ne_blank {d : Nat} (small : d < 16) : digitChar d ≠ ' ' := by
  have all : ∀ k : Fin 16, digitChar k.val ≠ ' ' := by decide
  exact all ⟨d, small⟩

theorem lt_of_mem_digits {base n d : Nat} (two : 2 ≤ base) (digit : d ∈ digits base n) : d < base := by
  induction n using Nat.strongRecOn with
  | ind n ih =>
    rw [digits] at digit
    split at digit
    · rename_i more
      rcases List.mem_append.1 digit with front | last
      · exact ih (n / base) (Nat.div_lt_self (by omega) (by omega)) front
      · rw [List.mem_singleton.1 last]
        exact Nat.mod_lt n (by omega)
    · rw [List.mem_singleton.1 digit]
      omega

theorem foldl_digits {base : Nat} (two : 2 ≤ base) (n : Nat) :
    (digits base n).foldl (fun acc d => acc * base + d) 0 = n := by
  induction n using Nat.strongRecOn with
  | ind n ih =>
    rw [digits]
    split
    · rw [List.foldl_append, ih (n / base) (Nat.div_lt_self (by omega) (by omega))]
      exact Nat.div_add_mod' n base
    · simp

theorem readNumeralFrom?_digits {base : Nat} (most : base ≤ 16) {ds : List Nat} (small : ∀ d ∈ ds, d < base)
    (acc : Nat) :
    readNumeralFrom? base acc (ds.map digitChar) = some (ds.foldl (fun acc d => acc * base + d) acc) := by
  induction ds generalizing acc with
  | nil => rfl
  | cons d ds ih =>
    rw [List.forall_mem_cons] at small
    have value := placeValue?_digitChar (Nat.lt_of_lt_of_le small.1 most)
    simp only [List.map_cons, readNumeralFrom?, value, small.1, if_true, List.foldl_cons]
    exact ih small.2 _

theorem readNumeral?_zeros {base : Nat} (two : 2 ≤ base) (k : Nat) (cs : List Char) :
    readNumeral? base (List.replicate k '0' ++ cs) = readNumeral? base cs := by
  have zero : placeValue? '0' = some 0 := by decide
  induction k with
  | zero => rfl
  | succ k ih =>
    rw [← ih]
    simp only [readNumeral?, List.replicate_succ, List.cons_append, readNumeralFrom?, zero]
    rw [if_pos (by omega), Nat.zero_mul, Nat.zero_add]

theorem readNumeral?_digits {base : Nat} (two : 2 ≤ base) (most : base ≤ 16) (n : Nat) :
    readNumeral? base ((digits base n).map digitChar) = some n := by
  have small : ∀ d ∈ digits base n, d < base := fun d => lt_of_mem_digits two
  rw [readNumeral?, readNumeralFrom?_digits most small, foldl_digits two]

theorem readNumeral?_hex (width n : Nat) : readNumeral? 16 (hex width n).toList = some n := by
  rw [hex, String.toList_ofList, padZeros, readNumeral?_zeros (by decide),
    readNumeral?_digits (by decide) (Nat.le_refl 16)]

theorem hex_injective (width : Nat) : Function.Injective (hex width) := by
  intro m n same
  have read := readNumeral?_hex width m
  rw [same, readNumeral?_hex] at read
  exact (Option.some.inj read).symm

theorem decimal_injective : Function.Injective decimal := by
  intro m n same
  have read := readNumeral?_digits (by decide : 2 ≤ 10) (by decide) m
  rw [String.ofList_injective same, readNumeral?_digits (by decide) (by decide)] at read
  exact (Option.some.inj read).symm

theorem ne_blank_of_mem_digits {base n : Nat} (two : 2 ≤ base) (most : base ≤ 16) {c : Char}
    (mem : c ∈ (digits base n).map digitChar) : c ≠ ' ' := by
  obtain ⟨d, digit, rfl⟩ := List.mem_map.1 mem
  exact digitChar_ne_blank (Nat.lt_of_lt_of_le (lt_of_mem_digits two digit) most)

theorem ne_blank_of_mem_hex {width n : Nat} {c : Char} (mem : c ∈ (hex width n).toList) : c ≠ ' ' := by
  rw [hex, String.toList_ofList, padZeros, List.mem_append] at mem
  rcases mem with zero | digit
  · rw [List.eq_of_mem_replicate zero]
    decide
  · exact ne_blank_of_mem_digits (by decide) (by decide) digit

theorem ne_blank_of_mem_decimal {n : Nat} {c : Char} (mem : c ∈ (decimal n).toList) : c ≠ ' ' := by
  rw [decimal, String.toList_ofList] at mem
  exact ne_blank_of_mem_digits (by decide) (by decide) mem

end Chip8.Text
