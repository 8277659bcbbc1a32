import Chip8.Instruction.Decode

/-!
# The grammar of words

The patterns of the thirty-four kinds of instruction are the grammar that decoding follows: a word decodes to an
instruction of a kind just if it has the pattern of the kind, and its operands are the numbers at the places that the
pattern marks with a letter (`Opcode.field`).  At most one pattern fits a word, and a word is determined by its
instruction, but for the place of a shift that is not read (`decode_grammar`).
-/

namespace Chip8

/-- The letters that stand for an operand in patterns, one for each place that it takes. -/
def Operand.marks : Operand → List Char
  | .address _ => ['N', 'N', 'N']
  | .immediate _ => ['N', 'N']
  | .height _ => ['N']
  | .regX _ => ['X']
  | .regY _ => ['Y']

/-- The letter that stands for an operand in patterns. -/
def Operand.letter : Operand → Char
  | .address _ | .immediate _ | .height _ => 'N'
  | .regX _ => 'X'
  | .regY _ => 'Y'

/-! ### Words and their digits -/

/-- The digits that a pattern marks with a letter. -/
private def digitsAt (letter : Char) (cs : List Char) (ds : List Nat) : List Nat :=
  ((cs.zip ds).filter fun p => p.1 == letter).map (·.2)

private theorem length_digitsAt (letter : Char) {cs : List Char} {ds : List Nat} (length : ds.length = cs.length) :
    (digitsAt letter cs ds).length = cs.count letter := by
  have first : (cs.zip ds).map (·.1) = cs := List.map_fst_zip (Nat.le_of_eq length.symm)
  calc
    (digitsAt letter cs ds).length = (cs.zip ds).countP ((· == letter) ∘ (·.1)) := by
      rw [digitsAt, List.length_map, List.countP_eq_length_filter]
      rfl
    _ = cs.count letter := by rw [← List.countP_map, first, List.count_eq_countP]

/-- Digits are determined by their number and the number that they form. -/
private theorem eq_of_foldl {ds es : List Nat} (small : ∀ d ∈ ds, d < 16) (small' : ∀ e ∈ es, e < 16)
    (length : ds.length = es.length) {a b : Nat}
    (number : ds.foldl (fun acc d => acc * 16 + d) a = es.foldl (fun acc d => acc * 16 + d) b) : a = b ∧ ds = es := by
  induction ds generalizing es a b with
  | nil =>
    obtain rfl := List.length_eq_zero_iff.1 length.symm
    exact ⟨number, rfl⟩
  | cons d ds ih =>
    cases es with
    | nil => contradiction
    | cons e es =>
      rw [List.forall_mem_cons] at small small'
      obtain ⟨heads, rfl⟩ := ih small.2 small'.2 (Nat.succ.inj length) number
      have heads : a * 16 + d = b * 16 + e := heads
      have bounds := And.intro small.1 small'.1
      obtain ⟨rfl, rfl⟩ : a = b ∧ d = e := by omega
      exact ⟨rfl, rfl⟩

/-- Digits that fit a pattern are determined by those that it marks with letters. -/
private theorem eq_of_digitsAt {cs : List Char} {ds es : List Nat} (length : ds.length = cs.length)
    (length' : es.length = cs.length)
    (fits : ∀ p ∈ cs.zip ds, ∀ v, placeValue? p.1 = some v → v = p.2)
    (fits' : ∀ p ∈ cs.zip es, ∀ v, placeValue? p.1 = some v → v = p.2)
    (marked : ∀ c, placeValue? c = none → digitsAt c cs ds = digitsAt c cs es) : ds = es := by
  induction cs generalizing ds es with
  | nil => rw [List.length_eq_zero_iff.1 length, List.length_eq_zero_iff.1 length']
  | cons c cs ih =>
    obtain ⟨d, ds, rfl⟩ := List.exists_cons_of_length_eq_add_one length
    obtain ⟨e, es, rfl⟩ := List.exists_cons_of_length_eq_add_one length'
    rw [List.zip_cons_cons, List.forall_mem_cons] at fits fits'
    have head : d = e := by
      cases value : placeValue? c with
      | some v => exact (fits.1 v value).symm.trans (fits'.1 v value)
      | none =>
        have first := marked c value
        simp only [digitsAt, List.zip_cons_cons, beq_self_eq_true, List.filter_cons_of_pos, List.map_cons] at first
        exact (List.cons.inj first).1
    subst head
    rw [ih (Nat.succ.inj length) (Nat.succ.inj length') fits.2 fits'.2]
    intro c' letter
    have whole := marked c' letter
    unfold digitsAt at whole ⊢
    rw [List.zip_cons_cons, List.zip_cons_cons, List.filter_cons, List.filter_cons] at whole
    split at whole
    · exact (List.cons.inj whole).2
    · exact whole

theorem lowWord_lt (word : Int) : lowWord word < 65536 := by
  unfold lowWord
  omega

private theorem places_lt (word : Int) : ∀ d ∈ places (lowWord word), d < 16 := by
  have bound := lowWord_lt word
  simp only [places, List.mem_cons, List.not_mem_nil, or_false]
  rintro d (rfl | rfl | rfl | rfl) <;> omega

private theorem eq_of_places {w w' : Nat} (same : places w = places w') : w = w' := by
  simp only [places, List.cons.injEq, and_true] at same
  omega

/-! ### Kinds and their patterns -/

namespace Opcode

/-- The letters in the pattern of a kind, without those from which it takes nothing. -/
def marks (k : Opcode) : List Char := k.pattern.toList.filter fun c => (placeValue? c).isNone && k.takes c

theorem mem_all (k : Opcode) : k ∈ all := by
  cases k <;> decide

private theorem instance?_of_accepts {k : Opcode} {word : Int} (h : k.accepts word = true) :
    ∃ i, k.instance? word = some i ∧ i.opcode = k ∧ ∀ o ∈ i.operands, o.value = k.field o.letter word := by
  rw [instance?, if_pos h]
  cases k <;>
    refine ⟨_, rfl, rfl, ?_⟩ <;>
    simp [Instruction.operands, Operand.value, Operand.letter]

/-- A word with the pattern of a kind decodes to an instruction of the kind with the operands at its places. -/
theorem exists_decode_of_accepts {k : Opcode} {word : Int} (h : k.accepts word = true) :
    ∃ i, decode word = some i ∧ i.opcode = k ∧ ∀ o ∈ i.operands, o.value = k.field o.letter word := by
  rw [decode_of_accepts h]
  exact instance?_of_accepts h

/-- Only one pattern fits a word. -/
theorem eq_of_accepts {k l : Opcode} {word : Int} (h : k.accepts word = true) (h' : l.accepts word = true) : k = l := by
  obtain ⟨i, decoded, rfl, -⟩ := exists_decode_of_accepts h
  obtain ⟨j, decoded', rfl, -⟩ := exists_decode_of_accepts h'
  rw [Option.some.inj (decoded.symm.trans decoded')]

private theorem length_places (k : Opcode) (word : Int) : (places (lowWord word)).length = k.pattern.toList.length := by
  cases k <;> rfl

private theorem fits_of_accepts {k : Opcode} {word : Int} (h : k.accepts word = true) :
    ∀ p ∈ k.pattern.toList.zip (places (lowWord word)), ∀ v, placeValue? p.1 = some v → v = p.2 := by
  intro p place v value
  have fits := List.all_eq_true.1 h p place
  simp only [value, beq_iff_eq] at fits
  exact fits

private theorem digitsAt_eq_of_field {k : Opcode} {c : Char} {w w' : Int} (same : k.field c w = k.field c w') :
    digitsAt c k.pattern.toList (places (lowWord w)) = digitsAt c k.pattern.toList (places (lowWord w')) := by
  have number (word : Int) : k.field c word =
      (digitsAt c k.pattern.toList (places (lowWord word))).foldl (fun acc d => acc * 16 + d) 0 := by
    rw [field, digitsAt, List.foldl_map]
  have small (word : Int) : ∀ d ∈ digitsAt c k.pattern.toList (places (lowWord word)), d < 16 := by
    intro d mem
    obtain ⟨p, found, rfl⟩ := List.mem_map.1 mem
    exact places_lt word _ (List.of_mem_zip (List.mem_filter.1 found).1).2
  have length (word : Int) : (digitsAt c k.pattern.toList (places (lowWord word))).length = k.pattern.toList.count c :=
    length_digitsAt c (k.length_places word)
  rw [number, number] at same
  exact (eq_of_foldl (small w) (small w') ((length w).trans (length w').symm) same).2

/-- A pattern and the numbers at its letters leave no choice for the word, unless the kind skips a place. -/
private theorem lowWord_eq_of_fields {k : Opcode} {w w' : Int} (h : k.accepts w = true) (h' : k.accepts w' = true)
    (same : ∀ c ∈ k.marks, k.field c w = k.field c w') :
    lowWord w = lowWord w' ∨ (k = .shiftRight ∨ k = .shiftLeft) ∧ k.field 'X' w = k.field 'X' w' := by
  by_cases shift : k = .shiftRight ∨ k = .shiftLeft
  · have mark : 'X' ∈ k.marks := by rcases shift with rfl | rfl <;> decide
    exact .inr ⟨shift, same 'X' mark⟩
  · left
    apply eq_of_places
    apply eq_of_digitsAt (k.length_places w) (k.length_places w') (fits_of_accepts h) (fits_of_accepts h')
    intro c letter
    by_cases used : c ∈ k.pattern.toList
    · rw [not_or] at shift
      have mark : c ∈ k.marks := by simp [marks, takes, used, letter, shift.1, shift.2]
      exact digitsAt_eq_of_field (same c mark)
    · have none (word : Int) : digitsAt c k.pattern.toList (places (lowWord word)) = [] := by
        rw [← List.length_eq_zero_iff, length_digitsAt c (k.length_places word), List.count_eq_zero.2 used]
      rw [none, none]

end Opcode

theorem Operand.eq_letter_of_mem_marks {o : Operand} {c : Char} (h : c ∈ o.marks) : c = o.letter := by
  cases o <;> simpa [marks, letter] using h

/-- The operands of an instruction take the places that the pattern of its kind marks with letters, in this order. -/
theorem Instruction.marks_operands (i : Instruction) : i.operands.flatMap Operand.marks = i.opcode.marks := by
  cases i <;>
    simp [operands, Operand.marks, opcode, Opcode.marks, Opcode.pattern, Opcode.takes, placeValue?]

private theorem fields_eq_of_decode {w w' : Int} {i : Instruction} (h : decode w = some i) (h' : decode w' = some i) :
    ∀ c ∈ i.opcode.marks, i.opcode.field c w = i.opcode.field c w' := by
  intro c mark
  obtain ⟨j, decoded, -, values⟩ := Opcode.exists_decode_of_accepts (accepts_of_decode h)
  obtain ⟨j', decoded', -, values'⟩ := Opcode.exists_decode_of_accepts (accepts_of_decode h')
  obtain rfl := Option.some.inj (h.symm.trans decoded)
  obtain rfl := Option.some.inj (h'.symm.trans decoded')
  rw [← i.marks_operands, List.mem_flatMap] at mark
  obtain ⟨o, operand, mark⟩ := mark
  rw [Operand.eq_letter_of_mem_marks mark, ← values o operand, ← values' o operand]

private theorem decode_congr {w w' : Int} (h : lowWord w = lowWord w') : decode w = decode w' := by
  unfold decode
  rw [h]

/-- The two shifts take nothing but their first register from the word. -/
private theorem instance?_shift_congr {k : Opcode} (shift : k = .shiftRight ∨ k = .shiftLeft) {w w' : Int}
    (h : k.accepts w = true) (h' : k.accepts w' = true) (same : k.field 'X' w = k.field 'X' w') :
    k.instance? w = k.instance? w' := by
  rw [Opcode.instance?, Opcode.instance?, if_pos h, if_pos h']
  rcases shift with rfl | rfl <;> exact congrArg (fun x => Instruction.build? _ [x]) same

private theorem exists_decode_eq_iff (w w' : Int) :
    (∃ i, decode w = some i ∧ decode w' = some i) ↔
      (∃ k : Opcode, k.accepts w = true) ∧
        (lowWord w = lowWord w' ∨
          ∃ k : Opcode, (k = .shiftRight ∨ k = .shiftLeft) ∧ k.accepts w = true ∧ k.accepts w' = true ∧
            k.field 'X' w = k.field 'X' w') := by
  constructor
  · rintro ⟨i, decoded, decoded'⟩
    have first := accepts_of_decode decoded
    have second := accepts_of_decode decoded'
    refine ⟨⟨i.opcode, first⟩, ?_⟩
    rcases Opcode.lowWord_eq_of_fields first second (fields_eq_of_decode decoded decoded') with same | ⟨shift, register⟩
    · exact .inl same
    · exact .inr ⟨i.opcode, shift, first, second, register⟩
  · rintro ⟨⟨k, first⟩, same | ⟨l, shift, first', second, register⟩⟩
    · obtain ⟨i, decoded, -, -⟩ := Opcode.exists_decode_of_accepts first
      exact ⟨i, decoded, (decode_congr same).symm.trans decoded⟩
    · obtain ⟨i, decoded, -, -⟩ := Opcode.exists_decode_of_accepts first'
      refine ⟨i, decoded, ?_⟩
      rw [decode_of_accepts second, ← instance?_shift_congr shift first' second register, ← decode_of_accepts first',
        decoded]

/-- Decoding reads every integer by the patterns of the thirty-four kinds, and by its low sixteen bits.

The operands of an instruction take the places that its pattern marks with letters, but for the `Y` of the two shifts.
A word decodes to an instruction of a kind, with the numbers at these places, just if it has the pattern of the kind,
and to none just if it has no pattern; it has at most one.  Two words decode to the same instruction just if they decode
at all and are the same, or are the same shift of the same register. -/
theorem decode_grammar :
    (Opcode.all.length = 34 ∧ Opcode.all.Nodup ∧ ∀ k, k ∈ Opcode.all) ∧
      (∀ i : Instruction, i.operands.flatMap Operand.marks = i.opcode.marks) ∧
      (∀ (word : Int) (k : Opcode),
        k.accepts word = true ↔
          ∃ i, decode word = some i ∧ i.opcode = k ∧ ∀ o ∈ i.operands, o.value = k.field o.letter word) ∧
      (∀ word : Int, decode word = none ↔ ∀ k : Opcode, k.accepts word = false) ∧
      (∀ (word : Int) (k l : Opcode), k.accepts word = true → l.accepts word = true → k = l) ∧
      ∀ w w' : Int,
        (∃ i, decode w = some i ∧ decode w' = some i) ↔
          (∃ k : Opcode, k.accepts w = true) ∧
            (lowWord w = lowWord w' ∨
              ∃ k : Opcode, (k = .shiftRight ∨ k = .shiftLeft) ∧ k.accepts w = true ∧ k.accepts w' = true ∧
                k.field 'X' w = k.field 'X' w') := by
  refine ⟨⟨rfl, by decide, Opcode.mem_all⟩, Instruction.marks_operands, ?_, ?_, fun _ _ _ => Opcode.eq_of_accepts,
    exists_decode_eq_iff⟩
  · intro word k
    constructor
    · exact Opcode.exists_decode_of_accepts
    · rintro ⟨i, decoded, rfl, -⟩
      exact accepts_of_decode decoded
  · intro word
    constructor
    · intro undecoded k
      cases fits : k.accepts word with
      | false => rfl
      | true =>
        obtain ⟨i, decoded, -, -⟩ := Opcode.exists_decode_of_accepts fits
        rw [undecoded] at decoded
        contradiction
    · intro unfit
      cases decoded : decode word with
      | none => rfl
      | some i =>
        have fits := accepts_of_decode decoded
        rw [unfit] at fits
        contradiction

end Chip8
