import Chip8.Image.File
import Chip8.Instruction.Listing
import Chip8.Proofs.Loading
import Chip8.Proofs.Numerals

/-!
# Looking into programs

A block of bytes is taken apart into words, written as a listing and summarised, and nothing is lost on the way but a
last odd byte.

* `disassemble` gives one word for every two bytes (`length_disassemble`), each at its address, and the bytes of the
  words are those of the block (`bytes_disassemble`).  A block that is cut at an even place is taken apart piece by
  piece (`disassemble_append`);
* the columns of a line of a listing are set apart by blanks, of which numerals have none, so the address and the word
  can be read off it (`Columns.code?_ofLine`), and its text tells whether the word is an instruction
  (`isUnknownLine_line`);
* `inspection_lossless` puts this together with the summary of a program file.
-/

namespace Chip8

open Text (hex readNumeral? readNumeral?_hex ne_blank_of_mem_hex)

/-! ### Words -/

/-- The bytes of a word, the high one first. -/
def CodeWord.bytes (c : CodeWord) : List UInt8 := [UInt8.ofNat (c.word / 256), UInt8.ofNat (c.word % 256)]

/-- The two bytes behind an address, taken as a word. -/
def CodeWord.ofBytes (address : Int) (high low : UInt8) : CodeWord :=
  let word := high.toNat * 256 + low.toNat
  ⟨address, word, decode word⟩

theorem disassemble_cons (base : Int) (high low : UInt8) (rest : List UInt8) :
    disassemble base (high :: low :: rest) = CodeWord.ofBytes base high low :: disassemble (base + 2) rest := rfl

theorem CodeWord.bytes_ofBytes (address : Int) (high low : UInt8) : (ofBytes address high low).bytes = [high, low] := by
  have small := low.toNat_lt
  have front : (high.toNat * 256 + low.toNat) / 256 = high.toNat := by omega
  have back : (high.toNat * 256 + low.toNat) % 256 = low.toNat := by omega
  simp only [ofBytes, bytes, front, back, UInt8.ofNat_toNat]

theorem length_disassemble (base : Int) : ∀ data : List UInt8, (disassemble base data).length = data.length / 2
  | [] => rfl
  | [_] => by simp [disassemble]
  | high :: low :: rest => by
    rw [disassemble_cons, List.length_cons, length_disassemble (base + 2) rest]
    simp only [List.length_cons]
    omega

theorem getElem?_disassemble (base : Int) : ∀ (data : List UInt8) (k : Nat) (c : CodeWord),
    (disassemble base data)[k]? = some c →
      c.address = base + 2 * k ∧ c.word < 65536 ∧ c.instruction = decode c.word
  | [], _, _, found => by simp [disassemble] at found
  | [_], _, _, found => by simp [disassemble] at found
  | high :: low :: rest, 0, c, found => by
    obtain rfl : CodeWord.ofBytes base high low = c := Option.some.inj found
    have bounds := And.intro high.toNat_lt low.toNat_lt
    exact ⟨by simp [CodeWord.ofBytes], by simp only [CodeWord.ofBytes]; omega, rfl⟩
  | high :: low :: rest, k + 1, c, found => by
    obtain ⟨address, small, decoded⟩ := getElem?_disassemble (base + 2) rest k c found
    exact ⟨by rw [address]; omega, small, decoded⟩

/-- The bytes of all words are those of the block, without an odd one at its end. -/
theorem bytes_disassemble (base : Int) : ∀ data : List UInt8,
    (disassemble base data).flatMap CodeWord.bytes = data.take (data.length / 2 * 2)
  | [] => rfl
  | [_] => by simp [disassemble]
  | high :: low :: rest => by
    have length : (high :: low :: rest).length / 2 * 2 = rest.length / 2 * 2 + 2 := by
      simp only [List.length_cons]
      omega
    rw [disassemble_cons, List.flatMap_cons, CodeWord.bytes_ofBytes, bytes_disassemble (base + 2) rest, length]
    rfl

/-- A block that is cut at an even place is taken apart piece by piece. -/
theorem disassemble_append (base : Int) : ∀ front back : List UInt8, front.length % 2 = 0 →
    disassemble base (front ++ back) = disassemble base front ++ disassemble (base + front.length) back
  | [], back, _ => by simp [disassemble]
  | [_], _, even => by simp at even
  | high :: low :: rest, back, even => by
    have even' : rest.length % 2 = 0 := by
      simp only [List.length_cons] at even
      omega
    have address : base + 2 + rest.length = base + (high :: low :: rest).length := by
      simp only [List.length_cons]
      omega
    rw [List.cons_append, List.cons_append, disassemble_cons, disassemble_append (base + 2) rest back even', address]
    rfl

/-! ### Lines -/

/-- The columns of a line of a listing. -/
structure Columns where
  address : List Char
  word : List Char
  text : List Char

namespace Columns

/-- The columns of a line.  The first two end in front of a blank, and two blanks stand behind each of them. -/
def ofLine (line : String) : Columns :=
  let rest := (line.toList.dropWhile (· != ' ')).drop 2
  ⟨line.toList.takeWhile (· != ' '), rest.takeWhile (· != ' '), (rest.dropWhile (· != ' ')).drop 2⟩

/-- The word that the first two columns tell of. -/
def code? (c : Columns) : Option CodeWord :=
  match c.address with
  | '0' :: 'x' :: numeral =>
    match readNumeral? 16 numeral, readNumeral? 16 c.word with
    | some address, some word => some ⟨address, word, decode word⟩
    | _, _ => none
  | _ => none

theorem ofLine_line (c : CodeWord) :
    ofLine c.line =
      ⟨'0' :: 'x' :: (hex 3 c.address.toNat).toList, (hex 4 c.word).toList,
        (instructionText c.instruction).toList⟩ := by
  have line : c.line.toList =
      ('0' :: 'x' :: (hex 3 c.address.toNat).toList) ++
        (' ' :: ' ' :: ((hex 4 c.word).toList ++ (' ' :: ' ' :: (instructionText c.instruction).toList))) := by
    simp [CodeWord.line]
  have first : ∀ a ∈ '0' :: 'x' :: (hex 3 c.address.toNat).toList, (a != ' ') = true := by
    simp only [List.forall_mem_cons, bne_iff_ne]
    exact ⟨by decide, by decide, fun a => ne_blank_of_mem_hex⟩
  have second : ∀ a ∈ (hex 4 c.word).toList, (a != ' ') = true := by
    intro a mem
    exact bne_iff_ne.2 (ne_blank_of_mem_hex mem)
  have blank : ∀ cs : List Char, (' ' :: cs).takeWhile (· != ' ') = [] ∧ (' ' :: cs).dropWhile (· != ' ') = ' ' :: cs :=
    fun _ => ⟨rfl, rfl⟩
  rw [ofLine, line]
  simp only [List.takeWhile_append_of_pos first, List.dropWhile_append_of_pos first, blank, List.append_nil,
    List.drop_succ_cons, List.drop_zero, List.takeWhile_append_of_pos second, List.dropWhile_append_of_pos second]

theorem code?_ofLine {c : CodeWord} (natural : 0 ≤ c.address) (decoded : c.instruction = decode c.word) :
    (ofLine c.line).code? = some c := by
  rw [ofLine_line]
  simp only [code?, readNumeral?_hex, Int.toNat_of_nonneg natural, ← decoded]

end Columns

private theorem Opcode.exists_name_eq (k : Opcode) : ∃ c cs, k.name.toList = c :: cs ∧ c ≠ '?' := by
  have first : k.name.toList ≠ [] ∧ k.name.toList.head? ≠ some '?' := by cases k <;> decide
  obtain ⟨c, cs, name⟩ := List.exists_cons_of_ne_nil first.1
  refine ⟨c, cs, name, ?_⟩
  rintro rfl
  exact first.2 (by rw [name]; rfl)

theorem instructionText_eq_unknown_iff (o : Option Instruction) : instructionText o = "???" ↔ o = none := by
  cases o with
  | none => exact iff_of_true rfl rfl
  | some i =>
    -- the text of an instruction begins with the name of its kind
    obtain ⟨c, cs, name, letter⟩ := i.opcode.exists_name_eq
    have first : (instructionText (some i)).toList.head? = some c := by
      rw [instructionText, Instruction.text, String.toList_intercalate, List.map_cons, name]
      cases i.operands.map Operand.text <;> simp [List.intercalate]
    refine iff_of_false ?_ (by simp)
    intro same
    rw [same] at first
    exact letter (Option.some.inj first).symm

/-! ### Programs -/

/-- Is the text in a line the sign for unrecognized words? -/
def isUnknownLine (line : String) : Bool := (Columns.ofLine line).text == "???".toList

theorem isUnknownLine_line (c : CodeWord) : isUnknownLine c.line = !c.instruction.isSome := by
  rw [isUnknownLine, Columns.ofLine_line, Bool.eq_iff_iff, beq_iff_eq, String.toList_inj,
    instructionText_eq_unknown_iff]
  cases c.instruction <;> simp

theorem code?_of_listing (base : Nat) (data : List UInt8) :
    (listing base data).map (fun line => (Columns.ofLine line).code?) = (disassemble base data).map some := by
  rw [listing, List.map_map]
  apply List.map_congr_left
  intro c mem
  obtain ⟨k, found⟩ := List.mem_iff_getElem?.1 mem
  obtain ⟨address, -, decoded⟩ := getElem?_disassemble base data k c found
  have natural : 0 ≤ c.address := by omega
  rw [Function.comp_apply, Columns.code?_ofLine natural decoded]

theorem counts_of_ofImage (path : String) (image : List UInt8) :
    let summary := ImageSummary.ofImage path image
    let lines := listing programStart image
    summary.words = lines.length ∧ summary.unrecognized = lines.countP isUnknownLine ∧
      summary.recognized + summary.unrecognized = summary.words := by
  intro summary lines
  have length : lines.length = image.length / 2 := by
    rw [← length_disassemble programStart image]
    exact List.length_map _
  have unknown : lines.countP isUnknownLine =
      (disassemble programStart image).countP fun c => !c.instruction.isSome := by
    rw [← funext isUnknownLine_line]
    exact List.countP_map
  have both := List.length_eq_countP_add_countP (fun c : CodeWord => c.instruction.isSome)
    (l := disassemble programStart image)
  simp only [Bool.not_eq_true, Bool.decide_eq_false] at both
  rw [length_disassemble] at both
  refine ⟨length.symm, ?_, ?_⟩
  · rw [unknown]
    simp only [summary, ImageSummary.ofImage]
    omega
  · simp only [summary, ImageSummary.ofImage]
    omega

theorem getElem?_endAddress (path : String) {image : List UInt8} (filled : 1 ≤ image.length)
    (fits : image.length ≤ maxProgramSize) :
    (Memory.powerOn image).cells[(ImageSummary.ofImage path image).endAddress]? = image.getLast? := by
  have front : (font ++ List.replicate (programStart - font.length) 0).length = programStart := by
    rw [List.length_append, List.length_replicate]
    rfl
  have last : (ImageSummary.ofImage path image).endAddress = programStart + (image.length - 1) := by
    simp only [ImageSummary.ofImage]
    omega
  rw [← Vector.getElem?_toList, Memory.toList_powerOn fits, last, List.append_assoc (font ++ _),
    List.getElem?_append_right (by omega), front, Nat.add_sub_cancel_left, List.getElem?_append_left (by omega),
    List.getLast?_eq_getElem?]

/-- Looking into a program loses nothing but a last odd byte.

Every block of bytes is taken apart into half as many words, rounded down, each at its address and with what it decodes
to, and their bytes in order are those of the block.  A block that is cut at an even place is taken apart piece by
piece.  Every program file of 1 to 3584 bytes has a listing with one line per word, from whose first two columns the
words are read back, and a summary that counts the lines, those with the sign for unrecognized words and the others, and
ends with the address of the last byte. -/
theorem inspection_lossless :
    (∀ (base : Int) (data : List UInt8),
      (disassemble base data).length = data.length / 2 ∧
        (∀ (k : Nat) (c : CodeWord), (disassemble base data)[k]? = some c →
          c.address = base + 2 * k ∧ c.word < 65536 ∧ c.instruction = decode c.word) ∧
        (disassemble base data).flatMap CodeWord.bytes = data.take (data.length / 2 * 2)) ∧
      (∀ (base : Int) (front back : List UInt8), front.length % 2 = 0 →
        disassemble base (front ++ back) = disassemble base front ++ disassemble (base + front.length) back) ∧
      ∀ (f : Files) (path : String) (image : List UInt8),
        f.read path = .ok image → 1 ≤ image.length → image.length ≤ 3584 →
        let words := disassemble programStart image
        let lines := listing programStart image
        lines.length = words.length ∧
          lines.map (fun line => (Columns.ofLine line).code?) = words.map some ∧
          ∃ summary, describe f path = .ok summary ∧
            summary.words = lines.length ∧
            summary.unrecognized = lines.countP isUnknownLine ∧
            summary.recognized + summary.unrecognized = summary.words ∧
            (Memory.powerOn image).cells[summary.endAddress]? = image.getLast? ∧
            summary.endAddress = programStart + image.length - 1 ∧
            summary.endAddress ≤ 0xFFF := by
  refine ⟨?_, disassemble_append, ?_⟩
  · intro base data
    exact ⟨length_disassemble base data, getElem?_disassemble base data, bytes_disassemble base data⟩
  · intro f path image read filled fits words lines
    have accepted := readImage_of_ok read (checkImage_eq_ok_iff.2 ⟨filled, fits⟩)
    obtain ⟨counted, unknown, total⟩ := counts_of_ofImage (absolutePath f.location path) image
    refine ⟨List.length_map _, code?_of_listing programStart image, _, describe_of_readImage accepted, counted, unknown,
      total, getElem?_endAddress _ filled fits, rfl, ?_⟩
    simp only [ImageSummary.ofImage, programStart]
    omega

/-- A file of seven bytes: an instruction, two words that are none, and an odd byte. -/
theorem inspection_lossless_odd :
    let image : List UInt8 := [0x12, 0x28, 0xFF, 0xFF, 0x00, 0x00, 0x60]
    let f : Files := (Directory.ofFiles "/home/user" [("odd.ch8", image)] []).toFiles
    f.read "odd.ch8" = .ok image ∧ (listing programStart image).length = 3 ∧
      ∃ summary, describe f "odd.ch8" = .ok summary ∧ summary.words = 3 ∧ summary.endAddress = 0x206 ∧
        summary.recognized + summary.unrecognized = 3 ∧ (Memory.powerOn image).cells[0x206]? = some 0x60 := by
  intro image f
  have content : (f.read "odd.ch8").toOption = some image := by decide +kernel
  have read : f.read "odd.ch8" = .ok image := by
    generalize f.read "odd.ch8" = r at content ⊢
    cases r with
    | error => contradiction
    | ok => exact congrArg Except.ok (Option.some.inj content)
  obtain ⟨-, -, files⟩ := inspection_lossless
  obtain ⟨lines, -, summary, described, words, -, total, last, address, -⟩ :=
    files f "odd.ch8" image read (by decide) (by decide)
  have length : (listing programStart image).length = 3 := by
    rw [lines, length_disassemble]
    decide
  rw [length] at words
  rw [words] at total
  have address' : summary.endAddress = 0x206 := address
  rw [address'] at last
  exact ⟨read, length, summary, described, words, address', total, last⟩

end Chip8
