import Chip8.Proofs.Inspection

/-!
# Listings tell instructions apart

Two words with the same text in a listing decode to the same, whatever the size of the operands
(`instructionText_inj`).  A text is read word by word: neither names nor operands have a blank in them
(`Instruction.splitOn_text`), so instructions with one text agree in their names and in the texts of their operands.
A name stands for one kind of instruction (`Opcode.name_injective`), even where it is the beginning of another name,
and the text of an operand tells its role and its number (`Operand.text_injective`).
-/

namespace Chip8

open Text (hex decimal hex_injective decimal_injective ne_blank_of_mem_hex ne_blank_of_mem_decimal)

namespace Opcode

theorem ofName?_name (k : Opcode) : ofName? k.name = some k := by cases k <;> decide

theorem name_injective : Function.Injective name := by
  intro k l same
  have found := ofName?_name k
  rw [same, ofName?_name] at found
  exact (Option.some.inj found).symm

theorem blank_not_mem_name (k : Opcode) : ' ' ∉ k.name.toList := by cases k <;> decide

end Opcode

namespace Operand

theorem head?_text (o : Operand) : o.text.toList.head? = o.label.toList.head? := by
  cases o <;> simp [text, label]

theorem text_injective : Function.Injective text := by
  intro o p same
  -- the labels of different roles begin with different letters
  have letter : o.label.toList.head? = p.label.toList.head? := by
    rw [← head?_text, same, head?_text]
  cases o <;> cases p <;> simp [label] at letter
  case height.height =>
    simp only [text, label, String.append_right_inj] at same
    rw [decimal_injective same]
  all_goals
    simp only [text, label, String.append_right_inj] at same
    rw [hex_injective _ same]

theorem blank_not_mem_text (o : Operand) : ' ' ∉ o.text.toList := by
  have hexadecimal (width n : Nat) : ' ' ∉ (hex width n).toList := fun mem => ne_blank_of_mem_hex mem rfl
  have decimal (n : Nat) : ' ' ∉ (decimal n).toList := fun mem => ne_blank_of_mem_decimal mem rfl
  cases o <;> simp [text, label, hexadecimal, decimal]

end Operand

namespace Instruction

/-- The words of a text are the name and the operands. -/
theorem splitOn_text (i : Instruction) :
    i.text.toList.splitOn ' ' = i.opcode.name.toList :: i.operands.map fun o => o.text.toList := by
  have solid : ∀ w ∈ i.opcode.name.toList :: i.operands.map fun o => o.text.toList, ' ' ∉ w := by
    simp [Opcode.blank_not_mem_name, Operand.blank_not_mem_text]
  rw [text, String.toList_intercalate, List.map_cons, List.map_map]
  exact List.splitOn_intercalate ' ' solid (List.cons_ne_nil _ _)

theorem text_injective : Function.Injective text := by
  intro i j same
  have words := i.splitOn_text
  rw [same, splitOn_text, List.cons.injEq] at words
  obtain ⟨name, operands⟩ := words
  have kind : j.opcode = i.opcode := Opcode.name_injective (String.toList_inj.1 name)
  have operands : j.operands = i.operands := by
    apply (List.map_inj_right _).1 operands
    intro o p text
    exact Operand.text_injective (String.toList_inj.1 text)
  have built := build?_opcode_operands i
  rw [← kind, ← operands, build?_opcode_operands] at built
  exact (Option.some.inj built).symm

end Instruction

/-- Texts of instructions in listings are equal just if the instructions are, or if neither is one: names and operands
do not run into each other, and numbers of any size are told apart. -/
theorem instructionText_inj {p q : Option Instruction} : instructionText p = instructionText q ↔ p = q := by
  refine ⟨fun same => ?_, fun same => by rw [same]⟩
  cases p with
  | none => exact ((instructionText_eq_unknown_iff q).1 same.symm).symm
  | some i =>
    cases q with
    | none => exact (instructionText_eq_unknown_iff (some i)).1 same
    | some j => rw [Instruction.text_injective same]

end Chip8
