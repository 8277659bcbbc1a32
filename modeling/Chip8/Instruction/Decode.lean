import Chip8.Instruction.Basic
import Chip8.Instruction.Pattern

/-!
# Decoding

`decode` reads a sixteen-bit word as an instruction.  It takes any integer and looks at its low sixteen bits, in
two's complement; a word that is no instruction gives `none`.  `disassemble` decodes a block of bytes word by word.
-/

namespace Chip8

/-- The arithmetic instruction of `VX` and `VY` that the last place of its word selects. -/
private def arithmetic? (x y : Nat) : Nat → Option Instruction
  | 0x0 => some (.copy x y)
  | 0x1 => some (.or x y)
  | 0x2 => some (.and x y)
  | 0x3 => some (.xor x y)
  | 0x4 => some (.add x y)
  | 0x5 => some (.subtract x y)
  | 0x6 => some (.shiftRight x)
  | 0x7 => some (.difference x y)
  | 0xE => some (.shiftLeft x)
  | _ => none

/-- The instruction on keys, timers, the index register or memory that the low byte of its word selects. -/
private def device? (x : Nat) : Nat → Option Instruction
  | 0x07 => some (.getDelayTimer x)
  | 0x0A => some (.getKeyPress x)
  | 0x15 => some (.setDelayTimer x)
  | 0x18 => some (.setSoundTimer x)
  | 0x1E => some (.addIndex x)
  | 0x29 => some (.setIndexCharacter x)
  | 0x33 => some (.storeBCD x)
  | 0x55 => some (.regDump x)
  | 0x65 => some (.regLoad x)
  | _ => none

/-- The instruction of a sixteen-bit word, if it has one. -/
def decode (word : Int) : Option Instruction :=
  let w := lowWord word
  let x := w / 256 % 16
  let y := w / 16 % 16
  let n := w % 16
  let nn := w % 256
  let nnn := w % 4096
  match w / 4096 with
  | 0x0 => if w = 0x00E0 then some .clearDisplay else if w = 0x00EE then some .ret else none
  | 0x1 => some (.jump nnn)
  | 0x2 => some (.call nnn)
  | 0x3 => some (.skipEqVal x nn)
  | 0x4 => some (.skipNotEqVal x nn)
  | 0x5 => if n = 0 then some (.skipEq x y) else none
  | 0x6 => some (.setVal x nn)
  | 0x7 => some (.addVal x nn)
  | 0x8 => arithmetic? x y n
  | 0x9 => if n = 0 then some (.skipNotEq x y) else none
  | 0xA => some (.setIndex nnn)
  | 0xB => some (.jumpOffset nnn)
  | 0xC => some (.rand x nn)
  | 0xD => some (.drawSprite x y n)
  | 0xE => if nn = 0x9E then some (.skipKeyPressed x) else if nn = 0xA1 then some (.skipKeyNotPressed x) else none
  | 0xF => device? x nn
  | _ => none

private theorem decode_arithmetic {word : Int} (family : lowWord word / 4096 = 0x8) :
    decode word = arithmetic? (lowWord word / 256 % 16) (lowWord word / 16 % 16) (lowWord word % 16) := by
  simp only [decode, family]

private theorem decode_device {word : Int} (family : lowWord word / 4096 = 0xF) :
    decode word = device? (lowWord word / 256 % 16) (lowWord word % 256) := by
  simp only [decode, family]

private theorem fits_arithmetic? {x y n : Nat} (hx : x < 16) (hy : y < 16) {i : Instruction}
    (h : arithmetic? x y n = some i) : i.Fits := by
  unfold arithmetic? at h
  split at h
  all_goals first
    | contradiction
    | obtain rfl := Option.some.inj h
      simp [Instruction.Fits, Instruction.operands, Operand.value, Operand.limit, hx, hy]

private theorem fits_device? {x nn : Nat} (hx : x < 16) {i : Instruction} (h : device? x nn = some i) : i.Fits := by
  unfold device? at h
  split at h
  all_goals first
    | contradiction
    | obtain rfl := Option.some.inj h
      simpa [Instruction.Fits, Instruction.operands, Operand.value, Operand.limit] using hx

/-- The operands of a decoded instruction fit into their places. -/
theorem fits_of_decode {word : Int} {i : Instruction} (h : decode word = some i) : i.Fits := by
  have hx : lowWord word / 256 % 16 < 16 := Nat.mod_lt _ (by omega)
  have hy : lowWord word / 16 % 16 < 16 := Nat.mod_lt _ (by omega)
  have hn : lowWord word % 16 < 16 := Nat.mod_lt _ (by omega)
  have hnn : lowWord word % 256 < 256 := Nat.mod_lt _ (by omega)
  have hnnn : lowWord word % 4096 < 4096 := Nat.mod_lt _ (by omega)
  by_cases arithmetic : lowWord word / 4096 = 0x8
  · rw [decode_arithmetic arithmetic] at h
    exact fits_arithmetic? hx hy h
  by_cases device : lowWord word / 4096 = 0xF
  · rw [decode_device device] at h
    exact fits_device? hx h
  -- each of the other families has one instruction, or a few that are told apart by a condition
  simp only [decode] at h
  repeat' split at h
  all_goals first
    | contradiction
    | obtain rfl := Option.some.inj h
      simp [Instruction.Fits, Instruction.operands, Operand.value, Operand.limit, hx, hy, hn, hnn, hnnn]

private theorem accepts_of_arithmetic? {word : Int} (family : lowWord word / 4096 = 0x8) {x y : Nat} {i : Instruction}
    (h : arithmetic? x y (lowWord word % 16) = some i) : i.opcode.accepts word = true := by
  unfold arithmetic? at h
  split at h
  all_goals first
    | contradiction
    | obtain rfl := Option.some.inj h
      simp [Instruction.opcode, Opcode.accepts, Opcode.pattern, places, placeValue?, *]

private theorem accepts_of_device? {word : Int} (family : lowWord word / 4096 = 0xF) {x : Nat} {i : Instruction}
    (h : device? x (lowWord word % 256) = some i) : i.opcode.accepts word = true := by
  unfold device? at h
  split at h
  all_goals first
    | contradiction
    | obtain rfl := Option.some.inj h
      simp [Instruction.opcode, Opcode.accepts, Opcode.pattern, places, placeValue?, family]
      omega

/-- A word that decodes has the pattern of its instruction. -/
theorem accepts_of_decode {word : Int} {i : Instruction} (h : decode word = some i) :
    i.opcode.accepts word = true := by
  by_cases arithmetic : lowWord word / 4096 = 0x8
  · rw [decode_arithmetic arithmetic] at h
    exact accepts_of_arithmetic? arithmetic h
  by_cases device : lowWord word / 4096 = 0xF
  · rw [decode_device device] at h
    exact accepts_of_device? device h
  simp only [decode] at h
  repeat' split at h
  all_goals first
    | contradiction
    | obtain rfl := Option.some.inj h
      simp [Instruction.opcode, Opcode.accepts, Opcode.pattern, places, placeValue?]
      omega

/-- A word with the pattern of a kind decodes to the instruction that the pattern describes. -/
theorem decode_of_accepts {k : Opcode} {word : Int} (h : k.accepts word = true) : decode word = k.instance? word := by
  -- patterns are about single places, decoding also reads two or three of them as one number
  have byte : lowWord word % 256 = lowWord word / 16 % 16 * 16 + lowWord word % 16 := by omega
  have address : lowWord word % 4096 =
      (lowWord word / 256 % 16 * 16 + lowWord word / 16 % 16) * 16 + lowWord word % 16 := by omega
  rw [Opcode.instance?, if_pos h]
  cases k with
  | clearDisplay =>
    simp [Opcode.accepts, Opcode.pattern, places, placeValue?] at h
    have whole : lowWord word = 0x00E0 := by omega
    simp [decode, whole, Opcode.takes, Opcode.pattern, Instruction.build?]
  | ret =>
    simp [Opcode.accepts, Opcode.pattern, places, placeValue?] at h
    have whole : lowWord word = 0x00EE := by omega
    simp [decode, whole, Opcode.takes, Opcode.pattern, Instruction.build?]
  | _ =>
    simp [Opcode.accepts, Opcode.pattern, places, placeValue?] at h
    simp [decode, arithmetic?, device?, byte, address, ← h, Opcode.takes, Opcode.pattern, Opcode.field, places,
      Instruction.build?]

/-- A word of a program, at its address. -/
structure CodeWord where
  /-- The address of its first byte. -/
  address : Int
  /-- Its value. -/
  word : Nat
  /-- What it decodes to. -/
  instruction : Option Instruction
deriving DecidableEq, Repr

/-- The complete big-endian words of a block of bytes that starts at address `base`; a last odd byte is left out. -/
def disassemble (base : Int) : List UInt8 → List CodeWord
  | high :: low :: rest =>
    let word := high.toNat * 256 + low.toNat
    ⟨base, word, decode word⟩ :: disassemble (base + 2) rest
  | _ => []

end Chip8
