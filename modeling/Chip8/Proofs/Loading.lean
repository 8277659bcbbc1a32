import Chip8.CommandLine.Session
import Chip8.Proofs.Bare.Storage

/-!
# Which program files are accepted

A program file is read by `readImage`, summarised by `describe`, booted by `Machine.ofFile`, and shown by the program in
a table or as a listing.  All of them rest on `checkImage`; a machine checks the size of its image for itself, by
`fitImage`.

* `fitImage_of_checkImage`: the check of the machine refuses nothing that the check of the file lets through;
* `Memory.toList_powerOn` is the memory of a machine with a program, byte by byte, and `Machine.boot_of_checkImage` the
  machine that is booted;
* `CommandLine.Accepted` says what becomes of a file that is accepted, `CommandLine.Refused` of one that is not, and
  `CommandLine.accepted_iff_size` that the size alone decides between them.
-/

namespace Chip8

section Checks

variable {image : List UInt8}

theorem checkImage_eq_ok_iff : checkImage image = .ok () ↔ 1 ≤ image.length ∧ image.length ≤ maxProgramSize := by
  unfold checkImage
  split
  · simp only [reduceCtorEq, false_iff]
    omega
  · split
    · simp only [reduceCtorEq, false_iff]
      omega
    · simp only [true_iff]
      omega

/-- An image that passes the check of files also passes that of the machine. -/
theorem fitImage_of_checkImage (passes : checkImage image = .ok ()) : fitImage image = .ok () :=
  if_neg (Nat.not_lt_of_le (checkImage_eq_ok_iff.1 passes).2)

variable {f : Files} {path : String}

theorem readImage_of_ok (read : f.read path = .ok image) (passes : checkImage image = .ok ()) :
    readImage f path = .ok image := by
  simp only [readImage, read, passes]

theorem readImage_of_error {e : ImageError} (read : f.read path = .ok image) (fails : checkImage image = .error e) :
    readImage f path = .error (.image e) := by
  simp only [readImage, read, fails]

/-- An image that is accepted is summarised. -/
theorem describe_of_readImage (read : readImage f path = .ok image) :
    describe f path = .ok (.ofImage (absolutePath f.location path) image) := by
  rw [describe, read]
  rfl

end Checks

/-- The memory of a machine with a program: the glyphs, zeros up to the start of programs, the program, and zeros. -/
theorem Memory.toList_powerOn {image : List UInt8} (fits : image.length ≤ maxProgramSize) :
    (powerOn image).cells.toList =
      font ++ List.replicate (programStart - font.length) 0 ++ image ++
        List.replicate (maxProgramSize - image.length) 0 := by
  have room : programStart + image.length ≤ 4096 := Nat.add_le_add_left fits programStart
  have inFront : font.length ≤ programStart := by decide
  have below : programStart ≤ 4096 := by decide
  have zeros : blank.cells.toList = List.replicate 4096 0 := Vector.toList_replicate
  -- the font lies within the bytes in front of the program
  have lettered : (blank.store 0 font).cells.toList = font ++ List.replicate (4096 - font.length) 0 := by
    rw [toList_store _ _ _ (by decide), zeros, List.take_zero, List.nil_append, Nat.zero_add, List.drop_replicate]
  have front : (font ++ List.replicate (4096 - font.length) (0 : UInt8)).take programStart =
      font ++ List.replicate (programStart - font.length) 0 := by
    rw [List.take_append, List.take_of_length_le inFront, List.take_replicate,
      Nat.min_eq_left (Nat.sub_le_sub_right below _)]
  have back : (font ++ List.replicate (4096 - font.length) (0 : UInt8)).drop (programStart + image.length) =
      List.replicate (maxProgramSize - image.length) 0 := by
    have behind : font.length ≤ programStart + image.length := Nat.le_add_right_of_le inFront
    have rest : 4096 - font.length - (programStart + image.length - font.length) = maxProgramSize - image.length := by
      unfold maxProgramSize memorySize
      omega
    rw [List.drop_append, List.drop_of_length_le behind, List.nil_append, List.drop_replicate, rest]
  rw [powerOn, toList_store _ _ _ room, lettered, front, back]

namespace Machine

variable {τ : Type}

/-- A machine as it is switched on, with a program. -/
structure Booted (random : RandomSource) (catchUp : Bool) (image : List UInt8) (m : Machine τ) : Prop where
  program : m.program = image
  memory : m.memory.cells.toList =
    font ++ List.replicate (0x200 - 80) 0 ++ image ++ List.replicate (3584 - image.length) 0
  pc : m.pc = 0x200
  /-- Nothing else differs from a machine without a program. -/
  rest : m = { fresh random catchUp with memory := m.memory, program := m.program }

/-- No machine refuses an image that passes the check of files. -/
theorem load_of_checkImage {image : List UInt8} (passes : checkImage image = .ok ()) (m : Machine τ) :
    m.load image = .ok { m with memory := m.memory.withProgram image, program := image } := by
  rw [load, fitImage_of_checkImage passes]
  rfl

theorem boot_of_checkImage {image : List UInt8} (passes : checkImage image = .ok ()) (random : RandomSource)
    (catchUp : Bool) : ∃ m : Machine τ, boot random catchUp image = .ok m ∧ m.Booted random catchUp image := by
  refine ⟨{ fresh random catchUp with memory := Memory.powerOn image, program := image }, ?_, rfl, ?_, rfl, rfl⟩
  · rw [boot, load_of_checkImage passes]
    rfl
  · exact Memory.toList_powerOn (checkImage_eq_ok_iff.1 passes).2

end Machine

namespace CommandLine

/-- The command line asks for the table of a file. -/
def AsksForInfo (path : String) (arguments : List String) : Prop :=
  ∃ o, parseArguments arguments = .request path o ∧ o.info = true

/-- The command line asks for the listing of a file, and not for its table. -/
def AsksForListing (path : String) (arguments : List String) : Prop :=
  ∃ o, parseArguments arguments = .request path o ∧ o.info = false ∧ o.listing = true

section Lines

variable {path : String} (noSwitch : path.toList.head? ≠ some '-')

include noSwitch

theorem Word.ofText_of_head : Word.ofText path = some (.value path) := by
  unfold Word.ofText
  split <;> simp_all

/-- A path without a dash in front, and a switch without a number behind it or in front of it, are two words. -/
theorem parseArguments_of_head {switch : String} {s : Switch} (long : Word.ofText switch = some (.long s none))
    (alone : switch ≠ "--") :
    parseArguments [path, switch] = interpret [.value path, .long s none] ∧
      parseArguments [switch, path] = interpret [.long s none, .value path] := by
  have value := Word.ofText_of_head noSwitch
  have noDivider : path ≠ "--" := by
    rintro rfl
    exact noSwitch rfl
  constructor <;> simp [parseArguments, Word.ofTexts, noDivider, alone, value, long]

theorem asksForInfo_of_head : AsksForInfo path [path, "--info"] ∧ AsksForInfo path ["--info", path] := by
  have word : Word.ofText "--info" = some (.long .info none) := rfl
  obtain ⟨behind, front⟩ := parseArguments_of_head noSwitch word (by decide)
  exact ⟨⟨_, behind, rfl⟩, ⟨_, front, rfl⟩⟩

theorem asksForListing_of_head :
    AsksForListing path [path, "--disassemble"] ∧ AsksForListing path ["--disassemble", path] := by
  have word : Word.ofText "--disassemble" = some (.long .disassemble none) := rfl
  obtain ⟨behind, front⟩ := parseArguments_of_head noSwitch word (by decide)
  exact ⟨⟨_, behind, rfl, rfl⟩, ⟨_, front, rfl, rfl⟩⟩

end Lines

theorem homePath_of_head {path : String} (homes : Homes) (noHome : path.toList.head? ≠ some '~') :
    homePath homes path = some path := by
  unfold homePath
  split
  · simp_all
  · rfl

section Requests

variable {τ : Type} {f : Files} {path : String} (homes : Homes) (noHome : path.toList.head? ≠ some '~')
  (random : RandomSource) {arguments : List String}

include noHome

theorem plan_of_request {o : Options} (parsed : parseArguments arguments = .request path o) :
    (Session.plan f homes random arguments : Session τ) = Session.ofRequest f random path o := by
  simp only [Session.plan, parsed, homePath_of_head homes noHome]

variable (regular : f.isFile path = true)

include regular

theorem plan_of_asksForInfo (asks : AsksForInfo path arguments) :
    Session.plan f homes random arguments = (.report (infoReport f path) : Session τ) := by
  obtain ⟨o, parsed, info⟩ := asks
  simp [plan_of_request homes noHome random parsed, Session.ofRequest, regular, info]

theorem plan_of_asksForListing (asks : AsksForListing path arguments) :
    Session.plan f homes random arguments = (.report (listingReport f path) : Session τ) := by
  obtain ⟨o, parsed, noInfo, listing⟩ := asks
  simp [plan_of_request homes noHome random parsed, Session.ofRequest, regular, noInfo, listing]

end Requests

section Verdicts

variable (τ : Type) (f : Files) (homes : Homes) (path : String)

/-- What becomes of a program file that is accepted. -/
structure Accepted (image : List UInt8) : Prop where
  read : readImage f path = .ok image
  describe : describe f path = .ok (.ofImage (absolutePath f.location path) image)
  /-- The check of the machine never refuses the image. -/
  load (m : Machine τ) : m.load image = .ok { m with memory := m.memory.withProgram image, program := image }
  create (random : RandomSource) (catchUp : Bool) :
    ∃ m : Machine τ, Machine.ofFile f path random catchUp = .ok m ∧ m.Booted random catchUp image
  info (random : RandomSource) {arguments : List String} (asks : AsksForInfo path arguments) :
    Session.plan f homes random arguments =
      (.report ⟨0, infoText (.ofImage (absolutePath f.location path) image), ""⟩ : Session τ)
  listing (random : RandomSource) {arguments : List String} (asks : AsksForListing path arguments) :
    Session.plan f homes random arguments = (.report ⟨0, listingText image, ""⟩ : Session τ)

/-- What becomes of a program file that is refused. -/
structure Refused (e : ImageError) : Prop where
  read : readImage f path = .error (.image e)
  describe : describe f path = .error (.image e)
  create (random : RandomSource) (catchUp : Bool) :
    (Machine.ofFile f path random catchUp : Except ProgramError (Machine τ)) = .error (.image e)
  info (random : RandomSource) {arguments : List String} (asks : AsksForInfo path arguments) :
    Session.plan f homes random arguments =
      (.report ⟨1, "", "Error reading program: " ++ e.message ++ "\n"⟩ : Session τ)
  listing (random : RandomSource) {arguments : List String} (asks : AsksForListing path arguments) :
    Session.plan f homes random arguments =
      (.report ⟨1, "", "Error reading program: " ++ e.message ++ "\n"⟩ : Session τ)

variable {f path} {image : List UInt8} (regular : f.isFile path = true) (read : f.read path = .ok image)
  (noHome : path.toList.head? ≠ some '~')

include regular read noHome

theorem accepted_of_checkImage (passes : checkImage image = .ok ()) : Accepted τ f homes path image := by
  have image' := readImage_of_ok read passes
  have summary := describe_of_readImage image'
  refine ⟨image', summary, Machine.load_of_checkImage passes, fun random catchUp => ?_, fun random _ asks => ?_,
    fun random _ asks => ?_⟩
  · obtain ⟨m, boots, booted⟩ := Machine.boot_of_checkImage (τ := τ) passes random catchUp
    exact ⟨m, by simp only [Machine.ofFile, image', boots], booted⟩
  · simp only [plan_of_asksForInfo homes noHome random regular asks, infoReport, summary]
  · simp only [plan_of_asksForListing homes noHome random regular asks, listingReport, image']

theorem refused_of_checkImage {e : ImageError} (fails : checkImage image = .error e) : Refused τ f homes path e := by
  have error := readImage_of_error read fails
  have summary : describe f path = .error (.image e) := by
    rw [describe, error]
    rfl
  refine ⟨error, summary, fun random catchUp => ?_, fun random _ asks => ?_, fun random _ asks => ?_⟩
  · simp only [Machine.ofFile, error]
  · simp only [plan_of_asksForInfo homes noHome random regular asks, infoReport, summary]
    rfl
  · simp only [plan_of_asksForListing homes noHome random regular asks, listingReport, error]
    rfl

end Verdicts

/-- All ways to use a program file accept the same images, those of 1 to 3584 bytes, and refuse the others for the same
reason. -/
theorem accepted_iff_size {τ : Type} {f : Files} (homes : Homes) {path : String} {image : List UInt8}
    (regular : f.isFile path = true) (read : f.read path = .ok image) (noHome : path.toList.head? ≠ some '~')
    (noSwitch : path.toList.head? ≠ some '-') :
    (Accepted τ f homes path image ↔ 1 ≤ image.length ∧ image.length ≤ 3584) ∧
      (image.length = 0 → Refused τ f homes path .empty) ∧
      (3584 < image.length → Refused τ f homes path (.overLimit image.length)) ∧
      (AsksForInfo path [path, "--info"] ∧ AsksForInfo path ["--info", path]) ∧
      AsksForListing path [path, "--disassemble"] ∧ AsksForListing path ["--disassemble", path] := by
  refine ⟨⟨fun accepted => ?_, fun fits => ?_⟩, fun none => ?_, fun large => ?_, asksForInfo_of_head noSwitch,
    asksForListing_of_head noSwitch⟩
  · rw [← show maxProgramSize = 3584 from rfl, ← checkImage_eq_ok_iff]
    cases verdict : checkImage image with
    | ok => rfl
    | error e =>
      have refused := readImage_of_error read verdict
      rw [accepted.read] at refused
      contradiction
  · exact accepted_of_checkImage τ homes regular read noHome (checkImage_eq_ok_iff.2 fits)
  · exact refused_of_checkImage τ homes regular read noHome (if_pos none)
  · exact refused_of_checkImage τ homes regular read noHome ((if_neg (by omega)).trans (if_pos large))

/-- A file of one instruction, in the directory of the user. -/
theorem accepted_iff_size_jump :
    let f := (Directory.ofFiles "/home/user" [("jump.ch8", [0x12, 0x00])] []).toFiles
    f.isFile "jump.ch8" = true ∧ f.read "jump.ch8" = .ok [0x12, 0x00] ∧
      Accepted Rat f ⟨none, []⟩ "jump.ch8" [0x12, 0x00] := by
  intro f
  have regular : f.isFile "jump.ch8" = true := by decide +kernel
  have content : (f.read "jump.ch8").toOption = some [0x12, 0x00] := by decide +kernel
  have read : f.read "jump.ch8" = .ok [0x12, 0x00] := by
    generalize f.read "jump.ch8" = r at content ⊢
    cases r with
    | error => contradiction
    | ok => exact congrArg Except.ok (Option.some.inj content)
  exact ⟨regular, read, (accepted_iff_size ⟨none, []⟩ regular read (by decide) (by decide)).1.2 (by decide)⟩

end CommandLine

end Chip8
