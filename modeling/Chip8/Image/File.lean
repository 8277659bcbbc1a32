import Chip8.Files.Directory
import Chip8.Image.Basic
import Chip8.Instruction.Decode
import Chip8.Machine.Basic

/-!
# Program files

What is done with a program file before it runs.

* `readImage` reads a program image and refuses what is none;
* `ImageSummary.ofImage` counts the words of an image, and `describe` does so for a file;
* `Machine.boot` is a machine at the first instruction of an image, and `Machine.ofFile` is that of a file.
-/

namespace Chip8

/-- Why a program file is refused. -/
inductive ProgramError where
  /-- It cannot be read. -/
  | file (error : FileError)
  /-- It holds no program image. -/
  | image (error : ImageError)
deriving DecidableEq, Repr

def ProgramError.message : ProgramError → String
  | file e => e.message
  | image e => e.message

/-- The program image in a file. -/
def readImage (f : Files) (path : String) : Except ProgramError (List UInt8) :=
  match f.read path with
  | .error e => .error (.file e)
  | .ok image =>
    match checkImage image with
    | .error e => .error (.image e)
    | .ok () => .ok image

/-- What there is to say about a program image. -/
structure ImageSummary where
  /-- The path of the file, in full. -/
  path : String
  size : Nat
  /-- The number of complete words. -/
  words : Nat
  /-- How many of them are instructions. -/
  recognized : Nat
  /-- How many of them are none. -/
  unrecognized : Nat
  /-- The address of the last byte in memory. -/
  endAddress : Nat
deriving DecidableEq, Repr

/-- The summary of an image with at least one byte. -/
def ImageSummary.ofImage (path : String) (image : List UInt8) : ImageSummary :=
  let words := image.length / 2
  let recognized := (disassemble programStart image).countP fun c => c.instruction.isSome
  ⟨path, image.length, words, recognized, words - recognized, programStart + image.length - 1⟩

/-- The summary of a program file. -/
def describe (f : Files) (path : String) : Except ProgramError ImageSummary := do
  let image ← readImage f path
  return ImageSummary.ofImage (absolutePath f.location path) image

namespace Machine

variable {τ : Type}

/-- A machine at the first instruction of an image. -/
def boot (random : RandomSource) (catchUp : Bool) (image : List UInt8) : Except ImageError (Machine τ) := do
  let m ← (fresh random catchUp).load image
  return m.reset

/-- A machine at the first instruction of a program file. -/
def ofFile (f : Files) (path : String) (random : RandomSource) (catchUp : Bool) :
    Except ProgramError (Machine τ) :=
  match readImage f path with
  | .error e => .error e
  | .ok image =>
    match boot random catchUp image with
    | .error e => .error (.image e)
    | .ok m => .ok m

end Machine

end Chip8
