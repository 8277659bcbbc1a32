import Chip8.Memory
import Chip8.Text.Numeral

/-!
# Program images

A program image is a list of bytes, loaded as it stands.  An image from a file has to hold at least one byte and to fit
between `0x200` and the end of memory (`checkImage`); a machine only asks that it fits (`fitImage`).
-/

namespace Chip8

open Text (hex decimal)

/-- Why a program image is refused. -/
inductive ImageError where
  | empty
  /-- A file of `size` bytes, more than there is room for. -/
  | overLimit (size : Nat)
  /-- An image of `size` bytes, more than fit into the memory of the machine. -/
  | noRoom (size : Nat)
deriving DecidableEq, Repr

def ImageError.message : ImageError → String
  | empty => "program image is empty"
  | overLimit size => "program image is " ++ decimal size ++ " bytes; the limit is " ++ decimal maxProgramSize
  | noRoom size =>
    "program image is " ++ decimal size ++ " bytes; at most " ++ decimal maxProgramSize ++ " bytes fit above 0x" ++
      hex 3 programStart

/-- Refuses the content of a file that is no program image. -/
def checkImage (image : List UInt8) : Except ImageError Unit :=
  if image.length = 0 then .error .empty
  else if maxProgramSize < image.length then .error (.overLimit image.length)
  else .ok ()

/-- Refuses an image that does not fit into memory. -/
def fitImage (image : List UInt8) : Except ImageError Unit :=
  if maxProgramSize < image.length then .error (.noRoom image.length) else .ok ()

end Chip8
