import Chip8.CommandLine.Arguments
import Chip8.Host.Window
import Chip8.Image.File
import Chip8.Instruction.Listing

/-!
# Sessions

What the program does for a command line.

* `infoText` is the table of a program file, `listingText` its listing;
* `Session.plan` decides what a command line comes to: help, a complaint, a report, or a machine to run in a window;
* `openWindow` makes that window, and `Report.ofRun` is the report on it after it was closed.

The summary goes before the listing if both are asked for.
-/

namespace Chip8.CommandLine

/-- What the program prints, and its exit code. -/
structure Report where
  exit : Nat
  out : String
  err : String
deriving DecidableEq, Repr

/-- A report that just complains. -/
def Report.failure (message : String) : Report := ⟨1, "", message ++ "\n"⟩

def unlines (lines : List String) : String := String.join (lines.map fun line => line ++ "\n")

def padRight (width : Nat) (text : String) : String :=
  text ++ String.ofList (List.replicate (width - text.length) ' ')

def infoLine (label value : String) : String := "  " ++ padRight 20 label ++ ": " ++ value

def rule : String := String.ofList (List.replicate 40 '=')

/-- The table of a program file. -/
def infoText (s : ImageSummary) : String :=
  unlines
    ["CHIP-8 Program Information",
     rule,
     infoLine "Path" s.path,
     infoLine "Size" (Text.decimal s.size),
     infoLine "Words" (Text.decimal s.words),
     infoLine "Recognized" (Text.decimal s.recognized),
     infoLine "Unrecognized" (Text.decimal s.unrecognized),
     infoLine "End Address" ("0x" ++ Text.hex 3 s.endAddress),
     rule]

/-- The listing of a program. -/
def listingText (image : List UInt8) : String := unlines (listing programStart image)

/-- The report with the table of a program file. -/
def infoReport (f : Files) (path : String) : Report :=
  match describe f path with
  | .ok summary => ⟨0, infoText summary, ""⟩
  | .error e => .failure ("Error reading program: " ++ e.message)

/-- The report with the listing of a program file. -/
def listingReport (f : Files) (path : String) : Report :=
  match readImage f path with
  | .ok image => ⟨0, listingText image, ""⟩
  | .error e => .failure ("Error reading program: " ++ e.message)

/-- Why a session breaks down. -/
inductive Breakdown where
  /-- The random generator cannot start from a seed without a number. -/
  | emptySeed
  /-- There is no user with a null character in the name. -/
  | nullCharacter
deriving DecidableEq, Repr

def Breakdown.message : Breakdown → String
  | emptySeed => "The only supported seed types are: None,\nint, float, str, bytes, and bytearray."
  | nullCharacter => "embedded null byte"

/-- The random source that is asked for; `random` is used if no seed is given. -/
def Options.source? (o : Options) (random : RandomSource) : Option RandomSource :=
  match o.seed with
  | .unset => some random
  | .empty => none
  | .number n => some (.ofSeed n)

def usualScale : Int := 15

/-- The size of a pixel that is asked for. -/
def Options.scale? (o : Options) : Option Int :=
  match o.scale with
  | .unset => some usualScale
  | .empty => none
  | .number n => some n

/-- What a command line comes to. -/
inductive Session (τ : Type) where
  | help
  | misuse
  | report (report : Report)
  /-- The program breaks down. -/
  | broken (cause : Breakdown)
  /-- A machine runs in a window. -/
  | play (machine : Machine τ) (options : Options)

namespace Session

variable {τ : Type} [TimeBase τ]

/-- What a machine from a program file comes to. -/
def ofMachine (o : Options) : Except ProgramError (Machine τ) → Session τ
  | .ok machine => .play machine o
  | .error e => .report (.failure ("Error: " ++ e.message))

/-- What a request comes to; `random` is used if no seed is given. -/
def ofRequest (f : Files) (random : RandomSource) (path : String) (o : Options) : Session τ :=
  if !f.isFile path then .report (.failure ("Error: program file not found: " ++ path))
  else if o.info then .report (infoReport f path)
  else if o.listing then .report (listingReport f path)
  else match readImage f path, o.source? random with
    | .error e, _ => .report (.failure ("Error: " ++ e.message))
    | .ok _, none => .broken .emptySeed
    | .ok _, some source => ofMachine o (Machine.ofFile f path source o.catchUp)

/-- What a command line comes to. -/
def plan (f : Files) (homes : Homes) (random : RandomSource) (arguments : List String) : Session τ :=
  match parseArguments arguments with
  | .help => .help
  | .misuse => .misuse
  | .request path options =>
    match homePath homes path with
    | some path => ofRequest f random path options
    | none => .broken .nullCharacter

end Session

def usage : String :=
  unlines
    ["usage: chip8 [switches] program",
     "",
     "Loads a program image at 0x200 and runs it.",
     "",
     infoLine "--scale N, -s N" "size of a pixel, from 1 to 32 (15)",
     infoLine "--no-audio" "make no sound",
     infoLine "--catch-up" "make up for late ticks",
     infoLine "--seed N" "start the random generator from N",
     infoLine "--info" "print a summary of the program and exit",
     infoLine "--disassemble" "print a listing of the program and exit",
     infoLine "--verbose, -v" "log more",
     infoLine "--help, -h" "print this text and exit"]

/-- The window for a machine, or the report on why there is none.  A size without a number cannot be compared with the
bounds. -/
def openWindow {τ : Type} [TimeBase τ] (machine : Machine τ) (o : Options) (mixer : Mixer) :
    Except Report (Window τ) :=
  match o.scale? with
  | none => .error (.failure "Fatal error: '<' not supported between instances of 'list' and 'int'")
  | some scale =>
    match Window.create machine scale mixer o.sound with
    | .ok (window, _) => .ok window
    | .error e => .error (.failure ("Fatal error: " ++ e.message))

/-- The report on a window whose loop has ended. -/
def Report.ofRun {τ : Type} (run : Window.Run τ) : Report :=
  match run.fault with
  | none => ⟨0, "", ""⟩
  | some fault => .failure ("Fatal error: " ++ fault.message)

end Chip8.CommandLine
