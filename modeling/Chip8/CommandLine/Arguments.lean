import Chip8.Text.Integer

/-!
# Command-line arguments

The arguments of the program are switches, some of which take a number, and the path of a program file.

* `Word.ofText` says what an argument is on its own: a switch, spelled out, abbreviated or as a cluster of letters, an
  unknown switch, or a value;
* `Word.ofTexts` does so for all arguments; behind a lone `--` everything is a value;
* `interpret` carries the words out in order, and `parseArguments` is the whole reading of a command line.

Asking for help ends the reading at once.  So do an abbreviation that fits several switches, before anything is carried
out, and an argument with a number that is missing, superfluous or malformed, or with a letter that is no switch behind
one that is; an unknown switch and a superfluous value are only found fault with at the end.
-/

namespace Chip8.CommandLine

/-- The switches. -/
inductive Switch where
  | help
  | scale
  | noAudio
  | catchUp
  | seed
  | info
  | disassemble
  | verbose
deriving DecidableEq, Repr

namespace Switch

def all : List Switch := [help, scale, noAudio, catchUp, seed, info, disassemble, verbose]

/-- The spelling of a switch behind two dashes. -/
def name : Switch → String
  | help => "help"
  | scale => "scale"
  | noAudio => "no-audio"
  | catchUp => "catch-up"
  | seed => "seed"
  | info => "info"
  | disassemble => "disassemble"
  | verbose => "verbose"

/-- The switch for a letter behind a single dash. -/
def ofLetter? : Char → Option Switch
  | 'h' => some help
  | 's' => some scale
  | 'v' => some verbose
  | _ => none

/-- Does the switch take a number? -/
def takesNumber : Switch → Bool
  | scale | seed => true
  | _ => false

/-- The switches whose spelling begins like this; one that is spelled out in full stands alone. -/
def matching (text : List Char) : List Switch :=
  match all.find? fun s => s.name.toList == text with
  | some s => [s]
  | none => all.filter fun s => text.isPrefixOf s.name.toList

end Switch

/-- What an argument is. -/
inductive Word where
  /-- A switch behind two dashes, with what stands behind an equals sign. -/
  | long (switch : Switch) (attached : Option String)
  /-- A switch by its letter, with what follows the letter in the same argument, an equals sign right behind it left
  out. -/
  | short (switch : Switch) (attached : Option (List Char))
  | unknown
  | value (text : String)
  /-- The lone `--` from which on everything is a value. -/
  | divider
deriving DecidableEq, Repr

/-- A text without the line break at its end, if there is one. -/
def dropLineBreak (text : List Char) : List Char := if text.getLast? = some '\n' then text.dropLast else text

/-- Is the text a negative decimal number, with or without a fraction?  A line break may follow it. -/
def isNegativeNumber (text : List Char) : Bool :=
  let isDigit (c : Char) := (Text.digitValue? c).isSome
  match dropLineBreak text with
  | '-' :: rest =>
    match rest.dropWhile isDigit with
    | [] => !rest.isEmpty
    | '.' :: places => !places.isEmpty && places.all isDigit
    | _ => false
  | _ => false

/-- What an argument is that begins with a dash and names no switch. -/
def Word.ofStranger (text : String) : Word :=
  if isNegativeNumber text.toList || text.toList.contains ' ' then .value text else .unknown

/-- What is attached to a letter, given what follows it in its argument. -/
def Word.attachedTo : List Char → Option (List Char)
  | [] => none
  | '=' :: after => some after
  | tail => some tail

/-- What an argument other than `--` is; `none` if it abbreviates several switches. -/
def Word.ofText (text : String) : Option Word :=
  match text.toList with
  | '-' :: '-' :: rest =>
    let spelling := rest.takeWhile (· ≠ '=')
    let attached := match rest.dropWhile (· ≠ '=') with
      | [] => none
      | _ :: after => some (String.ofList after)
    match Switch.matching spelling with
    | [s] => some (.long s attached)
    | [] => some (.ofStranger text)
    | _ => none
  | ['-'] => some (.value text)
  | '-' :: letter :: tail =>
    match Switch.ofLetter? letter with
    | some s => some (.short s (Word.attachedTo tail))
    | none => some (.ofStranger text)
  | _ => some (.value text)

/-- What the arguments are. -/
def Word.ofTexts : List String → Option (List Word)
  | [] => some []
  | text :: rest =>
    if text = "--" then some (.divider :: rest.map .value)
    else do
      let word ← Word.ofText text
      let words ← Word.ofTexts rest
      return word :: words

/-- What the user says about a number. -/
inductive Setting where
  | unset
  /-- That there is none: `--` stands in its place. -/
  | empty
  | number (value : Int)
deriving DecidableEq, Repr

/-- What a text in the place of a number says, if it makes sense. -/
def Setting.ofText? (text : String) : Option Setting :=
  if text = "--" then some .empty else (Text.integer? text).map .number

/-- What the user asks for besides a program file. -/
structure Options where
  /-- The size of a pixel. -/
  scale : Setting
  sound : Bool
  catchUp : Bool
  /-- The number from which the random generator starts. -/
  seed : Setting
  info : Bool
  listing : Bool
  /-- How much more is logged. -/
  verbosity : Nat
deriving DecidableEq, Repr

def Options.initial : Options := ⟨.unset, true, false, .unset, false, false, 0⟩

/-- A reading of a command line. -/
inductive Reading where
  | help
  | misuse
  | request (path : String) (options : Options)
deriving DecidableEq, Repr

/-- Carries out a switch with its number, if it takes one.  The reading is given if it ends here. -/
def Options.apply (o : Options) : Switch → String → Except Reading Options
  | .help, _ => .error .help
  | .scale, text =>
    match Setting.ofText? text with
    | some scale => .ok { o with scale := scale }
    | none => .error .misuse
  | .seed, text =>
    match Setting.ofText? text with
    | some seed => .ok { o with seed := seed }
    | none => .error .misuse
  | .noAudio, _ => .ok { o with sound := false }
  | .catchUp, _ => .ok { o with catchUp := true }
  | .info, _ => .ok { o with info := true }
  | .disassemble, _ => .ok { o with listing := true }
  | .verbose, _ => .ok { o with verbosity := o.verbosity + 1 }

def Options.applyAll (o : Options) (switches : List (Switch × String)) : Except Reading Options :=
  switches.foldlM (fun o (s, text) => o.apply s text) o

/-- The switches of one argument. -/
structure Cluster where
  /-- The switches with their numbers. -/
  switches : List (Switch × String)
  /-- A last switch, whose number is the next argument. -/
  pending : Option Switch
deriving DecidableEq, Repr

namespace Cluster

/-- A switch with what is attached to it as its number; `none` if that is superfluous. -/
def ofSwitch (s : Switch) : Option String → Option Cluster
  | none => some (if s.takesNumber then ⟨[], some s⟩ else ⟨[(s, "")], none⟩)
  | some text => if s.takesNumber then some ⟨[(s, text)], none⟩ else none

/-- A switch and the characters behind its letter, which are its number or, if it takes none, letters of more switches;
`none` if one of those is no switch. -/
def ofLetters (s : Switch) : List Char → Option Cluster
  | [] => ofSwitch s none
  | c :: tail =>
    if s.takesNumber then ofSwitch s (some (String.ofList (c :: tail)))
    else do
      let next ← Switch.ofLetter? c
      let rest ← ofLetters next tail
      return { rest with switches := (s, "") :: rest.switches }

/-- A switch by its letter with what is attached to it. -/
def ofShort (s : Switch) : Option (List Char) → Option Cluster
  | none => ofSwitch s none
  | some [] => ofSwitch s (some "")
  | some tail => ofLetters s tail

end Cluster

/-- A command line that was read in part. -/
structure Progress where
  options : Options
  /-- The path of the program file, once it is known. -/
  path : Option String
  /-- Switches that are carried out as soon as the number of the last of them is known. -/
  pending : Option (List (Switch × String) × Switch)
  /-- Was the last argument the path? -/
  afterPath : Bool
  /-- Was there an argument too many? -/
  excess : Bool
deriving DecidableEq, Repr

namespace Progress

def initial : Progress := ⟨Options.initial, none, none, false, false⟩

def carryOut (p : Progress) : Option Cluster → Except Reading Progress
  | none => .error .misuse
  | some ⟨switches, some last⟩ => .ok { p with pending := some (switches, last), afterPath := false }
  | some ⟨switches, none⟩ => do
    let options ← p.options.applyAll switches
    return { p with options := options, afterPath := false }

def step (p : Progress) (w : Word) : Except Reading Progress :=
  match p.pending, w with
  | some (switches, last), .value text => do
    let options ← p.options.applyAll (switches ++ [(last, text)])
    return { p with options := options, pending := none }
  | some _, _ => .error .misuse
  | none, .long s attached => p.carryOut (Cluster.ofSwitch s attached)
  | none, .short s attached => p.carryOut (Cluster.ofShort s attached)
  | none, .unknown => .ok { p with afterPath := false, excess := true }
  | none, .divider => .ok { p with afterPath := false, excess := p.excess || (p.path.isSome && !p.afterPath) }
  | none, .value text =>
    match p.path with
    | none => .ok { p with path := some text, afterPath := true }
    | some _ => .ok { p with afterPath := false, excess := true }

def conclude (p : Progress) : Reading :=
  match p.pending, p.path with
  | none, some path => if p.excess then .misuse else .request path p.options
  | _, _ => .misuse

end Progress

def interpret (words : List Word) : Reading :=
  match words.foldlM Progress.step Progress.initial with
  | .error reading => reading
  | .ok p => p.conclude

/-- The reading of a command line. -/
def parseArguments (arguments : List String) : Reading :=
  match Word.ofTexts arguments with
  | none => .misuse
  | some words => interpret words

end Chip8.CommandLine
