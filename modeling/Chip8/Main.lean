import Chip8.CommandLine.Session

/-!
# The program

Reads the command line and the program file, prints reports, and runs a machine in the terminal: the display is printed
whenever its picture has changed, and there is no keyboard and no sound.
-/

namespace Chip8.CommandLine

/-- The time on the clock of the computer, in seconds. -/
def clock : IO Float := do return Float.ofNat (← IO.monoNanosNow) / 1000000000.0

/-- The content of a file, if it can be read. -/
def readFile? (path : String) : IO (Option (List UInt8)) := do
  try
    let content ← IO.FS.readBinFile path
    return some content.toList
  catch _ => return none

/-- The home directories that a list of users gives: one user a line, the name first and the home directory sixth. -/
def homesOfUsers (users : String) : List (String × String) :=
  (users.splitOn "\n").filterMap fun line => match line.splitOn ":" with
    | name :: _ :: _ :: _ :: _ :: home :: _ => some (name, home)
    | _ => none

/-- The home directories of the users of the computer. -/
def findHomes : IO Homes := do
  let users ← try IO.FS.readFile "/etc/passwd" catch _ => pure ""
  return ⟨← IO.getEnv "HOME", homesOfUsers users⟩

/-- The files as far as a command line asks for them. -/
def filesFor (homes : Homes) (arguments : List String) : IO Files := do
  let content ← match parseArguments arguments with
    | .request path _ => readFile? ((homePath homes path).getD path)
    | _ => pure none
  let read (path : String) : Except FileError (List UInt8) := match content with
    | some bytes => .ok bytes
    | none => .error (.notFound path)
  return ⟨(← IO.currentDir).toString, read, fun _ => content.isSome⟩

def printDisplay (d : Display) : IO Unit := do
  for y in List.range Display.height do
    IO.println (String.ofList ((d.row y).map fun lit => if lit then '#' else ' '))

/-- Runs the rounds of a window until the machine faults. -/
partial def loop (w : Window Float) : IO Report := do
  match w.round (← clock) [] with
  | (next, .continued _) =>
    if next.picture ≠ w.picture then printDisplay next.machine.display
    IO.sleep 1
    loop next
  | (stopped, .stopped) => return Report.ofRun (stopped.finish none)
  | (stopped, .faulted fault) => return Report.ofRun (stopped.finish (some fault))

/-- Prints a report; the result is the exit code. -/
def printReport (r : Report) : IO UInt32 := do
  IO.print r.out
  IO.eprint r.err
  return UInt32.ofNat r.exit

/-- Carries out a session; the result is the exit code. -/
def carryOut : Session Float → IO UInt32
  | .help => printReport ⟨0, usage, ""⟩
  | .misuse => printReport ⟨2, "", usage⟩
  | .report r => printReport r
  | .broken cause => printReport (.failure cause.message)
  | .play machine options => match openWindow machine { options with sound := false } Mixer.plain with
    | .ok window => do printReport (← loop (window.start (← clock)))
    | .error r => printReport r

end Chip8.CommandLine

/-- The entry point. -/
def main (arguments : List String) : IO UInt32 := do
  let homes ← Chip8.CommandLine.findHomes
  let files ← Chip8.CommandLine.filesFor homes arguments
  let seed ← IO.rand 0 0xFFFFFFFF
  Chip8.CommandLine.carryOut
    (Chip8.CommandLine.Session.plan files homes (.ofSeed seed) arguments)
