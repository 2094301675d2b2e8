import BoardSupervisor.Console
import BoardSupervisor.Options.Arguments
import BoardSupervisor.Options.Basic
import BoardSupervisor.Text.Clusters

/-!
# A run of the program

What the program writes and how it ends, given its arguments, a disk and its input, as if no time
passed from one input to the next. The input is either a stream of bytes for the console, or lines
that are carried out as commands until one of them ends the session.
-/

namespace BoardSupervisor

/-- How the program ends. -/
structure Ending where
  /-- The exit code. -/
  exitCode : UInt32
  /-- Everything that was written to the operator. -/
  written : List UInt8
  deriving DecidableEq, Repr

/-- How the program ends when its arguments are refused: well if it was only asked about itself. -/
def Refusal.ending : Refusal → Ending
  | .helpWanted => ⟨0, Text.Latin1.encode Help.text⟩
  | .versionWanted => ⟨0, Text.Latin1.encode Help.versionLine⟩
  | _ => ⟨2, []⟩

/-- Why a line cannot be read. -/
inductive LineFault where
  /-- Its bytes are not well-formed UTF-8. -/
  | malformed
  /-- A backspace in it cuts a character in two. -/
  | torn
  deriving DecidableEq, Repr

namespace LineFault

/-- The exit code of a program that meets such a line. -/
def exitCode : LineFault → UInt32
  | .malformed => 1
  | .torn => 101

/-- What is said about it. -/
def message : LineFault → String
  | .malformed => "stream did not contain valid UTF-8"
  | .torn => "a character was cut in two"

end LineFault

namespace Program

/-- A line without the carriage return at its end. -/
def dropReturn (line : List UInt8) : List UInt8 :=
  if line.getLast? = some 0x0d then line.dropLast else line

/-- The lines among the pieces between line feeds. The last piece is a line only if it is not empty,
and it alone keeps a carriage return at its end. -/
def linesOfPieces : List (List UInt8) → List (List UInt8)
  | [] => []
  | [last] => if last.isEmpty then [] else [last]
  | piece :: pieces => dropReturn piece :: linesOfPieces pieces

/-- The lines of an input. -/
def lines (input : List UInt8) : List (List UInt8) := linesOfPieces (input.splitOnP (· == 0x0a))

/-- The command on a line, once the backspaces in it have taken effect. -/
def command (line : List UInt8) : Except LineFault String := do
  let some typed := String.fromUTF8? ⟨line.toArray⟩ | throw .malformed
  let some text := Text.Draft.settle? typed | throw .torn
  return text

/-- Carry out lines until one ends the session, and say with which exit code the program ends. A
line that cannot be read ends it too. -/
def runLines (interpreter : Interpreter) : List (List UInt8) → Act UInt32
  | [] => return 0
  | line :: rest =>
    match command line with
    | .error fault => return fault.exitCode
    | .ok text => do
      if ← interpreter.execute text then runLines interpreter rest else return 0

/-- Feed every byte to the console, and end well. -/
def runSerial (console : Console) (input : List UInt8) : Act UInt32 := do
  let _ ← console.receiveAll input
  return 0

/-- The board's surroundings that the options ask for. -/
def bench (options : Options) (disk : Disk) : Bench where
  disk := disk
  directory := options.fileDirectory

/-- Work through the input as the options ask. -/
def session (options : Options) (roms : RomImages) (input : List UInt8) : Act UInt32 :=
  let console := Console.new options.settings roms
  if options.lineMode then runLines console.menu.interpreter (lines input)
  else runSerial console input

/-- A whole run of the program. -/
def run (disk : Disk) (arguments : List String) (input : List UInt8) : Ending :=
  match Options.ofArguments arguments with
  | .error refusal => refusal.ending
  | .ok options =>
    let (roms, _) := RomImages.read disk options.basicRom options.monitorRom
    let outcome := session options roms input (bench options disk) .powerOn
    ⟨outcome.value, Event.written outcome.events⟩

end Program

end BoardSupervisor
