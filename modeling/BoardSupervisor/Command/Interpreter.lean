import BoardSupervisor.Command.ClockControl
import BoardSupervisor.Text.Quoted

/-!
# The command interpreter

Carrying out a command line at the board. Whatever is wrong with a line is told to the operator and
changes nothing; only the verbs that end the session make the interpreter answer that it is over.
-/

namespace BoardSupervisor

/-- What the interpreter works with: the clock's frequencies and the ROM images. -/
structure Interpreter where
  /-- The frequencies of the clock command. -/
  limits : ClockLimits := {}
  /-- The ROM images that are there. -/
  roms : RomImages := {}

namespace Interpreter

/-- What the operator is told after a ROM was loaded. -/
def romLoaded : Rom → String
  | .basic => "loadrom: basic loaded. entry at 0150.\r\n"
  | .monitor =>
    "loadrom: monitor loaded at " ++ Number.hexWord (Rom.address .monitor) ++ "\r\n"

/-- The message after a ROM was loaded: at hand for one ROM, put together for the other. -/
def romMessage : Rom → Text.Message
  | .basic => .literal (romLoaded .basic)
  | .monitor => .composed (romLoaded .monitor)

/-- Either message says what the operator is told. -/
@[simp] theorem romMessage_text (kind : Rom) : (romMessage kind).text = romLoaded kind := by
  cases kind <;> rfl

/-- Load a ROM image, if it is there. -/
def loadRom (interpreter : Interpreter) (kind : Rom) : Act Unit := do
  match interpreter.roms.image kind with
  | none => Act.report ("error: loadrom: " ++ kind.name ++ " image not available\r\n")
  | some image =>
    match ← Act.loadProgram image kind.address kind.start with
    | .error fault => Act.report ("error: loadrom: " ++ fault.message ++ "\r\n")
    | .ok () => Act.tell (romMessage kind)

/-- Load a file, and tell the operator its length and where it went. -/
def loadFile (name : String) (address start : UInt16) : Act Unit := do
  match ← Act.loadFile name address start with
  | .error fault => Act.report ("error: loadfile: " ++ fault.message ++ "\r\n")
  | .ok length =>
    Act.report ("loadfile: " ++ Number.decimal length ++ " bytes at " ++ Number.hexWord address ++
      ", entry at " ++ Number.hexWord start ++ "\r\n")

/-- Carry out a request. -/
def perform (interpreter : Interpreter) : Request → Act Unit
  | .showRegisters => Act.showRegisters
  | .clock request => Act.clock interpreter.limits request
  | .reset => Act.reset
  | .loadRom kind => interpreter.loadRom kind
  | .loadFile name address start => loadFile name address start
  | .trace level => Act.trace level

/-- Carry out a command, and say whether the session goes on. -/
def run (interpreter : Interpreter) : Command → Act Bool
  | .blank => return true
  | .unknown verb => do
    Act.report ("error: unknown command \"" ++ verb ++ "\"\r\n")
    return true
  | .leave name => do
    Act.log .debug (name ++ ": end of session")
    return false
  | .ask name arguments request => do
    Act.log .debug (name ++ " " ++ Text.Quoted.quoteList arguments)
    Act.orComplain request interpreter.perform
    return true

/-- Carry out a command line, and say whether the session goes on. -/
def execute (interpreter : Interpreter) (line : String) : Act Bool :=
  interpreter.run (Command.ofLine line)

end Interpreter

end BoardSupervisor
