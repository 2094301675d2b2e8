import BoardSupervisor.Frequency
import BoardSupervisor.Number.Digits
import BoardSupervisor.Rom
import BoardSupervisor.Text.Basic

/-!
# Requests

The first token of a command line is its verb. The table lists every name that a verb may have, and
a verb is looked up from the top of it, in either case of letters. A request is a command whose
arguments have been understood; a command line is read into one before anything is done. Arguments
are read with indulgence: a level or an address is taken from the front of its token, and what a
file command has beyond its three arguments is ignored. What can be wrong with the arguments is told
to the operator in lines of its own.
-/

namespace BoardSupervisor

/-- What a verb asks for. -/
inductive Verb where
  /-- End the session. -/
  | leave
  /-- Show the registers. -/
  | registers
  /-- Show or set the clock. -/
  | clock
  /-- Reset the processor. -/
  | reset
  /-- Load a ROM image. -/
  | loadRom
  /-- Load a file. -/
  | loadFile
  /-- Set how closely the bus is traced. -/
  | trace
  deriving DecidableEq, Repr

namespace Verb

/-- A name and what it asks for. -/
structure Named where
  /-- The name, in small letters. -/
  name : String
  /-- What it asks for. -/
  verb : Verb
  deriving DecidableEq, Repr

/-- Every name that a verb may have. -/
def table : List Named :=
  [⟨"quit", .leave⟩, ⟨"exit", .leave⟩, ⟨"q", .leave⟩, ⟨"regs", .registers⟩, ⟨"clk", .clock⟩,
   ⟨"clock", .clock⟩, ⟨"reset", .reset⟩, ⟨"loadrom", .loadRom⟩, ⟨"loadfile", .loadFile⟩,
   ⟨"trace", .trace⟩]

/-- The first entry of the table whose name is like the given one. -/
def lookup? (name : String) : Option Named := table.find? fun entry => Text.alike entry.name name

end Verb

/-- The commands that explain how they are used. -/
inductive Usage where
  /-- How the clock is set. -/
  | clock
  /-- How the bus is traced. -/
  | trace
  /-- How a ROM is loaded. -/
  | loadRom
  /-- How a file is loaded. -/
  | loadFile
  deriving DecidableEq, Repr

/-- How a command is used. -/
def Usage.text : Usage → String
  | .clock => "syntax: clk [stop|fast|<freq[kHz|MHz|GHz]>]"
  | .trace => "trace [0|1|2]"
  | .loadRom => "syntax: loadrom [basic|monitor]"
  | .loadFile => "syntax: loadfile [filename] [address] [start address]"

/-- What is said after the usage of a command, if anything is. -/
def Usage.notes : Usage → List String
  | .loadFile => ["note: [filename] must be 8.3 format, address and start address in hex"]
  | _ => []

/-- What can be wrong with the arguments of a command. -/
inductive ArgumentFault where
  /-- An argument is no frequency. -/
  | frequency (fault : Frequency.Fault)
  /-- The arguments do not have the form that the command takes. -/
  | usage (command : Usage)
  deriving DecidableEq, Repr

/-- A fault in words. -/
def ArgumentFault.message : ArgumentFault → String
  | .frequency fault => fault.message
  | .usage command => "error: " ++ command.text

/-- The lines in which the operator is told of a fault. -/
def ArgumentFault.lines (fault : ArgumentFault) : List String :=
  fault.message ::
    match fault with
    | .usage command => command.notes
    | .frequency _ => []

/-- What is asked of the clock. -/
inductive ClockRequest where
  /-- Only to be shown. -/
  | report
  /-- To stop. -/
  | stop
  /-- To run at the fast frequency. -/
  | fast
  /-- To run at the given frequency. -/
  | run (hz : Float)

/-- What the arguments of a clock command ask for. -/
def ClockRequest.ofArguments : List String → Except ArgumentFault ClockRequest
  | [] => .ok .report
  | [argument] =>
    if Text.alike argument "stop" || Text.alike argument "stopped" then .ok .stop
    else if Text.alike argument "fast" then .ok .fast
    else match Frequency.ofToken argument with
      | .ok hz => .ok (.run hz)
      | .error fault => .error (.frequency fault)
  | _ => .error (.usage .clock)

/-- The trace level that the arguments of a trace command ask for. -/
def traceLevelOfArguments : List String → Except ArgumentFault Int
  | [level] => .ok (Number.leadingLevel level)
  | _ => .error (.usage .trace)

/-- The ROM that the arguments of a ROM command ask for. -/
def romOfArguments : List String → Except ArgumentFault Rom
  | [name] =>
    match Rom.ofName? name with
    | some kind => .ok kind
    | none => .error (.usage .loadRom)
  | _ => .error (.usage .loadRom)

/-- A command whose arguments have been understood. -/
inductive Request where
  /-- Show the registers. -/
  | showRegisters
  /-- Do something with the clock, and show it. -/
  | clock (request : ClockRequest)
  /-- Reset the processor. -/
  | reset
  /-- Load a ROM image. -/
  | loadRom (kind : Rom)
  /-- Load a file at an address, to start at another. -/
  | loadFile (name : String) (address start : UInt16)
  /-- Set how closely the bus is traced. -/
  | trace (level : Int)

/-- The file that the arguments of a file command ask for. -/
def Request.ofFileArguments : List String → Except ArgumentFault Request
  | name :: address :: start :: _ =>
    .ok (.loadFile name (Number.leadingAddress address) (Number.leadingAddress start))
  | _ => .error (.usage .loadFile)

/-- A command line that has been read. -/
inductive Command where
  /-- The line has no tokens. -/
  | blank
  /-- The verb is in no table. -/
  | unknown (verb : String)
  /-- The line ends the session; the name is the table's name of its verb. -/
  | leave (name : String)
  /-- The line asks for something, or its arguments are faulty; the name is the table's. -/
  | ask (name : String) (arguments : List String) (request : Except ArgumentFault Request)

namespace Command

/-- What a verb with its arguments comes to. -/
def ofVerb (entry : Verb.Named) (arguments : List String) : Command :=
  match entry.verb with
  | .leave => .leave entry.name
  | .registers => .ask entry.name arguments (.ok .showRegisters)
  | .clock => .ask entry.name arguments ((ClockRequest.ofArguments arguments).map .clock)
  | .reset => .ask entry.name arguments (.ok .reset)
  | .loadRom => .ask entry.name arguments ((romOfArguments arguments).map .loadRom)
  | .loadFile => .ask entry.name arguments (Request.ofFileArguments arguments)
  | .trace => .ask entry.name arguments ((traceLevelOfArguments arguments).map .trace)

/-- What a list of tokens comes to. -/
def ofTokens : List String → Command
  | [] => .blank
  | verb :: arguments =>
    match Verb.lookup? verb with
    | none => .unknown verb
    | some entry => ofVerb entry arguments

/-- What a command line comes to. -/
def ofLine (line : String) : Command := ofTokens (Text.tokens line)

/-- The name of the file that a command reads, if it reads one. -/
def fileName? : Command → Option String
  | .ask _ _ (.ok (.loadFile name _ _)) => some name
  | _ => none

end Command

end BoardSupervisor
