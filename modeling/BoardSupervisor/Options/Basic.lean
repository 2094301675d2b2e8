import BoardSupervisor.Console
import BoardSupervisor.Machine.Clock
import BoardSupervisor.Options.Value

/-!
# Options

What can be chosen when the program is started, with the choices that are made when nothing is said,
and the options by which each is set; and what the program says about itself: its name, its version
and its options.
-/

namespace BoardSupervisor

/-- What can be chosen when the program is started. -/
structure Options where
  /-- The fast frequency. -/
  fast : Float := 8000000
  /-- The highest frequency at which the bus can be traced. -/
  tracedMax : Float := 100000
  /-- The key that opens the menu. -/
  escapeKey : UInt8 := 0x1d
  /-- The size of the menu's line. -/
  lineCapacity : Nat := 80
  /-- The file of the BASIC image. -/
  basicRom : Option String := none
  /-- The file of the monitor image. -/
  monitorRom : Option String := none
  /-- The directory that files are loaded from. -/
  fileDirectory : String := "."
  /-- Whether whole lines are read as commands. -/
  lineMode : Bool := false
  /-- How often the clock is advanced, in milliseconds. -/
  tickMilliseconds : Nat := 10
  /-- Which records the log keeps. -/
  logFilter : Log.Filter := .upTo .info

namespace Options

/-- How the menu is set up. -/
def settings (options : Options) : Menu.Settings where
  lineCapacity := options.lineCapacity
  escapeKey := options.escapeKey
  limits := { fast := options.fast, tracedMax := options.tracedMax }

/-- How often the clock is advanced, at least a millisecond apart. -/
def tick (options : Options) : Duration := .ofMilliseconds (max options.tickMilliseconds 1)

end Options

/-- The options that take a value. -/
inductive Setting where
  /-- The fast frequency. -/
  | fast
  /-- The highest frequency at which the bus can be traced. -/
  | tracedMax
  /-- The key that opens the menu. -/
  | escapeKey
  /-- The size of the menu's line. -/
  | lineCapacity
  /-- The file of the BASIC image. -/
  | basicRom
  /-- The file of the monitor image. -/
  | monitorRom
  /-- The directory that files are loaded from. -/
  | fileDirectory
  /-- How often the clock is advanced. -/
  | tick
  /-- Which records the log keeps. -/
  | logLevel
  deriving DecidableEq, Repr

namespace Setting

/-- The names of the options that take a value. -/
def names : List (String × Setting) :=
  [("fast-hz", .fast), ("slow-max-hz", .tracedMax), ("escape-keycode", .escapeKey),
   ("line-capacity", .lineCapacity), ("basic-rom", .basicRom), ("monitor-rom", .monitorRom),
   ("file-dir", .fileDirectory), ("tick-ms", .tick), ("log-level", .logLevel)]

/-- Why a setting cannot take a text as its value. -/
inductive Fault where
  /-- A path has to have a name in it. -/
  | emptyPath
  /-- The text is no such value. -/
  | rejected (fault : ValueFault)
  deriving DecidableEq, Repr

/-- A path that is not empty. -/
def path (text : String) : Except Fault String :=
  if text.isEmpty then .error .emptyPath else .ok text

/-- The options with one setting made. -/
def assign (setting : Setting) (text : String) (options : Options) : Except Fault Options :=
  match setting with
  | .fast => do
    let hz ← (Value.number text).mapError .rejected
    return { options with fast := hz }
  | .tracedMax => do
    let hz ← (Value.number text).mapError .rejected
    return { options with tracedMax := hz }
  | .escapeKey => do
    let key ← (Value.keyCode text).mapError .rejected
    return { options with escapeKey := key }
  | .lineCapacity => do
    let size ← (Value.word text).mapError .rejected
    return { options with lineCapacity := size }
  | .basicRom => do
    let file ← path text
    return { options with basicRom := some file }
  | .monitorRom => do
    let file ← path text
    return { options with monitorRom := some file }
  | .fileDirectory => do
    let directory ← path text
    return { options with fileDirectory := directory }
  | .tick => do
    let milliseconds ← (Value.word text).mapError .rejected
    return { options with tickMilliseconds := milliseconds }
  | .logLevel => do
    let filter ← (Value.logFilter text).mapError .rejected
    return { options with logFilter := filter }

end Setting

namespace Help

/-- The name of the program. -/
def programName : String := "z80super"

/-- The version of the program. -/
def version : String := "0.1.0"

/-- What the program is. -/
def summary : String := "Serial console supervisor for an emulated Z80 machine"

/-- An option as it is explained: how it is written, and what it does. -/
structure Explained where
  /-- How the option is written. -/
  form : String
  /-- What it does. -/
  meaning : String

/-- All the options, explained. -/
def options : List Explained :=
  [⟨"      --fast-hz <FAST_HZ>",
      "Frequency selected by `clk fast`, in Hz [default: 8000000]"⟩,
   ⟨"      --slow-max-hz <SLOW_MAX_HZ>",
      "Highest clock frequency allowed while the bus is traced, in Hz [default: 100000]"⟩,
   ⟨"      --escape-keycode <ESCAPE_KEYCODE>",
      "Key that opens the supervisor menu (decimal or 0x-prefixed hex) [default: 0x1d]"⟩,
   ⟨"      --line-capacity <LINE_CAPACITY>",
      "Size of the supervisor\x27s command line buffer [default: 80]"⟩,
   ⟨"      --basic-rom <BASIC_ROM>", "BASIC ROM image for `loadrom basic`"⟩,
   ⟨"      --monitor-rom <MONITOR_ROM>", "Monitor ROM image for `loadrom monitor`"⟩,
   ⟨"      --file-dir <FILE_DIR>", "Directory `loadfile` reads from [default: .]"⟩,
   ⟨"      --line-mode",
      "Read whole lines with history-free line editing and run them as supervisor commands"⟩,
   ⟨"      --tick-ms <TICK_MS>",
      "How often the emulated clock is advanced, in milliseconds [default: 10]"⟩,
   ⟨"      --log-level <LOG_LEVEL>", "[default: INFO]"⟩,
   ⟨"  -h, --help", "Print help"⟩,
   ⟨"  -V, --version", "Print version"⟩]

/-- The line that gives name and version. -/
def versionLine : String := programName ++ " " ++ version ++ "\n"

/-- The text that explains the program. -/
def text : String :=
  summary ++ "\n\nUsage: " ++ programName ++ " [OPTIONS]\n\nOptions:\n" ++
    String.join (options.map fun option => option.form ++ "\n          " ++ option.meaning ++ "\n")

end Help

end BoardSupervisor
