/-!
# Log records

The program tells its story in records of five levels. A filter keeps the records up to a level of
detail, or none at all.
-/

namespace BoardSupervisor.Log

/-- How much a record matters, the most urgent first. -/
inductive Level where
  /-- Something failed. -/
  | error
  /-- Something is amiss, and the program goes on. -/
  | warn
  /-- The state of the board changed. -/
  | info
  /-- A step of the program. -/
  | debug
  /-- A step of the board. -/
  | trace
  deriving DecidableEq, Repr

/-- The detail of a level, growing from errors to traces. -/
def Level.detail : Level → Nat
  | .error => 1
  | .warn => 2
  | .info => 3
  | .debug => 4
  | .trace => 5

/-- The levels in order of detail. -/
def Level.all : List Level := [.error, .warn, .info, .debug, .trace]

/-- The name of a level. -/
def Level.name : Level → String
  | .error => "ERROR"
  | .warn => "WARN"
  | .info => "INFO"
  | .debug => "DEBUG"
  | .trace => "TRACE"

/-- One entry of the log. -/
structure Record where
  /-- How much it matters. -/
  level : Level
  /-- What it says. -/
  message : String
  deriving DecidableEq, Repr

/-- A record as one line: the level's name and the message. -/
def Record.line (r : Record) : String := r.level.name ++ " " ++ r.message

/-- Which records are kept: none, or those up to a level of detail. -/
inductive Filter where
  /-- No records. -/
  | off
  /-- Records of the given level and of less detail. -/
  | upTo (level : Level)
  deriving DecidableEq, Repr

/-- Whether a filter keeps a record. -/
def Filter.keeps : Filter → Record → Bool
  | .off, _ => false
  | .upTo level, r => r.level.detail ≤ level.detail

/-- The name of a filter. -/
def Filter.name : Filter → String
  | .off => "OFF"
  | .upTo level => level.name

/-- All the filters, in order of detail. -/
def Filter.all : List Filter := .off :: Level.all.map .upTo

end BoardSupervisor.Log
