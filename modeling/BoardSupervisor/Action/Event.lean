import BoardSupervisor.Log

/-!
# What happens while a command is carried out

Carrying out a command leaves three kinds of marks outside the machine's state: bytes written to the
operator, operations asked of the board, and records in the log. They are kept in one list, in the
order in which they happen, and each kind can be picked out of it.
-/

namespace BoardSupervisor

/-- What the supervisor can ask of the board. -/
inductive Operation where
  /-- Pull the reset line. -/
  | reset
  /-- Let the clock run on its own at a frequency. -/
  | setIndependent (hz : Float)
  /-- Drive the clock from the supervisor at a frequency. -/
  | setSupervised (hz : Float)
  /-- Set how closely the bus is traced. -/
  | setTraceLevel (level : Int)
  /-- Load an image of the given length at an address, to start at another. -/
  | loadProgram (length : Nat) (address start : UInt16)
  /-- Load the file of the given name at an address, to start at another. -/
  | loadFile (name : String) (address start : UInt16)
  /-- Send a byte to the serial port. -/
  | sendSerial (byte : UInt8)

/-- One mark of a command. -/
inductive Event where
  /-- Bytes were written to the operator. -/
  | wrote (bytes : List UInt8)
  /-- An operation was asked of the board. -/
  | asked (operation : Operation)
  /-- A record was logged. -/
  | logged (entry : Log.Record)

namespace Event

/-- The bytes that an event writes to the operator. -/
def bytes : Event → List UInt8
  | .wrote bytes => bytes
  | _ => []

/-- The operation that an event asks of the board. -/
def operation? : Event → Option Operation
  | .asked operation => some operation
  | _ => none

/-- The record that an event logs. -/
def entry? : Event → Option Log.Record
  | .logged entry => some entry
  | _ => none

/-- All the bytes written in a list of events. -/
def written (events : List Event) : List UInt8 := events.flatMap bytes

/-- All the operations asked in a list of events. -/
def operations (events : List Event) : List Operation := events.filterMap operation?

/-- All the records logged in a list of events. -/
def entries (events : List Event) : List Log.Record := events.filterMap entry?

/-- What two lists of events write, one after the other. -/
@[simp] theorem written_append (first second : List Event) :
    written (first ++ second) = written first ++ written second := by
  simp [written]

/-- What two lists of events ask, one after the other. -/
@[simp] theorem operations_append (first second : List Event) :
    operations (first ++ second) = operations first ++ operations second := by
  simp [operations]

end Event

end BoardSupervisor
