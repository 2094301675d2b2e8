import BoardSupervisor.Log
import BoardSupervisor.Text.Basic

/-!
# The serial line

Everything the operator sees goes out over a line that may fail. A line takes as many of the bytes
that it is offered as it has room for, and fails when it is offered bytes and has no room left. What
it has not taken is offered to it again. If it fails before it has all of a text, the rest of the
text is dropped and the log is warned. Later texts are tried all the same.
-/

namespace BoardSupervisor

/-- A line that takes a limited number of bytes. -/
structure SerialLine where
  /-- The bytes that it still takes. -/
  room : Nat
  /-- Whether it refuses to be flushed. -/
  flushFails : Bool
  /-- The bytes that it has taken. -/
  accepted : List UInt8 := []
  /-- Everything that it was offered, offer by offer. -/
  offered : List (List UInt8) := []
  deriving DecidableEq, Repr

namespace SerialLine

/-- The warning that a text was not sent whole. -/
def writeWarning : Log.Record := ⟨.warn, "serial write failed: line dropped"⟩

/-- The warning that the line was not flushed. -/
def flushWarning : Log.Record := ⟨.warn, "serial flush failed: flush refused"⟩

/-- Offer bytes to the line: how many of them it takes, or none if it fails, and the line after
that. -/
def offer (line : SerialLine) (bytes : List UInt8) : Option Nat × SerialLine :=
  let after := { line with
    room := line.room - bytes.length
    accepted := line.accepted ++ bytes.take line.room
    offered := line.offered ++ [bytes] }
  (if line.room = 0 ∧ bytes ≠ [] then none else some (min line.room bytes.length), after)

/-- Send bytes until the line has them all or fails, and say whether it has them all. A line that
takes nothing of what it is offered is not asked again. -/
def sendAll (line : SerialLine) (bytes : List UInt8) : Bool × SerialLine :=
  if bytes = [] then (true, line)
  else
    match line.offer bytes with
    | (some (taken + 1), after) => after.sendAll (bytes.drop (taken + 1))
    | (_, after) => (false, after)
termination_by bytes.length
decreasing_by
  rename_i given
  have := List.length_pos_iff.mpr given
  rw [List.length_drop]
  omega

/-- Send bytes, and warn if they were not sent whole. -/
def write (line : SerialLine) (bytes : List UInt8) : SerialLine × List Log.Record :=
  let (sent, after) := line.sendAll bytes
  (after, if sent then [] else [writeWarning])

/-- Send a message. -/
def tell (line : SerialLine) (message : Text.Message) : SerialLine × List Log.Record :=
  line.write message.bytes

/-- Flush the line. -/
def flush (line : SerialLine) : List Log.Record := if line.flushFails then [flushWarning] else []

/-- Send a text and flush the line. -/
def report (line : SerialLine) (text : String) : SerialLine × List Log.Record :=
  let (after, warnings) := line.tell (.composed text)
  (after, warnings ++ after.flush)

end SerialLine

end BoardSupervisor
