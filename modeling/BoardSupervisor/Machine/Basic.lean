import BoardSupervisor.Machine.Clock
import BoardSupervisor.Machine.Memory
import BoardSupervisor.Machine.Registers

/-!
# The machine

The board as the supervisor sees it: registers, memory, clock, the level at which the bus is traced,
a count of cycles, and a queue of bytes for its serial port. There is no instruction decoder; the
clock only counts cycles.
-/

namespace BoardSupervisor

/-- The state of the board. -/
structure Machine where
  /-- The register file. -/
  registers : Registers
  /-- The memory. -/
  memory : Memory
  /-- The clock. -/
  clock : Clock
  /-- How closely the bus is traced. -/
  traceLevel : Int
  /-- The cycles counted since power-on, as many as a counter of 64 bits holds. -/
  cycles : Nat
  /-- The bytes sent to the serial port and not yet taken, the oldest first. -/
  serialQueue : Array UInt8

namespace Machine

/-- The board at power-on. -/
def powerOn : Machine where
  registers := .powerOn
  memory := .blank
  clock := .powerOn
  traceLevel := 0
  cycles := 0
  serialQueue := #[]

/-- The board after a reset: the registers as at power-on, all else kept. -/
def reset (m : Machine) : Machine := { m with registers := .powerOn }

/-- The board with its clock set. -/
def setClock (clock : Clock) (m : Machine) : Machine := { m with clock := clock }

/-- The board with its trace level set. -/
def setTraceLevel (level : Int) (m : Machine) : Machine := { m with traceLevel := level }

/-- The board with a program in memory, about to start. -/
def load (image : Array UInt8) (address start : UInt16) (m : Machine) : Machine :=
  { m with
    memory := m.memory.store address image
    registers := { m.registers with pc := start } }

/-- The board with one more byte for its serial port. -/
def sendSerial (byte : UInt8) (m : Machine) : Machine :=
  { m with serialQueue := m.serialQueue.push byte }

/-- The oldest bytes for the serial port, as many as are asked for and there are, and the board
without them. -/
def takeSerial (count : Nat) (m : Machine) : List UInt8 × Machine :=
  (m.serialQueue.toList.take count, { m with serialQueue := m.serialQueue.drop count })

/-- The board after some time, and the cycles counted in it. -/
def advance (elapsed : Duration) (m : Machine) : Nat × Machine :=
  let (counted, clock) := m.clock.advance elapsed
  (counted, { m with clock := clock, cycles := min Binary64.maxCount (m.cycles + counted) })

/-- Whether cycles are traced on the bus. -/
def tracesBus (m : Machine) : Bool := m.clock.mode == .supervised && m.traceLevel > 0

/-- The bytes taken from the queue and those left in it are the bytes that were in it. -/
theorem takeSerial_append (count : Nat) (m : Machine) :
    (m.takeSerial count).1 ++ (m.takeSerial count).2.serialQueue.toList = m.serialQueue.toList := by
  have left : (m.serialQueue.drop count).toList = m.serialQueue.toList.drop count := by
    rw [Array.drop_eq_extract, Array.toList_extract, List.extract_eq_take_drop]
    exact List.take_of_length_le (by simp)
  change m.serialQueue.toList.take count ++ (m.serialQueue.drop count).toList =
    m.serialQueue.toList
  rw [left, List.take_append_drop]

end Machine

end BoardSupervisor
