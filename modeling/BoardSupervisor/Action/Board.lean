import BoardSupervisor.Action.Basic
import BoardSupervisor.Files
import BoardSupervisor.Number.Shown

/-!
# Operations on the board

The actions that the supervisor's commands are made of. An action that changes the machine first
notes that it was asked for and then tells the log. A program cannot be loaded if its image would
run past the top of memory or its file cannot be read.
-/

namespace BoardSupervisor

/-- Why a program cannot be loaded. -/
inductive LoadFault where
  /-- An image of the given length at the given address runs past the top of memory. -/
  | overrun (address : UInt16) (length : Nat)
  /-- The file of the given name cannot be read. -/
  | unreadable (name : String) (cause : ReadFault)
  deriving DecidableEq, Repr

/-- What the operator is told about a program that cannot be loaded. -/
def LoadFault.message : LoadFault → String
  | .overrun address length =>
    Number.decimal length ++ " bytes at " ++ Number.hexWord address ++ " overrun memory"
  | .unreadable name cause => name ++ ": " ++ cause.message

namespace Act

/-- Show the registers and the count of cycles. -/
def showRegisters : Act Unit := do
  let m ← machine
  m.registers.dump.forM report
  report ("T=" ++ Number.decimal m.cycles ++ "\r\n")

/-- Pull the reset line. -/
def reset : Act Unit := do
  ask .reset
  log .info "reset"
  modify Machine.reset

/-- What the log is told when the clock is set. -/
def clockMessage (clock : Clock) : String :=
  "clock " ++ clock.mode.name ++ " at " ++ (Binary64.read clock.hz).toShortest ++ " Hz"

/-- Set the clock and tell the log its mode and frequency. -/
def setClock (clock : Clock) : Act Unit := do
  modify (Machine.setClock clock)
  log .info (clockMessage clock)

/-- Let the clock run on its own at a frequency, or stop it if that is zero. -/
def setIndependent (hz : Float) : Act Unit := do
  ask (.setIndependent hz)
  setClock (.independent hz)

/-- Drive the clock from the supervisor at a frequency. -/
def setSupervised (hz : Float) : Act Unit := do
  ask (.setSupervised hz)
  setClock (.supervised hz)

/-- What the log is told when the trace level is set. -/
def traceMessage (level : Int) : String := "bus trace level " ++ Number.signedDecimal level

/-- Set how closely the bus is traced. -/
def setTraceLevel (level : Int) : Act Unit := do
  ask (.setTraceLevel level)
  log .info (traceMessage level)
  modify (Machine.setTraceLevel level)

/-- What the log is told when a program was loaded. -/
def loadMessage (length : Nat) (address start : UInt16) : String :=
  "loaded " ++ Number.decimal length ++ " bytes at " ++ Number.hexWord address ++ ", pc=" ++
    Number.hexWord start

/-- Put an image into memory and point the program counter at its start, unless the image runs past
the top of memory. -/
def load (image : Array UInt8) (address start : UInt16) : Act (Except LoadFault Unit) := do
  if Memory.fits address image.size then
    modify (Machine.load image address start)
    log .info (loadMessage image.size address start)
    return .ok ()
  else return .error (.overrun address image.size)

/-- Load a program image that is handed to the board. -/
def loadProgram (image : Array UInt8) (address start : UInt16) : Act (Except LoadFault Unit) := do
  ask (.loadProgram image.size address start)
  load image address start

/-- Remark upon a name that is not a short name. -/
def remarkName (name : String) : Act Unit :=
  if ShortName.isShort name then pure () else log .warn (name ++ ": not an 8.3 file name")

/-- Read the file of the given name. -/
def readFile (name : String) : Act (Except LoadFault (Array UInt8)) := do
  let around ← bench
  return (around.disk (Path.join around.directory name)).mapError (.unreadable name)

/-- Load the file of the given name, and say how many bytes it has. A name that is not a short name
is remarked upon and looked up all the same. -/
def loadFile (name : String) (address start : UInt16) : Act (Except LoadFault Nat) := do
  ask (.loadFile name address start)
  remarkName name
  match ← readFile name with
  | .error fault => return .error fault
  | .ok image => return (← load image address start).map fun _ => image.size

/-- Send a byte to the serial port. -/
def sendSerial (byte : UInt8) : Act Unit := do
  ask (.sendSerial byte)
  log .trace ("uart rx " ++ Number.hexByte byte)
  modify (Machine.sendSerial byte)

/-- Take up to a number of bytes that were sent to the serial port, as many as there are. -/
def takeSerial (count : Nat) : Act (List UInt8) := transition (Machine.takeSerial count)

/-- What the log is told of cycles on a traced bus. -/
def busMessage (counted : Nat) (m : Machine) : String :=
  "bus: +" ++ Number.decimal counted ++ " cycles t=" ++ Number.decimal m.cycles ++ " pc=" ++
    Number.hexWord m.registers.pc ++ " level=" ++ Number.signedDecimal m.traceLevel

/-- Tell the log of cycles, if there were any and the bus is traced. -/
def traceCycles (counted : Nat) : Act Unit := do
  let m ← machine
  if m.tracesBus && counted > 0 then log .trace (busMessage counted m)

/-- Let time pass, and say how many cycles were counted in it. -/
def advance (elapsed : Duration) : Act Nat := do
  let counted ← transition (Machine.advance elapsed)
  traceCycles counted
  return counted

section Outcomes

variable (around : Bench) (m : Machine)

/-- How setting the trace level ends. -/
theorem setTraceLevel_apply (level : Int) :
    Act.setTraceLevel level around m =
      ⟨(), m.setTraceLevel level,
        [.asked (.setTraceLevel level), .logged ⟨.info, traceMessage level⟩]⟩ := rfl

/-- How loading an image ends that fits into memory. -/
theorem load_of_fits {image : Array UInt8} {address : UInt16} (start : UInt16)
    (fits : Memory.fits address image.size = true) :
    Act.load image address start around m =
      ⟨.ok (), m.load image address start,
        [.logged ⟨.info, loadMessage image.size address start⟩]⟩ := by
  unfold Act.load
  rw [if_pos fits]
  rfl

/-- How loading an image ends that does not fit into memory. -/
theorem load_of_not_fits {image : Array UInt8} {address : UInt16} (start : UInt16)
    (fits : Memory.fits address image.size = false) :
    Act.load image address start around m =
      ⟨.error (.overrun address image.size), m, []⟩ := by
  unfold Act.load
  rw [if_neg (by rw [fits]; exact Bool.false_ne_true)]
  rfl

end Outcomes

end Act

end BoardSupervisor
