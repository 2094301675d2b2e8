import BoardSupervisor.Action.Board
import BoardSupervisor.Command.Request

/-!
# Clock and trace

Tracing the bus needs a clock that the supervisor drives, and such a clock cannot run fast. Setting
the clock above the limit therefore first switches tracing off; switching tracing on hands the clock
to the supervisor at the frequency it has.
-/

namespace BoardSupervisor

/-- The frequencies that the clock command works with. -/
structure ClockLimits where
  /-- The fast frequency. -/
  fast : Float := 8000000
  /-- The highest frequency at which the bus can be traced. -/
  tracedMax : Float := 100000

/-- The frequency that a request sets, if it sets one. -/
def ClockRequest.frequency? (limits : ClockLimits) : ClockRequest → Option Float
  | .report => none
  | .stop => some 0
  | .fast => some limits.fast
  | .run hz => some hz

/-- Whether a frequency is too high for the trace level that the machine has. -/
def ClockLimits.forbidTrace (limits : ClockLimits) (hz : Float) (m : Machine) : Bool :=
  hz > limits.tracedMax && m.traceLevel != 0

/-- Whether the supervisor has to drive the clock at a frequency for the trace level that the
machine has. -/
def Machine.needsDriving (hz : Float) (m : Machine) : Bool := m.traceLevel != 0 && hz != 0

namespace Act

/-- Tell the operator what is wrong with the arguments of a command. -/
def complain (fault : ArgumentFault) : Act Unit :=
  fault.lines.forM fun line => report (line ++ "\r\n")

/-- Switch tracing off, and say so, if a frequency is too high for it. -/
def giveUpTrace (limits : ClockLimits) (hz : Float) : Act Unit := do
  if limits.forbidTrace hz (← machine) then
    tell (.literal "clock: disabling bus tracing for high speed\r\n")
    setTraceLevel 0

/-- Set the clock to a frequency, driven by the supervisor while the bus is traced. -/
def driveClock (hz : Float) : Act Unit := do
  if (← machine).needsDriving hz then setSupervised hz else setIndependent hz

/-- Set the clock, after switching tracing off if the frequency is too high for it. -/
def runClockAt (limits : ClockLimits) (hz : Float) : Act Unit := do
  giveUpTrace limits hz
  driveClock hz

/-- Show the mode and frequency of the clock. -/
def reportClock : Act Unit := do
  let clock := (← machine).clock
  report ("clock: " ++ clock.mode.name ++ " " ++ Frequency.display clock.hz ++ "\r\n")

/-- Do what is asked of the clock, and show it. -/
def clock (limits : ClockLimits) (request : ClockRequest) : Act Unit := do
  match request.frequency? limits with
  | some hz => runClockAt limits hz
  | none => pure ()
  reportClock

/-- Set how closely the bus is traced; at a level above zero the supervisor takes over the clock. -/
def trace (level : Int) : Act Unit := do
  setTraceLevel level
  if level > 0 then setSupervised (← machine).clock.hz

/-- Do what the arguments of a command ask for, or tell the operator what is wrong with them. -/
def orComplain {α : Type} (request : Except ArgumentFault α) (action : α → Act Unit) : Act Unit :=
  match request with
  | .ok request => action request
  | .error fault => complain fault

/-- The clock command with its arguments. -/
def clockCommand (limits : ClockLimits) (arguments : List String) : Act Unit :=
  orComplain (ClockRequest.ofArguments arguments) (clock limits)

/-- The trace command with its arguments. -/
def traceCommand (arguments : List String) : Act Unit :=
  orComplain (traceLevelOfArguments arguments) trace

end Act

end BoardSupervisor
