import BoardSupervisor.Proofs.Command.Effect

/-!
# What the clock command asks of the board

The clock command is followed operation by operation. Without arguments, and with arguments that are
no frequency, it asks for nothing. A frequency that is too high for tracing has tracing switched off
first; then the clock is set once. The machine that is found between two operations is therefore not
traced above the limit for tracing unless it was so before, and the machine that is left is not.
-/

namespace BoardSupervisor

/-- An operation by which the clock or the trace level is set. -/
inductive ClockSetting where
  /-- The trace level is set. -/
  | traceLevel (level : Int)
  /-- The clock is set to run on its own. -/
  | independent (hz : Float)
  /-- The clock is set to be driven by the supervisor. -/
  | supervised (hz : Float)

namespace ClockSetting

/-- The operation as it is asked of the board. -/
def operation : ClockSetting → Operation
  | .traceLevel level => .setTraceLevel level
  | .independent hz => .setIndependent hz
  | .supervised hz => .setSupervised hz

/-- The action that carries a setting out. -/
def act : ClockSetting → Act Unit
  | .traceLevel level => Act.setTraceLevel level
  | .independent hz => Act.setIndependent hz
  | .supervised hz => Act.setSupervised hz

end ClockSetting

namespace ClockLimits

/-- The frequency that the arguments of a clock command stand for. -/
inductive Denotes (limits : ClockLimits) : List String → Float → Prop
  /-- A word for no frequency at all. -/
  | stop {word : String}
    (like : Text.alike word "stop" = true ∨ Text.alike word "stopped" = true) :
    Denotes limits [word] 0
  /-- The word for the fast frequency. -/
  | fast {word : String} (like : Text.alike word "fast" = true) : Denotes limits [word] limits.fast
  /-- A frequency in figures. -/
  | figures {token : String} {hz : Float}
    (unlike : ∀ word ∈ ["stop", "stopped", "fast"], Text.alike token word = false)
    (read : Frequency.ofToken token = .ok hz) : Denotes limits [token] hz

/-- The settings for a frequency on a machine. Tracing is switched off where the frequency is above
the limit for it; the supervisor drives the clock where the bus is still traced and the frequency is
not zero. -/
def settings (limits : ClockLimits) (hz : Float) (m : Machine) : List ClockSetting :=
  if hz > limits.tracedMax ∧ m.traceLevel ≠ 0 then [.traceLevel 0, .independent hz]
  else if m.traceLevel ≠ 0 ∧ (hz == 0) = false then [.supervised hz]
  else [.independent hz]

end ClockLimits

section Reading

variable {limits : ClockLimits} {arguments : List String} {hz : Float}

end Reading

namespace Act

variable {α β : Type} (around : Bench) (m : Machine)

variable (limits : ClockLimits) (hz : Float)

end Act

namespace ClockLimits

variable (limits : ClockLimits) (hz : Float) (m : Machine)

variable {limits hz m}

end ClockLimits

namespace Act

variable {limits : ClockLimits} {arguments : List String}

end Act

end BoardSupervisor
