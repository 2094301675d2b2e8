import BoardSupervisor.Number.Binary64

/-!
# The clock and the time that passes

The clock is stopped, runs on its own, or is driven by the supervisor so that each bus cycle can be
traced. While it runs, elapsed time turns into whole cycles; the part of a cycle that is left over
is kept for the next time. Time that has passed is a number of whole seconds and of nanoseconds
below one second, which the clock measures in seconds as a double.
-/

namespace BoardSupervisor

/-- An elapsed time. -/
structure Duration where
  /-- Whole seconds. -/
  seconds : Nat
  /-- Nanoseconds on top of the whole seconds. -/
  nanoseconds : Nat
  /-- The nanoseconds do not make up a second. -/
  nanoseconds_lt : nanoseconds < 1000000000

namespace Duration

/-- The elapsed time of some seconds and any number of nanoseconds. -/
def of (seconds nanoseconds : Nat) : Duration where
  seconds := seconds + nanoseconds / 1000000000
  nanoseconds := nanoseconds % 1000000000
  nanoseconds_lt := Nat.mod_lt _ (by decide)

/-- The elapsed time of a number of milliseconds. -/
def ofMilliseconds (milliseconds : Nat) : Duration := of 0 (milliseconds * 1000000)

/-- The elapsed time in nanoseconds. -/
def toNanoseconds (d : Duration) : Nat := d.seconds * 1000000000 + d.nanoseconds

/-- The elapsed time in seconds. -/
def inSeconds (d : Duration) : Float := Float.ofNat d.seconds + Float.ofNat d.nanoseconds / 1e9

end Duration

/-- How the clock is driven. -/
inductive ClockMode where
  /-- There are no cycles. -/
  | stopped
  /-- The clock runs on its own. -/
  | independent
  /-- The supervisor drives every cycle. -/
  | supervised
  deriving DecidableEq, Repr

/-- The name of a mode. -/
def ClockMode.name : ClockMode → String
  | .stopped => "stopped"
  | .independent => "independent"
  | .supervised => "supervised"

/-- The state of the clock. -/
structure Clock where
  /-- How the clock is driven. -/
  mode : ClockMode
  /-- Its frequency in hertz. -/
  hz : Float
  /-- The part of a cycle that has not been counted yet. -/
  remainder : Float

namespace Clock

/-- The clock at power-on. -/
def powerOn : Clock := ⟨.stopped, 0, 0⟩

/-- A clock set to run on its own; at a frequency of zero it is stopped. -/
def independent (hz : Float) : Clock := ⟨if hz == 0 then .stopped else .independent, hz, 0⟩

/-- A clock set to be driven by the supervisor. -/
def supervised (hz : Float) : Clock := ⟨.supervised, hz, 0⟩

/-- Whether time makes the clock count: it is not stopped, and its frequency is finite and
positive. -/
def counts (clock : Clock) : Bool :=
  clock.mode != .stopped && clock.hz.isFinite && !decide (clock.hz ≤ 0)

/-- The cycles that have accrued after an elapsed time, with the part left over from before. -/
def accrued (clock : Clock) (elapsed : Duration) : Float :=
  clock.hz * elapsed.inSeconds + clock.remainder

/-- The clock after some time: the whole cycles counted, and the clock with what is left over. -/
def advance (clock : Clock) (elapsed : Duration) : Nat × Clock :=
  if clock.counts then
    let cycles := clock.accrued elapsed
    let whole := Binary64.floor cycles
    (Binary64.count whole, { clock with remainder := cycles - whole })
  else (0, clock)

/-- Time changes neither mode nor frequency. -/
theorem advance_mode_hz (clock : Clock) (elapsed : Duration) :
    (clock.advance elapsed).2.mode = clock.mode ∧ (clock.advance elapsed).2.hz = clock.hz := by
  unfold advance
  split <;> exact ⟨rfl, rfl⟩

end Clock

end BoardSupervisor
