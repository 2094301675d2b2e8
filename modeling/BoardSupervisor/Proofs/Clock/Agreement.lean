import BoardSupervisor.Proofs.Console.Run

/-!
# How the parts of the clock agree

The trace level, the mode of the clock and its frequency are set by different commands. In every
machine that a run can reach they agree: a traced clock never runs on its own, and a clock that does
not run is at a frequency of zero. Setting a frequency brings about the agreement whatever the
machine was before; a trace level above zero takes over the clock, and one of zero or below leaves
the agreement as it was. The frequency is compared as a double, so that nothing has to be assumed of
frequencies that are no numbers.
-/

namespace BoardSupervisor

namespace Machine

/-- The trace level, the mode of the clock and its frequency agree. -/
structure ClockAgrees (m : Machine) : Prop where
  /-- A traced clock is driven by the supervisor or stopped. -/
  traced : 0 < m.traceLevel → m.clock.mode = .supervised ∨ m.clock.mode = .stopped
  /-- A stopped clock is at a frequency of zero. -/
  stopped : m.clock.mode = .stopped → (m.clock.hz == 0) = true
  /-- A clock that runs on its own is at another frequency. -/
  independent : m.clock.mode = .independent → (m.clock.hz == 0) = false

variable {m other : Machine}

/-- At power-on the clock is stopped at a frequency of zero. -/
theorem powerOn_clockAgrees : powerOn.ClockAgrees where
  traced := fun _ => .inr rfl
  stopped := fun _ => by decide
  independent := fun mode => by cases mode

/-- The agreement concerns nothing but the trace level, the mode and the frequency. -/
theorem ClockAgrees.congr (agrees : m.ClockAgrees) (level : other.traceLevel = m.traceLevel)
    (mode : other.clock.mode = m.clock.mode) (hz : other.clock.hz = m.clock.hz) :
    other.ClockAgrees := by
  refine ⟨?_, ?_, ?_⟩
  · rw [level, mode]
    exact agrees.traced
  · rw [mode, hz]
    exact agrees.stopped
  · rw [mode, hz]
    exact agrees.independent

/-- A clock that the supervisor drives agrees with every trace level and frequency. -/
theorem clockAgrees_of_supervised (driven : m.clock.mode = .supervised) : m.ClockAgrees := by
  refine ⟨?_, ?_, ?_⟩
  · intro _
    exact .inl driven
  · intro mode
    rw [driven] at mode
    cases mode
  · intro mode
    rw [driven] at mode
    cases mode

/-- Setting a frequency brings about the agreement, whatever the machine was before. -/
theorem atFrequency_clockAgrees (hz : Float) (m : Machine) : (m.atFrequency hz).ClockAgrees := by
  unfold atFrequency
  cases drives : m.needsDriving hz with
  | true =>
    rw [if_pos rfl]
    exact clockAgrees_of_supervised rfl
  | false =>
    rw [if_neg Bool.false_ne_true]
    have level_or_zero : (m.traceLevel != 0) = false ∨ (hz != 0) = false := by
      unfold needsDriving at drives
      exact Bool.and_eq_false_iff.mp drives
    dsimp only [setClock, Clock.independent]
    cases zero : hz == 0 with
    | true =>
      refine ⟨fun _ => .inr rfl, fun _ => zero, ?_⟩
      intro mode
      cases mode
    | false =>
      refine ⟨?_, ?_, fun _ => zero⟩
      · intro above
        exfalso
        rcases level_or_zero with level | other
        · have level_eq : m.traceLevel = 0 := by simpa using level
          dsimp only at above
          omega
        · unfold bne at other
          rw [zero] at other
          cases other
      · intro mode
        cases mode

/-- Setting the trace level keeps the agreement. -/
theorem ClockAgrees.atTraceLevel (agrees : m.ClockAgrees) (level : Int) :
    (m.atTraceLevel level).ClockAgrees := by
  unfold Machine.atTraceLevel
  by_cases above : level > 0
  · rw [if_pos above]
    exact clockAgrees_of_supervised rfl
  · rw [if_neg above]
    exact ⟨fun traced => absurd traced above, agrees.stopped, agrees.independent⟩

/-- The passing of time keeps the agreement. -/
theorem ClockAgrees.advance (agrees : m.ClockAgrees) (time : Duration) :
    (m.advance time).2.ClockAgrees := by
  have same := m.clock.advance_mode_hz time
  exact agrees.congr rfl same.1 same.2

end Machine

namespace Interpreter

variable {m : Machine} (interpreter : Interpreter) (around : Bench)

/-- Every request keeps the agreement. -/
theorem after_clockAgrees (agrees : m.ClockAgrees) (request : Request) :
    (interpreter.after around m request).ClockAgrees := by
  refine interpreter.after_cases around m Machine.ClockAgrees request agrees ?_ ?_ ?_ ?_
  · intro hz
    exact Machine.atFrequency_clockAgrees hz _
  · exact agrees.congr rfl rfl rfl
  · intro image address start _
    exact agrees.congr rfl rfl rfl
  · intro level _
    exact agrees.atTraceLevel level

/-- Every deed keeps the agreement. -/
theorem afterDeed_clockAgrees (agrees : m.ClockAgrees) (deed : Deed) :
    (interpreter.afterDeed around m deed).ClockAgrees := by
  cases deed with
  | nothing => exact agrees
  | request request => exact interpreter.after_clockAgrees around agrees request
  | send byte => exact agrees.congr rfl rfl rfl
  | elapse time => exact agrees.advance time
  | take count => exact agrees.congr rfl rfl rfl

end Interpreter

/-- In every machine that a run from power-on reaches, the parts of the clock agree. -/
theorem Scene.run_clockAgrees (console : Console) (moments : List Moment) :
    ((Scene.powerOn console).run moments).machine.ClockAgrees := by
  refine (Scene.powerOn console).run_machine Machine.ClockAgrees moments ?_ ?_
  · exact Machine.powerOn_clockAgrees
  · intro around m deed agrees
    exact (Scene.powerOn console).interpreter.afterDeed_clockAgrees around agrees deed

end BoardSupervisor
