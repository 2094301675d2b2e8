import BoardSupervisor.Proofs.Console.Run

/-!
# How fast a traced bus runs

A bus that is traced, and a clock that the supervisor drives, are meant to stay at or below the
limit for tracing. The clock command sees to that. A trace level above zero does not: it takes over
the clock at whatever frequency the clock has. The limit is therefore kept in a run exactly as long
as tracing is never switched on above it.
-/

namespace BoardSupervisor

/-- While the bus is traced or the supervisor drives the clock, the limit for tracing is kept. -/
def Machine.TracedSlowly (limits : ClockLimits) (m : Machine) : Prop :=
  0 < m.traceLevel ∨ m.clock.mode = .supervised → ¬ m.clock.hz > limits.tracedMax

/-- A deed switches tracing on while the clock is above the limit for tracing. -/
def Deed.TracesFast (limits : ClockLimits) (m : Machine) : Deed → Prop
  | .request (.trace level) => 0 < level ∧ m.clock.hz > limits.tracedMax
  | _ => False

/-- In a moment tracing is switched on while the clock is above the limit for tracing. -/
def Scene.TracesFast (scene : Scene) (moment : Moment) : Prop :=
  (scene.deed moment).TracesFast scene.interpreter.limits scene.machine

namespace Machine

variable {limits : ClockLimits} {m other : Machine}

/-- At power-on nothing is traced and the clock is stopped. -/
theorem powerOn_tracedSlowly (limits : ClockLimits) : powerOn.TracedSlowly limits := by
  intro busy
  rcases busy with traced | driven
  · exact absurd traced (Int.lt_irrefl 0)
  · cases driven

/-- The limit concerns nothing but the trace level, the mode and the frequency. -/
theorem TracedSlowly.congr (slow : m.TracedSlowly limits)
    (level : other.traceLevel = m.traceLevel) (mode : other.clock.mode = m.clock.mode)
    (hz : other.clock.hz = m.clock.hz) : other.TracedSlowly limits := by
  unfold TracedSlowly
  rw [level, mode, hz]
  exact slow

/-- A frequency is driven by the supervisor only if the bus is traced. -/
theorem atFrequency_tracedSlowly {hz : Float}
    (untraced : hz > limits.tracedMax → m.traceLevel = 0) :
    (m.atFrequency hz).TracedSlowly limits := by
  have level_eq : (m.atFrequency hz).traceLevel = m.traceLevel := rfl
  have hz_eq : (m.atFrequency hz).clock.hz = hz := by
    unfold atFrequency setClock
    dsimp only
    split <;> rfl
  intro busy fast
  rw [hz_eq] at fast
  have zero := untraced fast
  rcases busy with traced | driven
  · rw [level_eq, zero] at traced
    exact absurd traced (Int.lt_irrefl 0)
  · have alone : m.needsDriving hz = false := by
      unfold needsDriving
      rw [zero]
      rfl
    unfold atFrequency setClock Clock.independent at driven
    rw [alone] at driven
    dsimp only at driven
    rw [if_neg Bool.false_ne_true] at driven
    cases zero : hz == 0 <;> simp [zero] at driven

/-- A frequency above the limit leaves the bus untraced. -/
theorem withoutFastTrace_traceLevel {hz : Float} (fast : hz > limits.tracedMax) (m : Machine) :
    (m.withoutFastTrace limits hz).traceLevel = 0 := by
  unfold withoutFastTrace ClockLimits.forbidTrace
  by_cases level : m.traceLevel = 0
  · rw [level, if_neg (by simp)]
    exact level
  · rw [if_pos (by simp [fast, level])]
    rfl

/-- A trace level above zero keeps the limit exactly when the clock is not above it. -/
theorem TracedSlowly.atTraceLevel_iff (slow : m.TracedSlowly limits) (level : Int) :
    (m.atTraceLevel level).TracedSlowly limits ↔
      ¬ (0 < level ∧ m.clock.hz > limits.tracedMax) := by
  unfold Machine.atTraceLevel
  by_cases above : level > 0
  · rw [if_pos above]
    constructor
    · intro slowly offending
      exact slowly (.inl above) offending.2
    · intro inoffensive _ fast
      exact inoffensive ⟨above, fast⟩
  · rw [if_neg above]
    constructor
    · intro _ offending
      exact above offending.1
    · intro _ busy
      rcases busy with traced | driven
      · exact absurd traced above
      · exact slow (.inr driven)

end Machine

namespace Interpreter

variable {m : Machine} (interpreter : Interpreter) (around : Bench)

/-- A request keeps the limit unless it switches tracing on above it. -/
theorem after_tracedSlowly_iff (slow : m.TracedSlowly interpreter.limits) (request : Request) :
    (interpreter.after around m request).TracedSlowly interpreter.limits ↔
      ¬ (Deed.request request).TracesFast interpreter.limits m := by
  constructor
  · intro slowly offending
    cases request with
    | trace level => exact (slow.atTraceLevel_iff level).mp slowly offending
    | showRegisters => exact offending
    | clock asked => exact offending
    | reset => exact offending
    | loadRom kind => exact offending
    | loadFile name address start => exact offending
  · intro inoffensive
    refine interpreter.after_cases around m (Machine.TracedSlowly interpreter.limits) request slow
      ?_ ?_ ?_ ?_
    · intro hz
      refine Machine.atFrequency_tracedSlowly ?_
      intro fast
      exact Machine.withoutFastTrace_traceLevel fast m
    · exact slow.congr rfl rfl rfl
    · intro image address start _
      exact slow.congr rfl rfl rfl
    · intro level asked
      rw [asked] at inoffensive
      exact (slow.atTraceLevel_iff level).mpr inoffensive

/-- A deed keeps the limit unless it switches tracing on above it. -/
theorem afterDeed_tracedSlowly_iff (slow : m.TracedSlowly interpreter.limits) (deed : Deed) :
    (interpreter.afterDeed around m deed).TracedSlowly interpreter.limits ↔
      ¬ deed.TracesFast interpreter.limits m := by
  cases deed with
  | nothing => exact iff_of_true slow id
  | request request => exact interpreter.after_tracedSlowly_iff around slow request
  | send byte => exact iff_of_true (slow.congr rfl rfl rfl) id
  | elapse time =>
    have same := m.clock.advance_mode_hz time
    exact iff_of_true (slow.congr rfl same.1 same.2) id
  | take count => exact iff_of_true (slow.congr rfl rfl rfl) id

end Interpreter

namespace Scene

variable {scene : Scene}

/-- A moment keeps the limit unless tracing is switched on above it. -/
theorem next_tracedSlowly_iff (slow : scene.machine.TracedSlowly scene.interpreter.limits)
    (moment : Moment) :
    (scene.next moment).machine.TracedSlowly scene.interpreter.limits ↔
      ¬ scene.TracesFast moment := by
  rw [next_machine]
  exact scene.interpreter.afterDeed_tracedSlowly_iff moment.around slow (scene.deed moment)

/-- The limit for tracing is kept all through a run from power-on exactly if tracing is at no moment
of it switched on above the limit. -/
theorem run_tracedSlowly_iff (console : Console) (moments : List Moment) :
    (∀ before, before <+: moments →
      ((powerOn console).run before).machine.TracedSlowly (powerOn console).interpreter.limits) ↔
    ∀ before moment, before ++ [moment] <+: moments →
      ¬ ((powerOn console).run before).TracesFast moment := by
  refine run_kept_iff (powerOn console)
    (fun m => m.TracedSlowly (powerOn console).interpreter.limits) TracesFast
    (Machine.powerOn_tracedSlowly _) ?_ moments
  intro before moment slow
  rw [← run_interpreter (powerOn console) before] at slow ⊢
  exact next_tracedSlowly_iff slow moment

/-- A trace level above zero that follows the fast frequency takes the bus above the limit. -/
theorem trace_after_clk_fast :
    let around : Bench := { disk := fun _ => .error .notFound, directory := "." }
    let scene := powerOn (.new {} {})
    ¬ (scene.run [⟨around, .line "clk fast"⟩, ⟨around, .line "trace 1"⟩]).machine.TracedSlowly
      scene.interpreter.limits := by
  intro around scene slowly
  have traced : 0 < (scene.run
      [⟨around, .line "clk fast"⟩, ⟨around, .line "trace 1"⟩]).machine.traceLevel := by
    decide +kernel
  have fast : (scene.run
      [⟨around, .line "clk fast"⟩, ⟨around, .line "trace 1"⟩]).machine.clock.hz >
        scene.interpreter.limits.tracedMax := by
    decide +kernel
  exact slowly (.inl traced) fast

end Scene

end BoardSupervisor
