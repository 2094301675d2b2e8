import BoardSupervisor.Proofs.Command.Effect

/-!
# Lines that are carried out again

A command line says how the board is to be, not how it is to change. What a line leaves is therefore
something on which the same line has no more to do: a clock that is set is at its frequency and no
trace is in its way, a trace level is at its value and the clock is driven at the frequency that it
had, memory holds the image that was copied in. This holds even where the line takes another way the
second time, because the first time it had to give up the trace.
-/

namespace BoardSupervisor

/-- Copying an image in again changes nothing. -/
theorem Memory.store_store (memory : Memory) (address : UInt16) (image : Array UInt8) :
    (memory.store address image).store address image = memory.store address image := by
  have cells (cell : Fin 65536) :
      ((memory.store address image).store address image).get cell =
        (memory.store address image).get cell := by
    rw [get_store, get_store]
    split
    · cases image[cell.val - address.toNat]? <;> rfl
    · rfl
  exact Vector.ext fun index bound => cells ⟨index, bound⟩

namespace Machine

variable (m : Machine)

/-- Loading a program again changes nothing. -/
theorem load_load (image : Array UInt8) (address start : UInt16) :
    (m.load image address start).load image address start = m.load image address start := by
  dsimp only [load]
  rw [Memory.store_store]

/-- Once tracing has been given up where it has to be, the frequency is not too high for it. -/
theorem forbidTrace_withoutFastTrace (limits : ClockLimits) (hz : Float) :
    limits.forbidTrace hz (m.withoutFastTrace limits hz) = false := by
  unfold withoutFastTrace
  cases forbids : limits.forbidTrace hz m with
  | true => exact Bool.and_false _
  | false => exact forbids

/-- Where a frequency is not too high for tracing, nothing is given up for it. -/
theorem withoutFastTrace_of_allowed {m : Machine} {limits : ClockLimits} {hz : Float}
    (allowed : limits.forbidTrace hz m = false) : m.withoutFastTrace limits hz = m := by
  unfold withoutFastTrace
  rw [allowed, if_neg Bool.false_ne_true]

/-- Whether the supervisor has to drive the clock does not depend on the clock, so that a frequency
that is set again is set in the same way. -/
theorem atFrequency_atFrequency (hz : Float) :
    (m.atFrequency hz).atFrequency hz = m.atFrequency hz := rfl

/-- Setting a frequency again changes nothing, also where tracing was given up for it. -/
theorem setFrequency_again (limits : ClockLimits) (hz : Float) :
    (((m.withoutFastTrace limits hz).atFrequency hz).withoutFastTrace limits hz).atFrequency hz =
      (m.withoutFastTrace limits hz).atFrequency hz := by
  have allowed :
      limits.forbidTrace hz ((m.withoutFastTrace limits hz).atFrequency hz) = false :=
    m.forbidTrace_withoutFastTrace limits hz
  rw [withoutFastTrace_of_allowed allowed, atFrequency_atFrequency]

/-- Setting a trace level again changes nothing: the clock is taken over at the frequency that it
has. -/
theorem atTraceLevel_atTraceLevel (level : Int) :
    (m.atTraceLevel level).atTraceLevel level = m.atTraceLevel level := by
  unfold atTraceLevel
  split <;> rfl

end Machine

namespace Interpreter

variable (interpreter : Interpreter) (around : Bench) (m : Machine)

/-- A request has nothing more to do on the machine that it leaves. -/
theorem after_after (request : Request) :
    interpreter.after around (interpreter.after around m request) request =
      interpreter.after around m request := by
  cases request with
  | showRegisters => rfl
  | clock asked =>
    dsimp only [after]
    cases asked.frequency? interpreter.limits with
    | none => rfl
    | some hz => exact m.setFrequency_again interpreter.limits hz
  | reset => rfl
  | loadRom kind =>
    dsimp only [after]
    cases interpreter.rom? kind with
    | none => rfl
    | some image => exact m.load_load image kind.address kind.start
  | loadFile name address start =>
    dsimp only [after]
    cases around.program? name address with
    | none => rfl
    | some image => exact m.load_load image address start
  | trace level => exact m.atTraceLevel_atTraceLevel level

/-- A command has nothing more to do on the machine that it leaves. -/
theorem afterCommand_afterCommand (command : Command) :
    interpreter.afterCommand around (interpreter.afterCommand around m command) command =
      interpreter.afterCommand around m command := by
  unfold afterCommand
  cases command.request? with
  | none => rfl
  | some request => exact interpreter.after_after around m request

/-- Whatever the line, the machine and what is around it: carried out twice in a row, the line says
both times alike whether the session goes on, and leaves the machine as it does carried out once. -/
theorem execute_twice (line : String) :
    let once := interpreter.execute line around m
    let twice := interpreter.execute line around once.machine
    twice.value = once.value ∧ twice.machine = once.machine := by
  intro once twice
  have once_machine : once.machine = interpreter.afterCommand around m (Command.ofLine line) :=
    interpreter.run_machine around m (Command.ofLine line)
  have twice_machine :
      twice.machine = interpreter.afterCommand around once.machine (Command.ofLine line) :=
    interpreter.run_machine around once.machine (Command.ofLine line)
  constructor
  · calc twice.value
        = (Command.ofLine line).goesOn :=
          interpreter.run_value around once.machine (Command.ofLine line)
      _ = once.value := (interpreter.run_value around m (Command.ofLine line)).symm
  · rw [twice_machine, once_machine, afterCommand_afterCommand]

end Interpreter

end BoardSupervisor
