import BoardSupervisor.Proofs.Command.Effect

/-!
# What only the log can see

The arguments of a command are kept for the record that the log gets of its line. Nothing else reads
them once they have been understood: commands that differ in them alone are answered alike, write
the same bytes, ask the same of the board and leave the same machine.
-/

namespace BoardSupervisor

namespace Event

/-- The events that are no records of the log. -/
def unlogged (events : List Event) : List Event := events.filter fun event => event.entry?.isNone

/-- What is written does not depend on the log. -/
theorem written_unlogged (events : List Event) : written (unlogged events) = written events := by
  induction events with
  | nil => rfl
  | cons event rest ih =>
    cases event with
    | wrote bytes =>
      change written (.wrote bytes :: unlogged rest) = written (.wrote bytes :: rest)
      rw [written_wrote, written_wrote, ih]
    | asked operation => exact ih
    | logged entry => exact ih

/-- What is asked of the board does not depend on the log. -/
theorem operations_unlogged (events : List Event) :
    operations (unlogged events) = operations events := by
  induction events with
  | nil => rfl
  | cons event rest ih =>
    cases event with
    | wrote bytes => exact ih
    | asked operation => exact congrArg (operation :: ·) ih
    | logged entry => exact ih

end Event

/-- A command without the arguments that are only kept for the log. -/
def Command.withoutArguments : Command → Command
  | .ask name _ request => .ask name [] request
  | command => command

namespace Interpreter

variable (interpreter : Interpreter) (around : Bench) (m : Machine)

/-- A command is carried out in the same way without the arguments, but for the log. -/
theorem run_withoutArguments (command : Command) :
    let one := interpreter.run command.withoutArguments around m
    let other := interpreter.run command around m
    one.value = other.value ∧ Event.unlogged one.events = Event.unlogged other.events ∧
      one.machine = other.machine := by
  cases command with
  | ask name arguments request => exact ⟨rfl, rfl, rfl⟩
  | blank => exact ⟨rfl, rfl, rfl⟩
  | unknown verb => exact ⟨rfl, rfl, rfl⟩
  | leave name => exact ⟨rfl, rfl, rfl⟩

/-- Commands that differ in nothing but the arguments are carried out in the same way, but for the
log. -/
theorem run_congr {first second : Command}
    (same : first.withoutArguments = second.withoutArguments) :
    let one := interpreter.run first around m
    let other := interpreter.run second around m
    one.value = other.value ∧ Event.written one.events = Event.written other.events ∧
      Event.operations one.events = Event.operations other.events ∧
      one.machine = other.machine := by
  intro one other
  obtain ⟨oneValue, oneEvents, oneMachine⟩ := interpreter.run_withoutArguments around m first
  obtain ⟨otherValue, otherEvents, otherMachine⟩ := interpreter.run_withoutArguments around m second
  rw [same] at oneValue oneEvents oneMachine
  have events : Event.unlogged one.events = Event.unlogged other.events :=
    oneEvents.symm.trans otherEvents
  refine ⟨oneValue.symm.trans otherValue, ?_, ?_, oneMachine.symm.trans otherMachine⟩
  · rw [← Event.written_unlogged, events, Event.written_unlogged]
  · rw [← Event.operations_unlogged, events, Event.operations_unlogged]

end Interpreter

end BoardSupervisor
