import BoardSupervisor.Proofs.Console.Run

/-!
# The serial port in a run

Only one deed puts bytes into the queue of the serial port and only one takes them out. Whatever
else happens in a run, the bytes taken in it and those left in the queue at its end are the bytes
that were in the queue at its beginning and those sent in the run: none is lost, repeated or moved.
-/

namespace BoardSupervisor

/-- The bytes that a deed sends to the serial port. -/
def Deed.sent : Deed → List UInt8
  | .send byte => [byte]
  | _ => []

/-- The bytes that come back from the serial port. -/
def Reply.bytes : Reply → List UInt8
  | .taken bytes => bytes
  | _ => []

/-- The bytes in the queue of the serial port. -/
def Machine.queued (m : Machine) : List UInt8 := m.serialQueue.toList

/-- A byte that is sent comes last in the queue. -/
theorem Machine.sendSerial_queued (m : Machine) (byte : UInt8) :
    (m.sendSerial byte).queued = m.queued ++ [byte] := by
  unfold queued sendSerial
  rw [Array.toList_push]

/-- The deeds of a run, in order. -/
def Scene.deeds : Scene → List Moment → List Deed
  | _, [] => []
  | scene, moment :: rest => scene.deed moment :: (scene.next moment).deeds rest

/-- The bytes that are sent in a run. -/
def Scene.sent (scene : Scene) (moments : List Moment) : List UInt8 :=
  (scene.deeds moments).flatMap Deed.sent

/-- The bytes that are taken in a run. -/
def Scene.taken (scene : Scene) (moments : List Moment) : List UInt8 :=
  (scene.replies moments).flatMap Reply.bytes

/-- Carrying out a command sends nothing. -/
theorem Command.deed_sent (command : Command) : command.deed.sent = [] := by
  unfold Command.deed
  cases command.request? <;> rfl

/-- A byte typed in the menu is not sent. -/
theorem Menu.deed_sent (menu : Menu) (key : UInt8) : (menu.deed key).sent = [] := by
  unfold deed editDeed
  cases (menu.editor.press key).edit with
  | editing => rfl
  | abort => rfl
  | submit => exact Command.deed_sent _

namespace Interpreter

variable (interpreter : Interpreter) (around : Bench) (m : Machine)

/-- Requests keep the queue of the serial port. -/
theorem after_queued (request : Request) :
    (interpreter.after around m request).queued = m.queued :=
  congrArg Array.toList (interpreter.after_frame around m request).2

/-- A command keeps the queue of the serial port. -/
theorem afterDeed_command_queued (command : Command) :
    (interpreter.afterDeed around m command.deed).queued = m.queued := by
  unfold Command.deed
  cases command.request? with
  | none => rfl
  | some request => exact interpreter.after_queued around m request

/-- A byte typed at the console keeps the queue or is put at its end. -/
theorem afterDeed_key_queued (console : Console) (key : UInt8) :
    (interpreter.afterDeed around m (console.keyDeed key)).queued =
      m.queued ++ (console.keyDeed key).sent := by
  let Queues (deed : Deed) : Prop :=
    (interpreter.afterDeed around m deed).queued = m.queued ++ deed.sent
  have keeps (request : Request) : Queues (.request request) :=
    (interpreter.after_queued around m request).trans (List.append_nil m.queued).symm
  exact console.keyDeed_cases Queues key (List.append_nil m.queued).symm keeps m.sendSerial_queued

end Interpreter

namespace Scene

variable (scene : Scene)

/-- In a moment the bytes taken and those left are the bytes that were there and those sent. -/
theorem next_queued (moment : Moment) :
    (scene.reply moment).bytes ++ (scene.next moment).machine.queued =
      scene.machine.queued ++ (scene.deed moment).sent := by
  rw [next_machine]
  obtain ⟨around, stimulus⟩ := moment
  cases stimulus with
  | line text =>
    have sent : (scene.deed ⟨around, .line text⟩).sent = [] := Command.deed_sent _
    rw [sent, List.append_nil]
    exact scene.interpreter.afterDeed_command_queued around scene.machine _
  | key byte =>
    exact scene.interpreter.afterDeed_key_queued around scene.machine scene.console byte
  | elapse time => exact (List.append_nil scene.machine.queued).symm
  | take count => exact (scene.machine.takeSerial_append count).trans (List.append_nil _).symm

/-- In a run the bytes taken and those left are the bytes that were there and those sent. -/
theorem run_queued (moments : List Moment) :
    scene.taken moments ++ (scene.run moments).machine.queued =
      scene.machine.queued ++ scene.sent moments := by
  induction moments generalizing scene with
  | nil => exact (List.append_nil scene.machine.queued).symm
  | cons moment rest ih =>
    have now := scene.next_queued moment
    have later := ih (scene.next moment)
    calc scene.taken (moment :: rest) ++ (scene.run (moment :: rest)).machine.queued
        = (scene.reply moment).bytes ++ ((scene.next moment).taken rest ++
            ((scene.next moment).run rest).machine.queued) := by
          unfold taken
          rw [replies, List.flatMap_cons, List.append_assoc]
          rfl
      _ = (scene.reply moment).bytes ++ ((scene.next moment).machine.queued ++
            (scene.next moment).sent rest) := by rw [later]
      _ = scene.machine.queued ++ ((scene.deed moment).sent ++ (scene.next moment).sent rest) := by
          rw [← List.append_assoc, now, List.append_assoc]
      _ = scene.machine.queued ++ scene.sent (moment :: rest) := by
          unfold sent
          rw [deeds, List.flatMap_cons]

end Scene

end BoardSupervisor
