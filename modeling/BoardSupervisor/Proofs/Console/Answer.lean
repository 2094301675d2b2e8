import BoardSupervisor.Proofs.Console.Run

/-!
# What a stimulus writes

What is written to the operator for a command line or a typed byte, as a function of the console and
the machine that it meets. The passing of time and a program that takes bytes write nothing. A byte
writes what the editor shows of it; the byte that submits a line also writes what the line answers.
-/

namespace BoardSupervisor

/-- A key that submits the line ends it on the screen and leaves it as it is. -/
theorem Editor.press_of_submit {editor : Editor} {key : UInt8}
    (submits : (editor.press key).edit = .submit) :
    editor.press key = ⟨.submit, editor, lineEnd⟩ := by
  unfold press at submits ⊢
  cases kind : editor.kindOf key with
  | submit => rfl
  | abort =>
    rw [kind] at submits
    cases submits
  | control =>
    rw [kind] at submits
    cases submits
  | erase =>
    rw [kind] at submits
    unfold erase at submits
    dsimp only at submits
    split at submits <;> cases submits
  | printable =>
    rw [kind] at submits
    unfold typeByte at submits
    dsimp only at submits
    split at submits <;> cases submits

/-- A command with a request is answered as its request is. -/
theorem Interpreter.answerCommand_of_deed {command : Command} {request : Request}
    (asks : command.deed = .request request) (interpreter : Interpreter) (around : Bench)
    (m : Machine) :
    interpreter.answerCommand around m command = interpreter.answer around m request := by
  cases command with
  | blank => cases asks
  | unknown verb => cases asks
  | leave name => cases asks
  | ask name arguments asked =>
    cases asked with
    | error fault => cases asks
    | ok asked =>
      cases asks
      rfl

/-- A command that has no request carried out does nothing. -/
theorem Command.deed_eq_nothing {command : Command}
    (idle : ∀ request, command.deed ≠ .request request) : command.deed = .nothing := by
  unfold deed at idle ⊢
  cases asked : command.request? with
  | none => rfl
  | some request =>
    rw [asked] at idle
    exact absurd rfl (idle request)

/-- A command without a request is answered in the same way whatever the machine. -/
theorem Interpreter.answerCommand_of_idle {command : Command} (idle : command.deed = .nothing)
    (interpreter : Interpreter) (around : Bench) (m other : Machine) :
    interpreter.answerCommand around m command =
      interpreter.answerCommand around other command := by
  cases command with
  | blank => rfl
  | unknown verb => rfl
  | leave name => rfl
  | ask name arguments asked =>
    cases asked with
    | error fault => rfl
    | ok asked => cases idle

namespace Menu

variable (menu : Menu) (around : Bench) (m : Machine)

/-- The bytes that an edit of the line writes once it has been made. -/
def editAnswer : Edit → List UInt8
  | .submit => menu.interpreter.answerCommand around m (Command.ofLine menu.editor.text)
  | _ => []

/-- The bytes that a key writes while the menu is open. -/
def answer (key : UInt8) : List UInt8 :=
  (menu.editor.press key).written ++
    (menu.edited key).editAnswer around m (menu.editor.press key).edit

/-- Following an edit writes the bytes of its answer. -/
theorem written_follow (edit : Edit) :
    Event.written (menu.follow edit around m).events = menu.editAnswer around m edit := by
  cases edit with
  | editing => rfl
  | abort => rfl
  | submit =>
    dsimp only [follow, editAnswer, Interpreter.execute]
    rw [Act.bind_apply, Act.pure_apply, Event.written_append, Interpreter.written_run]
    exact List.append_nil _

/-- A key in the menu writes the bytes of its answer. -/
theorem written_press (key : UInt8) :
    Event.written (menu.press key around m).events = menu.answer around m key := by
  unfold answer
  rw [← (menu.edited key).written_follow around m]
  simp only [press, edited, Act.bind_apply, Act.write_apply, Act.pure_apply, Event.written_append,
    Event.written_wrote, Event.written_nil, List.append_nil]

variable {menu} {key : UInt8}

/-- A key that has a request carried out ends the line, which is answered as the request is. -/
theorem answer_of_request {request : Request} (asks : menu.deed key = .request request) :
    menu.answer around m key =
      Editor.lineEnd ++ menu.interpreter.answer around m request := by
  unfold deed at asks
  unfold answer
  cases edit : (menu.editor.press key).edit with
  | editing =>
    rw [edit] at asks
    cases asks
  | abort =>
    rw [edit] at asks
    cases asks
  | submit =>
    rw [edit] at asks
    have asked : (Command.ofLine (menu.edited key).editor.text).deed = .request request := asks
    have answered := Interpreter.answerCommand_of_deed asked menu.interpreter around m
    have shown : (menu.editor.press key).written = Editor.lineEnd := by
      rw [Editor.press_of_submit edit]
    rw [shown, ← answered]
    rfl

/-- A key that has no request carried out is answered in the same way whatever the machine. -/
theorem answer_of_no_request (idle : ∀ request, menu.deed key ≠ .request request)
    (other : Machine) : menu.answer around m key = menu.answer around other key := by
  unfold deed at idle
  unfold answer
  cases edit : (menu.editor.press key).edit with
  | editing => rfl
  | abort => rfl
  | submit =>
    rw [edit] at idle
    have quiet : (Command.ofLine (menu.edited key).editor.text).deed = .nothing :=
      Command.deed_eq_nothing idle
    have answered := Interpreter.answerCommand_of_idle quiet menu.interpreter around m other
    exact congrArg ((menu.editor.press key).written ++ ·) answered

end Menu

/-- What is shown before a command is answered: of a typed line, its end. -/
def Stimulus.lead : Stimulus → List UInt8
  | .key _ => Editor.lineEnd
  | _ => []

namespace Console

variable (console : Console) (around : Bench) (m : Machine)

/-- The bytes that a byte writes. -/
def keyAnswer (key : UInt8) : List UInt8 :=
  if console.menuOpen then console.menu.answer around m key
  else if key == console.escapeKey then Text.Latin1.encode Menu.prompt
  else []

/-- The bytes that a stimulus writes. -/
def answer : Stimulus → List UInt8
  | .line text => console.menu.interpreter.answerCommand around m (Command.ofLine text)
  | .key byte => console.keyAnswer around m byte
  | .elapse _ => []
  | .take _ => []

/-- A byte writes the bytes of its answer. -/
theorem written_receive (key : UInt8) :
    Event.written (console.receive key around m).events = console.keyAnswer around m key := by
  unfold receive keyAnswer
  cases console.menuOpen with
  | true =>
    rw [if_pos rfl, if_pos rfl, receiveInMenu_apply]
    dsimp only
    rw [Event.written_append, Menu.written_press]
    cases (console.menu.editor.press key).edit <;> exact List.append_nil _
  | false =>
    rw [if_neg Bool.false_ne_true, if_neg Bool.false_ne_true]
    cases key == console.escapeKey with
    | true => exact List.append_nil _
    | false => rfl

/-- A stimulus writes the bytes of its answer. -/
theorem written_meet (stimulus : Stimulus) :
    Event.written (console.meet stimulus around m).events = console.answer around m stimulus := by
  cases stimulus with
  | line text =>
    dsimp only [meet, answer, Interpreter.execute]
    rw [Act.map_apply, Interpreter.written_run]
  | key byte => exact console.written_receive around m byte
  | elapse time =>
    dsimp only [meet, answer]
    rw [Act.map_apply, Act.advance_apply]
    exact Act.written_busEvents _ _
  | take count => rfl

variable {console} {stimulus : Stimulus}

/-- A stimulus that has a request carried out is answered as the request is. -/
theorem answer_of_request {request : Request} (asks : console.deed stimulus = .request request) :
    console.answer around m stimulus =
      stimulus.lead ++ console.menu.interpreter.answer around m request := by
  cases stimulus with
  | line text =>
    have asked : (Command.ofLine text).deed = .request request := asks
    exact Interpreter.answerCommand_of_deed asked console.menu.interpreter around m
  | key byte =>
    dsimp only [deed, keyDeed] at asks
    dsimp only [answer, keyAnswer]
    cases isOpen : console.menuOpen with
    | true =>
      rw [isOpen, if_pos rfl] at asks
      rw [if_pos rfl]
      exact Menu.answer_of_request around m asks
    | false =>
      rw [isOpen, if_neg Bool.false_ne_true] at asks
      split at asks <;> cases asks
  | elapse time => cases asks
  | take count => cases asks

/-- A stimulus that has no request carried out is answered in the same way whatever the machine. -/
theorem answer_of_no_request (idle : ∀ request, console.deed stimulus ≠ .request request)
    (other : Machine) :
    console.answer around m stimulus = console.answer around other stimulus := by
  cases stimulus with
  | line text =>
    have quiet : (Command.ofLine text).deed = .nothing := Command.deed_eq_nothing idle
    exact Interpreter.answerCommand_of_idle quiet console.menu.interpreter around m other
  | key byte =>
    dsimp only [answer, keyAnswer]
    dsimp only [deed, keyDeed] at idle
    cases isOpen : console.menuOpen with
    | true =>
      rw [isOpen, if_pos rfl] at idle
      rw [if_pos rfl, if_pos rfl]
      exact Menu.answer_of_no_request around m idle other
    | false => rw [if_neg Bool.false_ne_true, if_neg Bool.false_ne_true]
  | elapse time => rfl
  | take count => rfl

end Console

/-- The bytes that are written in a moment. -/
def Scene.written (scene : Scene) (moment : Moment) : List UInt8 :=
  Event.written (scene.outcome moment).events

/-- What is written in a moment is the answer to its stimulus. -/
theorem Scene.written_eq (scene : Scene) (moment : Moment) :
    scene.written moment =
      scene.console.answer moment.around scene.machine moment.stimulus :=
  scene.console.written_meet moment.around scene.machine moment.stimulus

end BoardSupervisor
