import BoardSupervisor.Proofs.Console.SerialPort
import BoardSupervisor.Proofs.Console.Stretch

/-!
# Visits to the menu

What a stretch of typed bytes does. A byte outside the menu goes to the serial port and nothing is
written. A visit to the menu shows the prompt, starts from an empty line and shows the bytes as they
are typed; the byte that closes the menu has the line carried out once or gives it up. Both are
summed up by the machine that is left and the bytes that are written.
-/

namespace BoardSupervisor

namespace Editor

variable (editor : Editor)

/-- The editor after bytes that were typed. -/
def after (keys : List UInt8) : Editor :=
  keys.foldl (fun editor key => (editor.press key).editor) editor

/-- Write what the operator sees of bytes while they are typed. -/
def echo (editor : Editor) : List UInt8 → Act Unit
  | [] => return ()
  | key :: keys => do
    Act.write (editor.press key).written
    (editor.press key).editor.echo keys

/-- What the operator sees of bytes while they are typed. -/
def echoes (editor : Editor) : List UInt8 → List UInt8
  | [] => []
  | key :: keys => (editor.press key).written ++ (editor.press key).editor.echoes keys

/-- Writing what the operator sees of typed bytes keeps the machine. -/
theorem echo_machine (keys : List UInt8) (around : Bench) (m : Machine) :
    (editor.echo keys around m).machine = m := by
  induction keys generalizing editor with
  | nil => rfl
  | cons key keys ih => exact ih (editor.press key).editor

/-- What is written while bytes are typed. -/
theorem written_echo (keys : List UInt8) (around : Bench) (m : Machine) :
    Event.written (editor.echo keys around m).events = editor.echoes keys := by
  induction keys generalizing editor with
  | nil => rfl
  | cons key keys ih =>
    rw [echo, Act.bind_apply, Act.write_apply]
    dsimp only
    rw [Event.written_append, Event.written_wrote, Event.written_nil, List.append_nil, ih, echoes]

/-- A key that ends the line submits it as it is. -/
theorem press_of_endsLine {key : UInt8} (ends : Key.endsLine key = true) :
    editor.press key = ⟨.submit, editor, lineEnd⟩ := by
  have kind : editor.kindOf key = .submit := by
    unfold Key.endsLine at ends
    unfold kindOf
    rcases Bool.or_eq_true_iff.mp ends with carriage | feed
    · rw [eq_of_beq carriage]
      rfl
    · rw [eq_of_beq feed]
      rfl
  unfold press
  rw [kind]

/-- A key that takes a byte back erases. -/
theorem press_eq_erase {key : UInt8} (back : Key.takesBack key = true) :
    editor.press key = editor.erase := by
  have kind : editor.kindOf key = .erase := by
    have named : (key == 0x08 || key == 0x7f) = true := back
    simp [kindOf, named]
  unfold press
  rw [kind]

/-- A key that gives the line up leaves it as it is. -/
theorem press_of_givesUp {key : UInt8} (gives : Key.givesUp editor.escapeKey key = true) :
    editor.press key = ⟨.abort, editor, abortNotice⟩ := by
  have kind : editor.kindOf key = .abort := by
    unfold Key.givesUp at gives
    rw [Bool.and_eq_true_iff, Bool.not_eq_true', Bool.or_eq_false_iff] at gives
    obtain ⟨escapes, back, ends⟩ := gives
    unfold Key.takesBack at back
    unfold Key.endsLine at ends
    unfold kindOf
    rw [back, ends, escapes]
    rfl
  unfold press
  rw [kind]

/-- A key that leaves the menu open edits the line. -/
theorem press_of_leavesOpen {key : UInt8} (stays : Key.leavesOpen editor.escapeKey key = true) :
    (editor.press key).edit = .editing := by
  unfold Key.leavesOpen at stays
  rw [Bool.not_eq_true', Bool.or_eq_false_iff] at stays
  obtain ⟨continues, keeps⟩ := stays
  have kind : editor.kindOf key ≠ .submit ∧ editor.kindOf key ≠ .abort := by
    unfold Key.endsLine at continues
    unfold Key.givesUp at keeps
    unfold kindOf
    rw [continues]
    cases back : (key == 0x08 || key == 0x7f) with
    | true => exact ⟨by simp, by simp⟩
    | false =>
      have stays : (key == 0x1b || key == editor.escapeKey) = false := by
        have neither : (Key.takesBack key || Key.endsLine key) = false := by
          rw [Bool.or_eq_false_iff]
          exact ⟨back, continues⟩
        rw [neither] at keeps
        simpa using keeps
      rw [stays]
      by_cases control : key < 0x20
      · simp [control]
      · simp [control]
  unfold press
  cases named : editor.kindOf key with
  | erase =>
    dsimp only [erase]
    split <;> rfl
  | submit => exact absurd named kind.1
  | abort => exact absurd named kind.2
  | control => rfl
  | printable =>
    dsimp only [typeByte]
    split <;> rfl

/-- A key edits the line exactly when it leaves the menu open. -/
theorem press_editing (key : UInt8) :
    ((editor.press key).edit == .editing) = Key.leavesOpen editor.escapeKey key := by
  cases stays : Key.leavesOpen editor.escapeKey key with
  | true =>
    rw [editor.press_of_leavesOpen stays]
    rfl
  | false =>
    cases ends : Key.endsLine key with
    | true =>
      rw [editor.press_of_endsLine ends]
      rfl
    | false =>
      rw [editor.press_of_givesUp (Key.givesUp_of_not_leavesOpen stays ends)]
      rfl

/-- A key changes nothing but the line. -/
theorem press_clear (key : UInt8) : (editor.press key).editor.clear = editor.clear := by
  unfold press
  cases editor.kindOf key with
  | erase =>
    dsimp only [erase]
    split <;> rfl
  | submit => rfl
  | abort => rfl
  | control => rfl
  | printable =>
    dsimp only [typeByte]
    split <;> rfl

/-- A key keeps the escape key. -/
theorem press_escapeKey (key : UInt8) :
    (editor.press key).editor.escapeKey = editor.escapeKey := by
  have same := congrArg escapeKey (editor.press_clear key)
  exact same

/-- Keys change nothing but the line. -/
theorem after_clear (keys : List UInt8) : (editor.after keys).clear = editor.clear := by
  induction keys generalizing editor with
  | nil => rfl
  | cons key keys ih => exact (ih (editor.press key).editor).trans (editor.press_clear key)

end Editor

namespace Menu

variable (menu : Menu) (last? : Option UInt8) (around : Bench) (m : Machine)

/-- The menu after bytes that were typed in it. -/
def typedIn (keys : List UInt8) : Menu := { menu with editor := menu.editor.after keys }

/-- Close the menu with a byte: have the line carried out once, or give it up. -/
def closeWith (last : UInt8) : Act Unit := do
  if Key.endsLine last then
    Act.write Editor.lineEnd
    let _ ← menu.interpreter.execute menu.editor.text
  else Act.write Editor.abortNotice
  Act.log .debug "left supervisor"

/-- Close the menu, if the byte that does so has come. -/
def closeWith? : Option UInt8 → Act Unit
  | none => return ()
  | some last => menu.closeWith last

/-- The machine after the byte that closes the menu, if it has come. -/
def afterClosing : Option UInt8 → Machine
  | none => m
  | some last =>
    if Key.endsLine last then
      menu.interpreter.afterCommand around m (Command.ofLine menu.editor.text)
    else m

/-- The bytes that are written for the byte that closes the menu, if it has come. -/
def closingAnswer : Option UInt8 → List UInt8
  | none => []
  | some last =>
    if Key.endsLine last then
      Editor.lineEnd ++
        menu.interpreter.answerCommand around m (Command.ofLine menu.editor.text)
    else Editor.abortNotice

/-- Typed bytes change nothing but the line. -/
theorem typedIn_clear (keys : List UInt8) : (menu.typedIn keys).clear = menu.clear := by
  unfold clear typedIn
  dsimp only
  rw [Editor.after_clear]

/-- Closing the menu leaves the machine that the line leaves, or keeps it. -/
theorem closeWith?_machine :
    (menu.closeWith? last? around m).machine = menu.afterClosing around m last? := by
  cases last? with
  | none => rfl
  | some last =>
    dsimp only [closeWith?, closeWith, afterClosing]
    cases Key.endsLine last with
    | false => rfl
    | true =>
      rw [if_pos rfl, if_pos rfl]
      simp only [Act.bind_apply, Act.write_apply, Act.log_apply, Interpreter.execute]
      rw [Interpreter.run_machine]

/-- What is written when the menu is closed. -/
theorem written_closeWith? :
    Event.written (menu.closeWith? last? around m).events =
      menu.closingAnswer around m last? := by
  cases last? with
  | none => rfl
  | some last =>
    dsimp only [closeWith?, closeWith, closingAnswer]
    cases Key.endsLine last with
    | false =>
      rw [if_neg Bool.false_ne_true, if_neg Bool.false_ne_true]
      simp only [Act.bind_apply, Act.write_apply, Act.log_apply]
      rw [Event.written_append, Event.written_wrote, Event.written_logged, Event.written_nil,
        List.append_nil, List.append_nil]
    | true =>
      rw [if_pos rfl, if_pos rfl]
      simp only [Act.bind_apply, Act.write_apply, Act.log_apply, Interpreter.execute]
      rw [Event.written_append, Event.written_append, Event.written_wrote, Event.written_logged,
        Event.written_nil, Interpreter.written_run, List.append_nil, List.append_nil]

/-- Closing the menu keeps the queue of the serial port, whatever the line asks for. -/
theorem afterClosing_queued : (menu.afterClosing around m last?).queued = m.queued := by
  cases last? with
  | none => rfl
  | some last =>
    dsimp only [afterClosing]
    cases Key.endsLine last with
    | false => rfl
    | true =>
      rw [if_pos rfl, ← Interpreter.afterDeed_command]
      exact menu.interpreter.afterDeed_command_queued around m _

end Menu

namespace Stretch

variable (menu : Menu) (stretch : Stretch) (around : Bench) (m : Machine)

/-- What a stretch of typed bytes does, with a menu whose line is empty. -/
def perform : Stretch → Act Unit
  | .passed byte => Act.sendSerial byte
  | .visit typed last? => do
    Act.log .debug "entered supervisor"
    Act.report Menu.prompt
    menu.editor.echo typed
    (menu.typedIn typed).closeWith? last?

/-- The machine after a stretch of typed bytes. -/
def after : Stretch → Machine
  | .passed byte => m.sendSerial byte
  | .visit typed last? => (menu.typedIn typed).afterClosing around m last?

/-- The bytes that are written for a stretch of typed bytes. -/
def answer : Stretch → List UInt8
  | .passed _ => []
  | .visit typed last? =>
    Text.Latin1.encode Menu.prompt ++
      (menu.editor.echoes typed ++ (menu.typedIn typed).closingAnswer around m last?)

/-- A stretch leaves the machine that it is summed up by. -/
theorem perform_machine :
    (stretch.perform menu around m).machine = stretch.after menu around m := by
  cases stretch with
  | passed byte => rfl
  | visit typed last? =>
    rw [perform, after]
    simp only [Act.bind_apply, Act.log_apply, Act.report_apply]
    rw [Editor.echo_machine, Menu.closeWith?_machine]

/-- A stretch writes the bytes that it is summed up by. -/
theorem written_perform :
    Event.written (stretch.perform menu around m).events = stretch.answer menu around m := by
  cases stretch with
  | passed byte => rfl
  | visit typed last? =>
    rw [perform, answer]
    simp only [Act.bind_apply, Act.log_apply, Act.report_apply]
    rw [Event.written_append, Event.written_append, Event.written_append, Event.written_logged,
      Event.written_nil, Event.written_wrote, Event.written_nil, Editor.written_echo,
      Editor.echo_machine, Menu.written_closeWith?, List.nil_append, List.append_nil]

/-- A byte outside the menu is put at the end of the queue of the serial port, and a visit to the
menu keeps that queue. -/
theorem after_queued : (stretch.after menu around m).queued = m.queued ++ stretch.sent := by
  cases stretch with
  | passed byte => exact m.sendSerial_queued byte
  | visit typed last? =>
    rw [after, sent, List.append_nil]
    exact (menu.typedIn typed).afterClosing_queued last? around m

end Stretch

end BoardSupervisor
