import BoardSupervisor.Proofs.Command.Resolution
import BoardSupervisor.Proofs.Console.Answer
import BoardSupervisor.Proofs.Console.Screen

/-!
# Bytes typed and bytes quoted

A verb that is not known is quoted to the operator. On its way there it is typed byte by byte, read
as a text, cut at blanks and sent again; the module follows a whole visit to the menu and finds that
the quoted bytes are those of the first word on the line as it was edited, high bytes included.
-/

namespace BoardSupervisor

open Text

namespace Menu

variable {menu : Menu} {around : Bench} {m : Machine} {keys : List UInt8} {key last : UInt8}

/-- A key that leaves the menu open keeps the machine. -/
theorem press_machine_of_leavesOpen (stays : Key.leavesOpen menu.editor.escapeKey key = true) :
    (menu.press key around m).machine = m := by
  rw [press_machine, deed, Editor.press_of_leavesOpen menu.editor stays]
  rfl

/-- A key that leaves the menu open writes what the editor shows of it. -/
theorem answer_of_leavesOpen (stays : Key.leavesOpen menu.editor.escapeKey key = true) :
    menu.answer around m key = (menu.editor.press key).written := by
  rw [answer, Editor.press_of_leavesOpen menu.editor stays]
  exact List.append_nil _

/-- A key that ends the line writes its end and what the line answers. -/
theorem answer_of_endsLine (ends : Key.endsLine last = true) :
    menu.answer around m last =
      Editor.lineEnd ++
        menu.interpreter.answerCommand around m (Command.ofLine menu.editor.text) := by
  unfold answer edited
  rw [Editor.press_of_endsLine menu.editor ends]
  rfl

/-- What is written for a key and for those that come after it. -/
theorem written_pressAll_cons (menu : Menu) (key : UInt8) (keys : List UInt8) :
    Event.written (menu.pressAll (key :: keys) around m).events =
      menu.answer around m key ++
        Event.written ((menu.edited key).pressAll keys around
          (menu.press key around m).machine).events := by
  rw [← written_press, ← Event.written_append, pressAll, Act.bind_apply, press_value]
  rfl

/-- What is written while a line is typed and submitted: the editor's echo, the end of the line and
what the line answers. -/
theorem written_pressAll (stay : ∀ key ∈ keys, Key.leavesOpen menu.editor.escapeKey key = true)
    (ends : Key.endsLine last = true) :
    Event.written (menu.pressAll (keys ++ [last]) around m).events =
      menu.editor.echoes keys ++ (Editor.lineEnd ++
        menu.interpreter.answerCommand around m
          (Command.ofLine (menu.typedIn keys).editor.text)) := by
  induction keys generalizing menu with
  | nil =>
    rw [List.nil_append, written_pressAll_cons, answer_of_endsLine ends]
    exact List.append_nil _
  | cons key keys ih =>
    obtain ⟨first, later⟩ := List.forall_mem_cons.mp stay
    have rest := @ih (menu.edited key) (Editor.leavesOpen_press later key)
    rw [List.cons_append, written_pressAll_cons, answer_of_leavesOpen first,
      press_machine_of_leavesOpen first, rest, Editor.echoes, List.append_assoc]
    rfl

/-- Open the menu and handle keys one after the other. -/
def session (menu : Menu) (keys : List UInt8) : Act (List Bool × Menu) := do
  let opened ← menu.enter
  opened.pressAll keys

/-- What is written while the menu is opened and keys are handled in it. -/
theorem written_session (menu : Menu) (keys : List UInt8) :
    Event.written (menu.session keys around m).events =
      Latin1.encode prompt ++ Event.written (menu.clear.pressAll keys around m).events := by
  unfold session enter
  simp only [Act.bind_apply, Act.report_apply, Act.pure_apply, Event.written_append,
    Event.written_wrote, Event.written_nil, List.append_nil]

/-- What keys leave on a stack of the height of the line is what they leave in the line. -/
theorem bytes_after_stack (menu : Menu)
    (stay : ∀ key ∈ keys, Key.leavesOpen menu.editor.escapeKey key = true) :
    (BoundedStack.empty.after (max menu.editor.capacity 1 - 1) keys).bytes =
      (menu.clear.typedIn keys).editor.line.toList := by
  have cleared : ∀ key ∈ keys, Key.leavesOpen menu.editor.clear.escapeKey key = true := stay
  exact congrArg BoundedStack.bytes (Editor.after_stack cleared 0)

/-- No byte of a typed line is a control key. -/
theorem above_of_typed (menu : Menu)
    (stay : ∀ key ∈ keys, Key.leavesOpen menu.editor.escapeKey key = true) :
    ∀ byte ∈ (menu.clear.typedIn keys).editor.line.toList, 0x20 ≤ byte := by
  intro byte member
  have sound := (Editor.sound_clear menu.editor).after stay
  exact (Key.types_iff.mp (sound.typed byte member)).1

/-- Bytes pass through texts unchanged. A row of bytes is read one character for each and sent back
as it was. A text is sent one byte for each character: the character's number where that is a byte,
and a question mark otherwise; and so is every message, be it at hand in the program, in ASCII or
not, or put together. So, whatever the size of the line and the escape key, when a line is typed
whose verb is unknown, the bytes quoted to the operator are those of the first word, between spaces,
of the line as it was edited. -/
theorem bytes_pass_through :
    (∀ bytes : List UInt8, (Latin1.decode bytes).toList.length = bytes.length ∧
      Latin1.encode (Latin1.decode bytes) = bytes) ∧
    (∀ editor : Editor, Latin1.encode editor.text = editor.line.toList) ∧
    (∀ text : String, List.Forall₂ Latin1.Stands text.toList (Latin1.encode text)) ∧
    (∀ (message : Message) around m,
      Event.written (Act.tell message around m).events = Latin1.encode message.text) ∧
    ∀ (menu : Menu) (keys : List UInt8) (last : UInt8) around m,
      (∀ key ∈ keys, Key.leavesOpen menu.editor.escapeKey key = true) →
      Key.endsLine last = true →
      let line := (BoundedStack.empty.after (max menu.editor.capacity 1 - 1) keys).bytes
      let verb := firstWord line
      verb ≠ [] → (∀ entry ∈ Verb.table, ¬ SameUpToCase (Latin1.decode verb) entry.name) →
      Event.written (menu.session (keys ++ [last]) around m).events =
        Latin1.encode prompt ++ (menu.editor.clear.echoes keys ++ (Editor.lineEnd ++
          (Latin1.encode "error: unknown command \"" ++ (verb ++ Latin1.encode "\"\r\n")))) := by
  refine ⟨fun bytes => ⟨Latin1.length_decode bytes, Latin1.encode_decode bytes⟩,
    fun editor => Latin1.encode_decode editor.line.toList, Latin1.forall₂_stands_encode,
    fun message around m => Act.written_tell around m message, ?_⟩
  intro menu keys last around m stay ends line verb given unknown
  have edited : line = (menu.clear.typedIn keys).editor.line.toList := bytes_after_stack menu stay
  have above : ∀ byte ∈ line, 0x20 ≤ byte := by
    rw [edited]
    exact above_of_typed menu stay
  have first : FirstToken (menu.clear.typedIn keys).editor.text (Latin1.decode verb) := by
    rw [Editor.text, ← edited]
    exact firstToken_decode above given
  have cleared : ∀ key ∈ keys, Key.leavesOpen menu.clear.editor.escapeKey key = true := stay
  rw [written_session, written_pressAll cleared ends, Command.ofLine_of_unknown first unknown,
    Interpreter.answerCommand_unknown, Latin1.encode_decode]
  rfl

/-- A verb with bytes that Unicode has for spaces and line ends, after a space, with a byte taken
back, a byte too many for the line, and a line feed at the end. -/
theorem bytes_pass_through_high :
    let menu := Menu.new { lineCapacity := 9 } {}
    let keys : List UInt8 :=
      [0x20, 0xa0, 0x43, 0x7f, 0x85, 0xc9, 0xff, 0x20, 0x31, 0x09, 0x32, 0x33]
    let verb : List UInt8 := [0xa0, 0x85, 0xc9, 0xff]
    ((∀ key ∈ keys, Key.leavesOpen menu.editor.escapeKey key = true) ∧ Key.endsLine 0x0a = true ∧
      firstWord (BoundedStack.empty.after (max menu.editor.capacity 1 - 1) keys).bytes = verb ∧
      verb ≠ [] ∧ ∀ entry ∈ Verb.table, ¬ SameUpToCase (Latin1.decode verb) entry.name) ∧
    ∀ around m, Event.written (menu.session (keys ++ [0x0a]) around m).events =
      Latin1.encode prompt ++ (menu.editor.clear.echoes keys ++ (Editor.lineEnd ++
        (Latin1.encode "error: unknown command \"" ++ (verb ++ Latin1.encode "\"\r\n")))) := by
  intro menu keys verb
  have stay : ∀ key ∈ keys, Key.leavesOpen menu.editor.escapeKey key = true :=
    List.all_eq_true.mp rfl
  have ends : Key.endsLine 0x0a = true := by decide
  have word_eq : firstWord (BoundedStack.empty.after (max menu.editor.capacity 1 - 1) keys).bytes =
      verb := by decide
  have given : verb ≠ [] := by decide
  have unknown : ∀ entry ∈ Verb.table, ¬ SameUpToCase (Latin1.decode verb) entry.name := by decide
  refine ⟨⟨stay, ends, word_eq, given, unknown⟩, fun around m => ?_⟩
  have quoted := bytes_pass_through.2.2.2.2 menu keys 0x0a around m stay ends
  dsimp only at quoted
  rw [word_eq] at quoted
  exact quoted given unknown

end Menu

end BoardSupervisor
