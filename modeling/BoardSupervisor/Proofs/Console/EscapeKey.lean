import BoardSupervisor.Proofs.Console.Answer
import BoardSupervisor.Proofs.Console.Router

/-!
# The escape key

The escape key is meant to open the menu, and in the menu to give the line up, without a trace in
the machine. Outside the menu it always does. In the menu the editing keys come first: an escape key
that takes a byte back or ends the line keeps that sense there, so it leaves the menu open or has
the line carried out. With every other escape key the menu is toggled in every state that a run can
reach.
-/

namespace BoardSupervisor

namespace Key

/-- Whether a key edits the line in the menu: it takes a byte back or ends the line. -/
def edits (key : UInt8) : Bool := takesBack key || endsLine key

/-- A key that takes a byte back does not end the line. -/
theorem endsLine_of_takesBack {key : UInt8} (back : takesBack key = true) :
    endsLine key = false := by
  have named : key = 0x08 ∨ key = 0x7f := by simpa [takesBack] using back
  rcases named with rfl | rfl <;> rfl

/-- The escape key leaves the menu open exactly if it takes a byte back. -/
theorem leavesOpen_escapeKey (key : UInt8) : leavesOpen key key = takesBack key := by
  unfold leavesOpen givesUp
  cases back : takesBack key with
  | true => simp [endsLine_of_takesBack back]
  | false => cases endsLine key <;> simp

end Key

/-- A key that takes a byte back leaves the line without its last byte. -/
theorem Editor.press_of_takesBack (editor : Editor) {key : UInt8}
    (back : Key.takesBack key = true) :
    (editor.press key).editor.line.toList = editor.line.toList.dropLast := by
  rw [editor.press_eq_erase back, erase]
  split
  case isTrue empty =>
    have none : editor.line.toList = [] := by
      rw [← List.isEmpty_iff, TypedLine.isEmpty_toList]
      exact empty
    simp [none]
  case isFalse => exact TypedLine.toList_pop editor.line

/-- All that happens when the menu is opened or closed with the escape key: the prompt or the notice
is shown, and the log is told. -/
def Console.toggleEvents (menuOpen : Bool) : List Event :=
  if menuOpen then [.wrote Editor.abortNotice, .logged ⟨.debug, "left supervisor"⟩]
  else [.logged ⟨.debug, "entered supervisor"⟩, .wrote (Text.Latin1.encode Menu.prompt)]

/-- In a moment the menu is opened or its line given up, and nothing else happens. -/
structure Scene.Toggles (scene : Scene) (moment : Moment) : Prop where
  /-- The menu is open afterwards exactly if it was closed. -/
  menuOpen : (scene.next moment).console.menuOpen = !scene.console.menuOpen
  /-- The whole machine is as it was, the queue of the serial port included. -/
  machine : (scene.next moment).machine = scene.machine
  /-- Nothing is asked of the board, and no command is answered. -/
  events : (scene.outcome moment).events = Console.toggleEvents scene.console.menuOpen

namespace Scene

variable {scene : Scene} {escapeKey : UInt8} (around : Bench)

/-- The menu stays opened and given up with one escape key in a run. -/
theorem run_keyedBy (scene : Scene) (keyed : scene.console.KeyedBy escapeKey)
    (moments : List Moment) : (scene.run moments).console.KeyedBy escapeKey := by
  induction moments generalizing scene with
  | nil => exact keyed
  | cons moment rest ih =>
    refine ih (scene.next moment) ?_
    rw [next_console]
    cases moment.stimulus with
    | key byte => exact keyed.afterKey byte
    | line text => exact keyed
    | elapse time => exact keyed
    | take count => exact keyed

/-- What comes of a typed byte. -/
theorem outcome_key (key : UInt8) :
    scene.outcome ⟨around, .key key⟩ =
      ((fun after => (Reply.menuOpen after.menuOpen, after)) <$> scene.console.receive key)
        around scene.machine := rfl

/-- Outside the menu the escape key opens it. -/
theorem toggles_of_closed (keyed : scene.console.KeyedBy escapeKey)
    (closed : scene.console.menuOpen = false) : scene.Toggles ⟨around, .key escapeKey⟩ := by
  have opens : (escapeKey == scene.console.escapeKey) = true := by simp [keyed.opens]
  have outcome := scene.outcome_key around escapeKey
  rw [scene.console.receive_of_opens closed opens] at outcome
  exact {
    menuOpen := by simp [next, outcome, closed]
    machine := by simp [next, outcome]
    events := by simp [outcome, closed, Console.toggleEvents] }

/-- In the menu an escape key that does not edit the line gives it up. -/
theorem toggles_of_plain (keyed : scene.console.KeyedBy escapeKey)
    (isOpen : scene.console.menuOpen = true) (plain : Key.edits escapeKey = false) :
    scene.Toggles ⟨around, .key escapeKey⟩ := by
  have kinds : Key.takesBack escapeKey = false ∧ Key.endsLine escapeKey = false := by
    simpa [Key.edits] using plain
  have closes : Key.leavesOpen scene.console.menu.editor.escapeKey escapeKey = false := by
    rw [keyed.givesUp, Key.leavesOpen_escapeKey, kinds.1]
  have outcome := scene.outcome_key around escapeKey
  rw [scene.console.receive_of_not_leavesOpen isOpen closes] at outcome
  exact {
    menuOpen := by simp [next, outcome, isOpen]
    machine := by simp [next, outcome, Menu.closeWith, kinds.2]
    events := by simp [outcome, isOpen, Console.toggleEvents, Menu.closeWith, kinds.2] }

/-- In the menu an escape key that takes a byte back does just that. -/
theorem next_of_takesBack (keyed : scene.console.KeyedBy escapeKey)
    (isOpen : scene.console.menuOpen = true) (back : Key.takesBack escapeKey = true) :
    let after := scene.next ⟨around, .key escapeKey⟩
    after.console.menuOpen = true ∧ after.machine = scene.machine ∧
      after.console.menu.editor.line.toList =
        scene.console.menu.editor.line.toList.dropLast := by
  intro after
  have stays : Key.leavesOpen scene.console.menu.editor.escapeKey escapeKey = true := by
    rw [keyed.givesUp, Key.leavesOpen_escapeKey, back]
  have outcome := scene.outcome_key around escapeKey
  rw [scene.console.receive_of_leavesOpen isOpen stays] at outcome
  have after_eq : after = ⟨{ scene.console with
      menu := scene.console.menu.edited escapeKey, menuOpen := true }, scene.machine⟩ := by
    simp [after, next, outcome]
  rw [after_eq]
  exact ⟨rfl, rfl, scene.console.menu.editor.press_of_takesBack back⟩

/-- In the menu an escape key that ends the line closes the menu and has the line carried out. -/
theorem next_of_endsLine (keyed : scene.console.KeyedBy escapeKey)
    (isOpen : scene.console.menuOpen = true) (ends : Key.endsLine escapeKey = true) :
    let moment : Moment := ⟨around, .key escapeKey⟩
    let command := Command.ofLine scene.console.menu.editor.text
    (scene.next moment).console.menuOpen = false ∧
      (scene.next moment).machine =
        scene.interpreter.afterCommand around scene.machine command ∧
      scene.written moment =
        Editor.lineEnd ++ scene.interpreter.answerCommand around scene.machine command := by
  intro moment command
  have closes : Key.leavesOpen scene.console.menu.editor.escapeKey escapeKey = false := by
    have forward : Key.takesBack escapeKey = false := by
      cases back : Key.takesBack escapeKey with
      | false => rfl
      | true => simp [Key.endsLine_of_takesBack back] at ends
    rw [keyed.givesUp, Key.leavesOpen_escapeKey, forward]
  have outcome := scene.outcome_key around escapeKey
  rw [scene.console.receive_of_not_leavesOpen isOpen closes] at outcome
  have machine := scene.console.menu.closeWith?_machine (some escapeKey) around scene.machine
  have written := scene.console.menu.written_closeWith? (some escapeKey) around scene.machine
  simp only [Menu.closeWith?, Menu.afterClosing, Menu.closingAnswer, ends, if_true]
    at machine written
  refine ⟨?_, ?_, ?_⟩
  · simp [moment, next, outcome]
  · simpa [moment, next, outcome, interpreter] using machine
  · simpa [moment, Scene.written, outcome, interpreter] using written

/-- The escape key is not sent to the serial port. -/
theorem queued_of_escapeKey (keyed : scene.console.KeyedBy escapeKey) :
    (scene.next ⟨around, .key escapeKey⟩).machine.queued = scene.machine.queued := by
  have sent : (scene.console.keyDeed escapeKey).sent = [] := by
    unfold Console.keyDeed
    cases scene.console.menuOpen with
    | true => exact scene.console.menu.deed_sent escapeKey
    | false => simp [keyed.opens, Deed.sent]
  have kept := scene.interpreter.afterDeed_key_queued around scene.machine scene.console escapeKey
  rw [sent, List.append_nil] at kept
  rw [next_machine]
  exact kept

/-- The menu is not toggled by an escape key that edits the line in it: it stays open, or what is
shown begins with the end of the line, as the notice does not. -/
theorem not_toggles_of_edits (keyed : scene.console.KeyedBy escapeKey)
    (isOpen : scene.console.menuOpen = true) (edits : Key.edits escapeKey = true) :
    ¬ scene.Toggles ⟨around, .key escapeKey⟩ := by
  intro toggles
  rcases Bool.or_eq_true_iff.mp edits with back | ends
  · have stays := (next_of_takesBack around keyed isOpen back).1
    have closes := toggles.menuOpen
    rw [stays, isOpen] at closes
    cases closes
  · have shown := (next_of_endsLine around keyed isOpen ends).2.2
    have notice := congrArg Event.written toggles.events
    rw [isOpen] at notice
    have first := congrArg List.head? (shown.symm.trans notice)
    have star : (Event.written (Console.toggleEvents true)).head? = some 0x2a := by decide
    rw [List.head?_append, star] at first
    simp [Editor.lineEnd] at first

end Scene

/-- Whatever a console is set up with and whatever a run has brought it to, the escape key toggles
the menu and does nothing else, exactly if it finds the menu closed or is no key that edits the
line. It is never sent to the serial port. In the menu an escape key that takes a byte back does
that and leaves the menu open; one that ends the line closes the menu and has the line carried out.
-/
theorem Console.escapeKey_toggles_iff (settings : Menu.Settings) (roms : RomImages) (m : Machine)
    (moments : List Moment) (around : Bench) :
    let scene := (Scene.mk (.new settings roms) m).run moments
    let moment : Moment := ⟨around, .key settings.escapeKey⟩
    let after := scene.next moment
    let line := scene.console.menu.editor.line
    (scene.Toggles moment ↔
      scene.console.menuOpen = false ∨ Key.edits settings.escapeKey = false) ∧
    after.machine.queued = scene.machine.queued ∧
    (scene.console.menuOpen = true → Key.takesBack settings.escapeKey = true →
      after.console.menuOpen = true ∧ after.machine = scene.machine ∧
        after.console.menu.editor.line.toList = line.toList.dropLast) ∧
    (scene.console.menuOpen = true → Key.endsLine settings.escapeKey = true →
      let command := Command.ofLine (Text.Latin1.decode line.toList)
      after.console.menuOpen = false ∧
        after.machine = scene.interpreter.afterCommand around scene.machine command ∧
        scene.written moment =
          Editor.lineEnd ++ scene.interpreter.answerCommand around scene.machine command) := by
  intro scene moment after line
  have keyed : scene.console.KeyedBy settings.escapeKey :=
    Scene.run_keyedBy ⟨.new settings roms, m⟩ ⟨rfl, rfl⟩ moments
  refine ⟨⟨?only, ?toggles⟩, ?queued, ?back, ?ends⟩
  case toggles =>
    rintro (closed | plain)
    · exact Scene.toggles_of_closed around keyed closed
    · cases isOpen : scene.console.menuOpen with
      | false => exact Scene.toggles_of_closed around keyed isOpen
      | true => exact Scene.toggles_of_plain around keyed isOpen plain
  case only =>
    intro toggles
    cases isOpen : scene.console.menuOpen with
    | false => exact .inl rfl
    | true =>
      cases edits : Key.edits settings.escapeKey with
      | false => exact .inr rfl
      | true => exact absurd toggles (Scene.not_toggles_of_edits around keyed isOpen edits)
  case queued => exact Scene.queued_of_escapeKey around keyed
  case back => exact fun isOpen back => Scene.next_of_takesBack around keyed isOpen back
  case ends => exact fun isOpen ends => Scene.next_of_endsLine around keyed isOpen ends

/-- With delete as its escape key a console opens the menu, and then takes back what was typed. -/
theorem Console.escapeKey_delete :
    let settings : Menu.Settings := { escapeKey := 0x7f }
    let around : Bench := ⟨fun _ => .error .notFound, "."⟩
    let typed : List Moment := [⟨around, .key 0x7f⟩, ⟨around, .key 0x71⟩]
    let scene := (Scene.mk (.new settings {}) .powerOn).run typed
    let after := scene.next ⟨around, .key 0x7f⟩
    (scene.console.menuOpen = true ∧ Key.takesBack settings.escapeKey = true) ∧
    scene.console.menu.editor.line.toList = [0x71] ∧ after.console.menuOpen = true ∧
      after.machine = scene.machine ∧ after.console.menu.editor.line.toList = [] := by
  intro settings around typed scene after
  have isOpen : scene.console.menuOpen = true := by decide
  have back : Key.takesBack settings.escapeKey = true := by decide
  have line : scene.console.menu.editor.line.toList = [0x71] := by decide
  obtain ⟨stays, kept, rest⟩ :=
    (escapeKey_toggles_iff settings {} .powerOn typed around).2.2.1 isOpen back
  exact ⟨⟨isOpen, back⟩, line, stays, kept, rest.trans (congrArg List.dropLast line)⟩

/-- With the carriage return as its escape key a console has the line carried out that the key
should give up, and the machine is not what it was. -/
theorem Console.escapeKey_carriageReturn :
    let settings : Menu.Settings := { escapeKey := 0x0d }
    let around : Bench := ⟨fun _ => .error .notFound, "."⟩
    let typed := (0x0d :: Text.Latin1.encode "trace 1").map fun key => Moment.mk around (.key key)
    let scene := (Scene.mk (.new settings {}) .powerOn).run typed
    let moment : Moment := ⟨around, .key settings.escapeKey⟩
    scene.machine.traceLevel = 0 ∧ (scene.next moment).machine.traceLevel = 1 ∧
      ¬ scene.Toggles moment := by
  intro settings around typed scene moment
  have before : scene.machine.traceLevel = 0 := by decide +kernel
  have after : (scene.next moment).machine.traceLevel = 1 := by decide +kernel
  refine ⟨before, after, ?_⟩
  intro toggles
  rw [toggles.machine, before] at after
  exact absurd after (by decide)

end BoardSupervisor
