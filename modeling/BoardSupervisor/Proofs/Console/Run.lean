import BoardSupervisor.Console
import BoardSupervisor.Proofs.Command.Effect
import Mathlib.Data.List.Induction

/-!
# Runs of the board

Four kinds of things reach the board from outside: command lines, bytes typed at the console,
elapsed time, and a program that takes bytes from the serial port. A run is any list of them, each
with the disk that is there at the time. What one of them does to the machine depends on the console
alone and is called its deed; what a deed does is a function of the machine. An invariant of the
machine is therefore proved deed by deed and holds after every run.
-/

namespace BoardSupervisor

/-- Something that reaches the board from outside. -/
inductive Stimulus where
  /-- A command line is handed to the interpreter. -/
  | line (text : String)
  /-- A byte is typed at the console. -/
  | key (byte : UInt8)
  /-- Time passes. -/
  | elapse (time : Duration)
  /-- Up to a number of bytes are taken from the serial port. -/
  | take (count : Nat)

/-- What comes back from a stimulus. -/
inductive Reply where
  /-- Whether the session goes on after a line. -/
  | goesOn (on : Bool)
  /-- Whether the menu is open after a byte. -/
  | menuOpen (isOpen : Bool)
  /-- The cycles that were counted while time passed. -/
  | counted (cycles : Nat)
  /-- The bytes that were taken. -/
  | taken (bytes : List UInt8)

/-- What is done to the machine. -/
inductive Deed where
  /-- Nothing. -/
  | nothing
  /-- A request is carried out. -/
  | request (request : Request)
  /-- A byte is sent to the serial port. -/
  | send (byte : UInt8)
  /-- Time passes. -/
  | elapse (time : Duration)
  /-- Up to a number of bytes are taken from the serial port. -/
  | take (count : Nat)

/-- A stimulus, with what the board has around it at the time. -/
structure Moment where
  /-- What the board has around it. -/
  around : Bench
  /-- What reaches it. -/
  stimulus : Stimulus

/-- The console together with the machine that it works on. -/
structure Scene where
  /-- The console. -/
  console : Console
  /-- The machine. -/
  machine : Machine

/-- What carrying out a command does to the machine. -/
def Command.deed (command : Command) : Deed :=
  match command.request? with
  | none => .nothing
  | some request => .request request

/-- A command does nothing or has its request carried out. -/
theorem Command.deed_cases (Held : Deed → Prop) (command : Command) (nothing : Held .nothing)
    (request : ∀ request, Held (.request request)) : Held command.deed := by
  unfold Command.deed
  cases command.request? with
  | none => exact nothing
  | some asked => exact request asked

/-- The machine that a deed leaves. -/
def Interpreter.afterDeed (interpreter : Interpreter) (around : Bench) (m : Machine) :
    Deed → Machine
  | .nothing => m
  | .request request => interpreter.after around m request
  | .send byte => m.sendSerial byte
  | .elapse time => (m.advance time).2
  | .take count => (m.takeSerial count).2

/-- A command leaves the machine that its deed leaves. -/
theorem Interpreter.afterDeed_command (interpreter : Interpreter) (around : Bench) (m : Machine)
    (command : Command) :
    interpreter.afterDeed around m command.deed = interpreter.afterCommand around m command := by
  unfold Command.deed afterCommand
  cases command.request? <;> rfl

namespace Menu

variable (menu : Menu) (around : Bench) (m : Machine)

/-- The menu with its line edited by a key. -/
def edited (key : UInt8) : Menu := { menu with editor := (menu.editor.press key).editor }

/-- What an edit of the line does to the machine once it has been made. -/
def editDeed : Edit → Deed
  | .submit => (Command.ofLine menu.editor.text).deed
  | _ => .nothing

/-- What a key does to the machine while the menu is open. -/
def deed (key : UInt8) : Deed := (menu.edited key).editDeed (menu.editor.press key).edit

/-- Following an edit leaves the machine that its deed leaves. -/
theorem follow_machine (edit : Edit) :
    (menu.follow edit around m).machine =
      menu.interpreter.afterDeed around m (menu.editDeed edit) := by
  cases edit with
  | editing => rfl
  | abort => rfl
  | submit =>
    unfold follow editDeed Interpreter.execute
    dsimp only
    rw [Interpreter.afterDeed_command, Act.bind_apply, Act.pure_apply, Interpreter.run_machine]

/-- The line is typed on as long as it is being edited. -/
theorem follow_value (edit : Edit) : (menu.follow edit around m).value = (edit == .editing) := by
  cases edit <;> rfl

/-- A key in the menu leaves the machine that its deed leaves. -/
theorem press_machine (key : UInt8) :
    (menu.press key around m).machine = menu.interpreter.afterDeed around m (menu.deed key) :=
  (menu.edited key).follow_machine around m (menu.editor.press key).edit

/-- A key in the menu edits the line and says whether the line is typed on. -/
theorem press_value (key : UInt8) :
    (menu.press key around m).value =
      ((menu.editor.press key).edit == .editing, menu.edited key) := by
  rw [← (menu.edited key).follow_value around m]
  rfl

end Menu

namespace Console

variable (console : Console) (around : Bench) (m : Machine)

/-- The console after a byte. -/
def afterKey (key : UInt8) : Console :=
  if console.menuOpen then
    { console with
      menu := console.menu.edited key
      menuOpen := (console.menu.editor.press key).edit == .editing }
  else if key == console.escapeKey then
    { console with menu := console.menu.clear, menuOpen := true }
  else console

/-- What a byte does to the machine. -/
def keyDeed (key : UInt8) : Deed :=
  if console.menuOpen then console.menu.deed key
  else if key == console.escapeKey then .nothing
  else .send key

/-- How a byte is received while the menu is open. -/
theorem receiveInMenu_apply (key : UInt8) :
    console.receiveInMenu key around m =
      ⟨{ console with
          menu := console.menu.edited key
          menuOpen := (console.menu.editor.press key).edit == .editing },
        (console.menu.press key around m).machine,
        (console.menu.press key around m).events ++
          if (console.menu.editor.press key).edit == .editing then []
          else [.logged ⟨.debug, "left supervisor"⟩]⟩ := by
  rw [receiveInMenu, Act.bind_apply, Menu.press_value]
  cases (console.menu.editor.press key).edit <;> rfl

/-- The console that receives a byte is the console after that byte. -/
theorem receive_value (key : UInt8) :
    (console.receive key around m).value = console.afterKey key := by
  unfold receive afterKey
  cases console.menuOpen with
  | true => rw [if_pos rfl, if_pos rfl, receiveInMenu_apply]
  | false =>
    rw [if_neg Bool.false_ne_true, if_neg Bool.false_ne_true]
    cases key == console.escapeKey <;> rfl

/-- A byte leaves the machine that its deed leaves. -/
theorem receive_machine (key : UInt8) :
    (console.receive key around m).machine =
      console.menu.interpreter.afterDeed around m (console.keyDeed key) := by
  unfold receive keyDeed
  cases console.menuOpen with
  | true => rw [if_pos rfl, if_pos rfl, receiveInMenu_apply, Menu.press_machine]
  | false =>
    rw [if_neg Bool.false_ne_true, if_neg Bool.false_ne_true]
    cases key == console.escapeKey <;> rfl

/-- A byte does nothing, has a request carried out, or is sent to the serial port. -/
theorem keyDeed_cases (Held : Deed → Prop) (key : UInt8) (nothing : Held .nothing)
    (request : ∀ request, Held (.request request)) (send : ∀ byte, Held (.send byte)) :
    Held (console.keyDeed key) := by
  unfold keyDeed
  split
  · unfold Menu.deed Menu.editDeed
    cases (console.menu.editor.press key).edit with
    | editing => exact nothing
    | abort => exact nothing
    | submit => exact Command.deed_cases Held _ nothing request
  · split
    · exact nothing
    · exact send key

/-- Keys change neither the escape key nor the interpreter. -/
theorem afterKey_interpreter (key : UInt8) :
    (console.afterKey key).menu.interpreter = console.menu.interpreter := by
  unfold afterKey
  split
  · rfl
  · split <;> rfl

/-- Meet a stimulus, and say what comes back from it. -/
def meet : Stimulus → Act (Reply × Console)
  | .line text =>
    (fun goesOn => (.goesOn goesOn, console)) <$> console.menu.interpreter.execute text
  | .key byte => (fun after => (.menuOpen after.menuOpen, after)) <$> console.receive byte
  | .elapse time => (fun cycles => (.counted cycles, console)) <$> Act.advance time
  | .take count => (fun bytes => (.taken bytes, console)) <$> Act.takeSerial count

/-- The console after a stimulus. -/
def afterStimulus : Stimulus → Console
  | .key byte => console.afterKey byte
  | _ => console

/-- What a stimulus does to the machine. -/
def deed : Stimulus → Deed
  | .line text => (Command.ofLine text).deed
  | .key byte => console.keyDeed byte
  | .elapse time => .elapse time
  | .take count => .take count

/-- The console that meets a stimulus is the console after that stimulus. -/
theorem meet_console (stimulus : Stimulus) :
    (console.meet stimulus around m).value.2 = console.afterStimulus stimulus := by
  cases stimulus with
  | line text => rfl
  | key byte => exact console.receive_value around m byte
  | elapse time => rfl
  | take count => rfl

/-- A stimulus leaves the machine that its deed leaves. -/
theorem meet_machine (stimulus : Stimulus) :
    (console.meet stimulus around m).machine =
      console.menu.interpreter.afterDeed around m (console.deed stimulus) := by
  cases stimulus with
  | line text =>
    dsimp only [meet, deed, Interpreter.execute]
    rw [Act.map_apply, Interpreter.afterDeed_command, Interpreter.run_machine]
  | key byte => exact console.receive_machine around m byte
  | elapse time => exact Act.advance_machine around m time
  | take count => rfl

end Console

namespace Scene

variable (scene : Scene)

/-- A console at a machine that has just been switched on. -/
def powerOn (console : Console) : Scene := ⟨console, .powerOn⟩

/-- What comes of a moment. -/
def outcome (moment : Moment) : Outcome (Reply × Console) :=
  scene.console.meet moment.stimulus moment.around scene.machine

/-- What comes back in a moment. -/
def reply (moment : Moment) : Reply := (scene.outcome moment).value.1

/-- The scene after a moment. -/
def next (moment : Moment) : Scene :=
  ⟨(scene.outcome moment).value.2, (scene.outcome moment).machine⟩

/-- The scene after a run. -/
def run (moments : List Moment) : Scene := moments.foldl next scene

/-- All that comes back in a run. -/
def replies : Scene → List Moment → List Reply
  | _, [] => []
  | scene, moment :: rest => scene.reply moment :: (scene.next moment).replies rest

/-- The interpreter that the console hands its lines to. -/
def interpreter : Interpreter := scene.console.menu.interpreter

/-- What a moment does to the machine. -/
def deed (moment : Moment) : Deed := scene.console.deed moment.stimulus

/-- The console after a moment. -/
theorem next_console (moment : Moment) :
    (scene.next moment).console = scene.console.afterStimulus moment.stimulus :=
  scene.console.meet_console moment.around scene.machine moment.stimulus

/-- The machine after a moment. -/
theorem next_machine (moment : Moment) :
    (scene.next moment).machine =
      scene.interpreter.afterDeed moment.around scene.machine (scene.deed moment) :=
  scene.console.meet_machine moment.around scene.machine moment.stimulus

/-- The interpreter stays the same. -/
theorem next_interpreter (moment : Moment) :
    (scene.next moment).interpreter = scene.interpreter := by
  unfold interpreter
  rw [next_console]
  cases moment.stimulus with
  | line text => rfl
  | key byte => exact scene.console.afterKey_interpreter byte
  | elapse time => rfl
  | take count => rfl

/-- A longer run ends in the moment that it has more. -/
theorem run_concat (moments : List Moment) (moment : Moment) :
    scene.run (moments ++ [moment]) = (scene.run moments).next moment := by
  unfold run
  rw [List.foldl_append]
  rfl

/-- The interpreter stays the same in a run. -/
theorem run_interpreter (moments : List Moment) :
    (scene.run moments).interpreter = scene.interpreter := by
  induction moments generalizing scene with
  | nil => rfl
  | cons moment rest ih => exact (ih (scene.next moment)).trans (scene.next_interpreter moment)

/-- What every deed keeps holds after every run. -/
theorem run_machine (Kept : Machine → Prop) (moments : List Moment) (start : Kept scene.machine)
    (kept : ∀ around m deed, Kept m → Kept (scene.interpreter.afterDeed around m deed)) :
    Kept (scene.run moments).machine := by
  induction moments generalizing scene with
  | nil => exact start
  | cons moment rest ih =>
    refine ih (scene.next moment) ?_ ?_
    · rw [next_machine]
      exact kept moment.around scene.machine (scene.deed moment) start
    · rw [next_interpreter]
      exact kept

/-- What holds at first, and is kept in a moment exactly if something does not happen in it, holds
all through a run exactly if that happens at no moment of it. Of what has been reached, the last
moment is the one that could have broken it. -/
theorem run_kept_iff (Kept : Machine → Prop) (Breaks : Scene → Moment → Prop)
    (start : Kept scene.machine)
    (step : ∀ before moment, Kept (scene.run before).machine →
      (Kept ((scene.run before).next moment).machine ↔ ¬ Breaks (scene.run before) moment))
    (moments : List Moment) :
    (∀ before, before <+: moments → Kept (scene.run before).machine) ↔
      ∀ before moment, before ++ [moment] <+: moments → ¬ Breaks (scene.run before) moment := by
  constructor
  · intro kept before moment reached
    have now := kept before ((List.prefix_append before [moment]).trans reached)
    have later := kept (before ++ [moment]) reached
    rw [run_concat] at later
    exact (step before moment now).mp later
  · intro unbroken before
    induction before using List.reverseRecOn with
    | nil => exact fun _ => start
    | append_singleton before moment ih =>
      intro reached
      have now := ih ((List.prefix_append before [moment]).trans reached)
      rw [run_concat]
      exact (step before moment now).mpr (unbroken before moment reached)

end Scene

end BoardSupervisor
