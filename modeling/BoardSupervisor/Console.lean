import BoardSupervisor.Command.Interpreter
import BoardSupervisor.Editor

/-!
# The console and its menu

Bytes from the operator go to the board's serial port until the escape key opens the menu. The menu
shows a prompt, lets the operator type one line, and has it carried out; it closes when the line is
carried out or given up.
-/

namespace BoardSupervisor

/-- The menu: the line being typed, and the interpreter that carries it out. -/
structure Menu where
  /-- The line being typed. -/
  editor : Editor
  /-- What carries lines out. -/
  interpreter : Interpreter

/-- How a menu is set up. -/
structure Menu.Settings where
  /-- The size of the line. -/
  lineCapacity : Nat := 80
  /-- The key that gives a line up, besides escape. -/
  escapeKey : UInt8 := 0x1d
  /-- The frequencies of the clock command. -/
  limits : ClockLimits := {}

namespace Menu

/-- A menu with an empty line. -/
def new (settings : Settings) (roms : RomImages) : Menu where
  editor := { capacity := settings.lineCapacity, escapeKey := settings.escapeKey }
  interpreter := { limits := settings.limits, roms := roms }

/-- The prompt. -/
def prompt : String := "Supervisor> "

/-- The menu with an empty line. -/
def clear (menu : Menu) : Menu := { menu with editor := menu.editor.clear }

/-- Open the menu: clear the line and show the prompt. -/
def enter (menu : Menu) : Act Menu := do
  Act.report prompt
  return menu.clear

/-- Do what a key calls for once the line has been edited, and say whether the line is still being
typed. -/
def follow (menu : Menu) : Edit → Act Bool
  | .editing => return true
  | .abort => return false
  | .submit => do
    let _ ← menu.interpreter.execute menu.editor.text
    return false

/-- Handle one key, and say whether the line is still being typed. A line that was carried out or
given up stays in the editor until the menu is opened again. -/
def press (menu : Menu) (key : UInt8) : Act (Bool × Menu) := do
  let stroke := menu.editor.press key
  let edited := { menu with editor := stroke.editor }
  Act.write stroke.written
  return (← edited.follow stroke.edit, edited)

/-- Handle keys one after the other, and say for each whether the line was still being typed. -/
def pressAll (menu : Menu) : List UInt8 → Act (List Bool × Menu)
  | [] => return ([], menu)
  | key :: keys => do
    let (typing, menu) ← menu.press key
    (fun (rest, after) => (typing :: rest, after)) <$> menu.pressAll keys

end Menu

/-- The console. -/
structure Console where
  /-- The menu behind the escape key. -/
  menu : Menu
  /-- The key that opens the menu. -/
  escapeKey : UInt8
  /-- Whether the menu is open. -/
  menuOpen : Bool := false

namespace Console

/-- A console with its menu closed. -/
def new (settings : Menu.Settings) (roms : RomImages) : Console where
  menu := .new settings roms
  escapeKey := settings.escapeKey

/-- Handle a byte while the menu is open. -/
def receiveInMenu (console : Console) (key : UInt8) : Act Console := do
  let (typing, menu) ← console.menu.press key
  if !typing then Act.log .debug "left supervisor"
  return { console with menu := menu, menuOpen := typing }

/-- Open the menu. -/
def openMenu (console : Console) : Act Console := do
  Act.log .debug "entered supervisor"
  return { console with menu := ← console.menu.enter, menuOpen := true }

/-- Handle one byte from the operator. -/
def receive (console : Console) (key : UInt8) : Act Console := do
  if console.menuOpen then console.receiveInMenu key
  else if key == console.escapeKey then console.openMenu
  else
    Act.sendSerial key
    return console

/-- Handle bytes one after the other, and say for each whether the menu is open after it. -/
def receiveAll (console : Console) : List UInt8 → Act (List Bool × Console)
  | [] => return ([], console)
  | key :: keys => do
    let console ← console.receive key
    (fun (rest, after) => (console.menuOpen :: rest, after)) <$> console.receiveAll keys

/-- The name of the file that will be read if the given byte comes next, if one will be. -/
def fileName? (console : Console) (key : UInt8) : Option String :=
  let stroke := console.menu.editor.press key
  if console.menuOpen && stroke.edit == .submit then
    (Command.ofLine stroke.editor.text).fileName?
  else none

end Console

end BoardSupervisor
