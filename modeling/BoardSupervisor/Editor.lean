import BoardSupervisor.Text.Basic

/-!
# The line editor

A command line is typed byte by byte, at its end, and taken back from its end. Each printable byte
is echoed in bold while there is room for it; when there is none the bell rings. Backspace and
delete take the last byte back, a carriage return or a line feed submits the line, and escape or the
console's own escape key gives it up.
-/

namespace BoardSupervisor

/-- A row of bytes that is typed at its end. -/
structure TypedLine where
  /-- The bytes, the latest first. -/
  latestFirst : List UInt8
  /-- The number of bytes. -/
  length : Nat
  /-- The number is right. -/
  length_eq : latestFirst.length = length
  deriving DecidableEq

namespace TypedLine

/-- The empty line. -/
def empty : TypedLine := ⟨[], 0, rfl⟩

/-- The bytes in the order of typing. -/
def toList (line : TypedLine) : List UInt8 := line.latestFirst.reverse

/-- Whether there are no bytes. -/
def isEmpty (line : TypedLine) : Bool := line.latestFirst.isEmpty

/-- The line with one more byte. -/
def push (line : TypedLine) (byte : UInt8) : TypedLine where
  latestFirst := byte :: line.latestFirst
  length := line.length + 1
  length_eq := by rw [List.length_cons, line.length_eq]

/-- The line without its last byte, if it has one. -/
def pop (line : TypedLine) : TypedLine where
  latestFirst := line.latestFirst.tail
  length := line.length - 1
  length_eq := by rw [List.length_tail, line.length_eq]

/-- One more byte stands at the end. -/
@[simp] theorem toList_push (line : TypedLine) (byte : UInt8) :
    (line.push byte).toList = line.toList ++ [byte] := by
  simp [push, toList]

/-- The last byte is the one that is taken back. -/
@[simp] theorem toList_pop (line : TypedLine) : line.pop.toList = line.toList.dropLast := by
  simp [pop, toList]

/-- The number of bytes is the length of the line. -/
@[simp] theorem length_toList (line : TypedLine) : line.toList.length = line.length := by
  simp [toList, line.length_eq]

/-- A line without bytes is empty. -/
@[simp] theorem isEmpty_toList (line : TypedLine) : line.toList.isEmpty = line.isEmpty := by
  simp [toList, isEmpty]

end TypedLine

/-- The line being typed. -/
structure Editor where
  /-- The size of the line; one byte of it stays free. -/
  capacity : Nat
  /-- The key that gives the line up, besides escape. -/
  escapeKey : UInt8
  /-- The bytes typed so far. -/
  line : TypedLine := .empty

/-- What kind of key is pressed. -/
inductive KeyKind where
  /-- Backspace or delete, which takes the last byte back. -/
  | erase
  /-- Carriage return or line feed, which submits the line. -/
  | submit
  /-- Escape or the console's escape key, which gives the line up. -/
  | abort
  /-- Any other control key, which does nothing. -/
  | control
  /-- A key that types its own byte. -/
  | printable
  deriving DecidableEq, Repr

/-- What a key does to the line. -/
inductive Edit where
  /-- The line is still being typed. -/
  | editing
  /-- The line is complete. -/
  | submit
  /-- The line is given up. -/
  | abort
  deriving DecidableEq, Repr

/-- What comes of one key. -/
structure Keystroke where
  /-- What the key does. -/
  edit : Edit
  /-- The line afterwards. -/
  editor : Editor
  /-- What the operator sees. -/
  written : List UInt8

namespace Editor

/-- Take back the last byte on the screen: step left, overwrite, step left. -/
def rubOut : List UInt8 := [0x08, 0x20, 0x08]

/-- The end of a line. -/
def lineEnd : List UInt8 := [0x0d, 0x0a]

/-- What is shown when a line is given up. -/
def abortNotice : List UInt8 := Text.Latin1.encode "*abort*\r\n"

/-- The bell. -/
def bell : List UInt8 := [0x07]

/-- A byte in bold. -/
def bold (byte : UInt8) : List UInt8 :=
  [0x1b, 0x5b, 0x31, 0x6d] ++ [byte] ++ [0x1b, 0x5b, 0x30, 0x6d]

/-- The kind of a key. The editing keys come first, so that an escape key which is one of them keeps
its editing sense. -/
def kindOf (editor : Editor) (key : UInt8) : KeyKind :=
  if key == 0x08 || key == 0x7f then .erase
  else if key == 0x0d || key == 0x0a then .submit
  else if key == 0x1b || key == editor.escapeKey then .abort
  else if key < 0x20 then .control
  else .printable

/-- Whether there is room for one more byte. -/
def hasRoom (editor : Editor) : Bool := editor.line.length < editor.capacity - 1

/-- The editor with an empty line. -/
def clear (editor : Editor) : Editor := { editor with line := .empty }

/-- Take the last byte back, if there is one. -/
def erase (editor : Editor) : Keystroke :=
  if editor.line.isEmpty then ⟨.editing, editor, []⟩
  else ⟨.editing, { editor with line := editor.line.pop }, rubOut⟩

/-- Type a byte, if there is room for it. -/
def typeByte (editor : Editor) (key : UInt8) : Keystroke :=
  if editor.hasRoom then ⟨.editing, { editor with line := editor.line.push key }, bold key⟩
  else ⟨.editing, editor, bell⟩

/-- What one key does. -/
def press (editor : Editor) (key : UInt8) : Keystroke :=
  match editor.kindOf key with
  | .erase => editor.erase
  | .submit => ⟨.submit, editor, lineEnd⟩
  | .abort => ⟨.abort, editor, abortNotice⟩
  | .control => ⟨.editing, editor, []⟩
  | .printable => editor.typeByte key

/-- The line as a text, one character for each byte. -/
def text (editor : Editor) : String := Text.Latin1.decode editor.line.toList

end Editor

end BoardSupervisor
