import BoardSupervisor.Proofs.Console.EscapeKey
import BoardSupervisor.Proofs.Console.LineMode
import Mathlib.Data.List.GetD

/-!
# The line on the operator's screen

The editor keeps the line that is typed, and the operator sees it on a screen of which the editor
knows nothing. The two agree because what a key writes does to the screen what the key does to the
line. Both are compared here with a third thing, a stack of bounded height that is told in plain
words: a key takes the last byte off, puts one on, is refused with a bell, or does nothing.
-/

namespace BoardSupervisor

/-- One line of a terminal. -/
structure Screen where
  /-- The byte that each column shows. -/
  cells : Nat → UInt8
  /-- The column that the next byte goes to. -/
  cursor : Nat

namespace Screen

/-- What an empty column shows. -/
def space : UInt8 := 0x20

/-- A screen on which nothing has been written. -/
def blank : Screen := ⟨fun _ => space, 0⟩

/-- The cursor one column further left, unless it is in the first. -/
def left (screen : Screen) : Screen := { screen with cursor := screen.cursor - 1 }

/-- A byte in the column of the cursor, and the cursor behind it. -/
def fill (screen : Screen) (byte : UInt8) : Screen where
  cells := fun column => if column = screen.cursor then byte else screen.cells column
  cursor := screen.cursor + 1

/-- What is shown after bytes were written. Switching bold on or off changes no column, the bell is
silent, a backspace moves the cursor left, and every other byte fills a column. -/
def draw (screen : Screen) : List UInt8 → Screen
  | [] => screen
  | 0x1b :: 0x5b :: 0x31 :: 0x6d :: rest => screen.draw rest
  | 0x1b :: 0x5b :: 0x30 :: 0x6d :: rest => screen.draw rest
  | 0x07 :: rest => screen.draw rest
  | 0x08 :: rest => screen.left.draw rest
  | byte :: rest => (screen.fill byte).draw rest

/-- The screen on which a line stands to the left of the cursor and nothing else. -/
def showing (line : List UInt8) : Screen := ⟨fun column => line.getD column space, line.length⟩

/-- A byte behind a line makes the line longer. -/
theorem fill_showing (line : List UInt8) (byte : UInt8) :
    (showing line).fill byte = showing (line ++ [byte]) := by
  have cells : ∀ column, ((showing line).fill byte).cells column =
      (showing (line ++ [byte])).cells column := by
    intro column
    dsimp only [fill, showing]
    rcases Nat.lt_trichotomy column line.length with before | rfl | behind
    · rw [if_neg (Nat.ne_of_lt before), List.getD_append _ _ _ _ before]
    · simp
    · rw [if_neg (Nat.ne_of_gt behind), List.getD_eq_default _ _ (Nat.le_of_lt behind),
        List.getD_eq_default _ _ (by rw [List.length_append, List.length_singleton]; omega)]
  have cursor : line.length + 1 = (line ++ [byte]).length := by
    rw [List.length_append, List.length_singleton]
  exact congrArg₂ Screen.mk (funext cells) cursor

/-- Stepping left, overwriting and stepping left again rubs the last byte of a line out. -/
theorem rubOut_showing {line : List UInt8} (given : line ≠ []) :
    ((showing line).left.fill space).left = showing line.dropLast := by
  have positive := List.length_pos_iff.mpr given
  have cells : ∀ column, ((showing line).left.fill space).left.cells column =
      (showing line.dropLast).cells column := by
    intro column
    dsimp only [fill, left, showing]
    rcases Nat.lt_or_ge column (line.length - 1) with before | behind
    · rw [if_neg (Nat.ne_of_lt before), List.getD_eq_getElem?_getD, List.getD_eq_getElem?_getD,
        List.getElem?_dropLast, if_pos before]
    · rw [List.getD_eq_default line.dropLast _ (by rw [List.length_dropLast]; exact behind)]
      split
      · rfl
      · exact List.getD_eq_default _ _ (by omega)
  have cursor : line.length - 1 + 1 - 1 = line.dropLast.length := by
    rw [List.length_dropLast]
    omega
  exact congrArg₂ Screen.mk (funext cells) cursor

variable (screen : Screen) (rest : List UInt8)

/-- A byte that is no control key fills a column, since the bytes that the terminal acts upon are
all lower. -/
theorem draw_cons_of_le {byte : UInt8} (above : 0x20 ≤ byte) :
    screen.draw (byte :: rest) = (screen.fill byte).draw rest := by
  rw [draw]
  all_goals
    intros
    subst byte
    exact absurd above (by decide)

/-- A byte in bold fills a column like the byte itself. -/
theorem draw_bold {byte : UInt8} (above : 0x20 ≤ byte) :
    screen.draw (Editor.bold byte ++ rest) = (screen.fill byte).draw rest := by
  have off : (screen.fill byte).draw (0x1b :: 0x5b :: 0x30 :: 0x6d :: rest) =
      (screen.fill byte).draw rest := rfl
  rw [← off, ← draw_cons_of_le _ _ above]
  rfl

/-- The bell leaves the screen as it is. -/
theorem draw_bell : screen.draw (Editor.bell ++ rest) = screen.draw rest := rfl

/-- What is written to take a byte back steps left, overwrites and steps left again. -/
theorem draw_rubOut :
    screen.draw (Editor.rubOut ++ rest) = (screen.left.fill space).left.draw rest := rfl

end Screen

/-- A stack of bytes of bounded height, and how often a byte was refused. -/
structure BoundedStack where
  /-- The bytes, the latest last. -/
  bytes : List UInt8
  /-- The number of bytes that were refused. -/
  refused : Nat
  deriving DecidableEq

namespace BoundedStack

/-- A stack without bytes. -/
def empty : BoundedStack := ⟨[], 0⟩

/-- What a key does to a stack: backspace and delete take the last byte off, any other byte from the
space upwards goes on top or is refused, and the rest do nothing. -/
def press (height : Nat) (stack : BoundedStack) (key : UInt8) : BoundedStack :=
  if key = 0x08 ∨ key = 0x7f then { stack with bytes := stack.bytes.dropLast }
  else if 0x20 ≤ key then
    if stack.bytes.length < height then { stack with bytes := stack.bytes ++ [key] }
    else { stack with refused := stack.refused + 1 }
  else stack

/-- The stack after keys. -/
def after (height : Nat) (stack : BoundedStack) (keys : List UInt8) : BoundedStack :=
  keys.foldl (press height) stack

end BoundedStack

namespace Key

/-- A key that leaves the menu open takes a byte back, types its own byte, or is a control key that
does nothing. -/
theorem leavesOpen_cases {escapeKey key : UInt8} (stays : leavesOpen escapeKey key = true) :
    takesBack key = true ∨ types escapeKey key = true ∨ takesBack key = false ∧ key < 0x20 := by
  cases back : takesBack key with
  | true => exact .inl rfl
  | false =>
    rcases UInt8.lt_or_le key 0x20 with control | above
    · exact .inr (.inr ⟨rfl, control⟩)
    · refine .inr (.inl (types_iff.mpr ⟨above, ?_, ?_⟩))
      · rintro rfl
        cases back
      · rintro rfl
        rw [leavesOpen_escapeKey, back] at stays
        cases stays

end Key

namespace Editor

variable {editor : Editor} {key : UInt8}

/-- A control key that takes no byte back and leaves the menu open does nothing. -/
theorem press_of_control (stays : Key.leavesOpen editor.escapeKey key = true)
    (keeps : Key.takesBack key = false) (control : key < 0x20) :
    editor.press key = ⟨.editing, editor, []⟩ := by
  unfold Key.leavesOpen at stays
  rw [Bool.not_eq_true', Bool.or_eq_false_iff] at stays
  obtain ⟨continues, kept⟩ := stays
  unfold Key.givesUp at kept
  rw [keeps, continues, Bool.or_false, Bool.not_false, Bool.and_true] at kept
  have kind : editor.kindOf key = .control := by
    unfold Key.takesBack at keeps
    unfold Key.endsLine at continues
    unfold kindOf
    rw [keeps, continues, kept]
    simp [control]
  unfold press
  rw [kind]

/-- What a key that leaves the menu open can do: rub out the last byte, type its own, ring the bell
for want of room, or nothing, be it that there is no byte to take back or that it is a control
key. -/
theorem press_cases (Struck : Keystroke → Prop)
    (stays : Key.leavesOpen editor.escapeKey key = true)
    (erased : Key.takesBack key = true → editor.line.toList ≠ [] →
      Struck ⟨.editing, { editor with line := editor.line.pop }, rubOut⟩)
    (idle : Key.takesBack key = true → editor.line.toList = [] → Struck ⟨.editing, editor, []⟩)
    (typed : Key.types editor.escapeKey key = true → 0 < editor.roomLeft →
      Struck ⟨.editing, editor.withByte key, bold key⟩)
    (refused : Key.types editor.escapeKey key = true → editor.roomLeft = 0 →
      Struck ⟨.editing, editor, bell⟩)
    (ignored : Key.takesBack key = false → key < 0x20 → Struck ⟨.editing, editor, []⟩) :
    Struck (editor.press key) := by
  rcases Key.leavesOpen_cases stays with back | types | ⟨keeps, control⟩
  · rw [press_eq_erase editor back]
    unfold erase
    cases empty : editor.line.isEmpty with
    | true =>
      rw [← TypedLine.isEmpty_toList, List.isEmpty_iff] at empty
      rw [if_pos rfl]
      exact idle back empty
    | false =>
      rw [← TypedLine.isEmpty_toList, List.isEmpty_eq_false_iff] at empty
      rw [if_neg Bool.false_ne_true]
      exact erased back empty
  · rcases Nat.eq_zero_or_pos editor.roomLeft with full | left
    · rw [press_of_no_room types full]
      exact refused types full
    · rw [press_of_room types left]
      exact typed types left
  · rw [press_of_control stays keeps control]
    exact ignored keeps control

/-- A key keeps the room of the line. -/
theorem room_press (editor : Editor) (key : UInt8) :
    (editor.press key).editor.room = editor.room := by
  have same := congrArg capacity (editor.press_clear key)
  unfold room
  rw [show (editor.press key).editor.capacity = editor.capacity from same]

/-- The room that is left is what the bytes in the line leave of it. -/
theorem roomLeft_eq (editor : Editor) :
    editor.roomLeft = editor.room - editor.line.toList.length := by
  unfold roomLeft room
  rw [TypedLine.length_toList]
  omega

/-- The line fits into its room, and each of its bytes types itself. -/
structure Sound (editor : Editor) : Prop where
  /-- The line fits. -/
  fits : editor.line.toList.length ≤ editor.room
  /-- Each byte types itself. -/
  typed : ∀ byte ∈ editor.line.toList, Key.types editor.escapeKey byte = true

/-- An editor with an empty line is sound. -/
theorem sound_clear (editor : Editor) : editor.clear.Sound where
  fits := Nat.zero_le _
  typed := nofun

/-- A key keeps an editor sound. -/
theorem Sound.press (sound : editor.Sound) (stays : Key.leavesOpen editor.escapeKey key = true) :
    (editor.press key).editor.Sound := by
  refine press_cases (fun stroke => stroke.editor.Sound) stays ?erased (fun _ _ => sound) ?typed
    (fun _ _ => sound) (fun _ _ => sound)
  case erased =>
    intro _ _
    constructor
    · rw [TypedLine.toList_pop, List.length_dropLast]
      exact Nat.le_trans (Nat.sub_le _ _) sound.fits
    · intro byte member
      rw [TypedLine.toList_pop] at member
      exact sound.typed byte (List.dropLast_subset _ member)
  case typed =>
    intro types left
    rw [roomLeft_eq] at left
    constructor
    · have longer : (editor.withByte key).line.toList.length = editor.line.toList.length + 1 := by
        rw [withByte, TypedLine.toList_push, List.length_append, List.length_singleton]
      have same : (editor.withByte key).room = editor.room := rfl
      rw [longer, same]
      omega
    · intro byte member
      rw [withByte, TypedLine.toList_push, List.mem_append, List.mem_singleton] at member
      rcases member with before | rfl
      · exact sound.typed byte before
      · exact types

/-- A key does to the line what it does to the stack, and rings the bell when the stack refuses. -/
theorem press_stack (stays : Key.leavesOpen editor.escapeKey key = true) (refused : Nat) :
    BoundedStack.press editor.room ⟨editor.line.toList, refused⟩ key =
      ⟨(editor.press key).editor.line.toList,
        refused + (editor.press key).written.count 0x07⟩ := by
  have back_iff : Key.takesBack key = true ↔ key = 0x08 ∨ key = 0x7f := by
    simp [Key.takesBack]
  have typed_iff : Key.types editor.escapeKey key = true →
      ¬ (key = 0x08 ∨ key = 0x7f) ∧ 0x20 ≤ key := by
    intro types
    obtain ⟨above, not_delete, -⟩ := Key.types_iff.mp types
    refine ⟨?_, above⟩
    rintro (rfl | rfl)
    · exact absurd above (by decide)
    · exact not_delete rfl
  unfold BoundedStack.press
  refine press_cases (fun stroke => _ = BoundedStack.mk stroke.editor.line.toList
    (refused + stroke.written.count 0x07)) stays ?erased ?idle ?typed ?refused ?ignored
  case erased =>
    intro back _
    rw [if_pos (back_iff.mp back), TypedLine.toList_pop]
    rfl
  case idle =>
    intro back empty
    rw [if_pos (back_iff.mp back), empty]
    rfl
  case typed =>
    intro types left
    obtain ⟨other, above⟩ := typed_iff types
    rw [roomLeft_eq] at left
    have silent : (bold key).count 0x07 = 0 := by
      have low : key ≠ 0x07 := by
        rintro rfl
        exact absurd above (by decide)
      simp [bold, low]
    rw [if_neg other, if_pos above, if_pos (by dsimp only; omega), withByte, TypedLine.toList_push,
      silent]
    rfl
  case refused =>
    intro types full
    obtain ⟨other, above⟩ := typed_iff types
    rw [roomLeft_eq] at full
    rw [if_neg other, if_pos above, if_neg (by dsimp only; omega)]
    rfl
  case ignored =>
    intro keeps control
    rw [if_neg (by rw [← back_iff, keeps]; exact Bool.false_ne_true),
      if_neg (UInt8.not_le.mpr control)]
    rfl

/-- What a key writes does to the screen what the key does to the line. -/
theorem draw_press (stays : Key.leavesOpen editor.escapeKey key = true) (rest : List UInt8) :
    (Screen.showing editor.line.toList).draw ((editor.press key).written ++ rest) =
      (Screen.showing (editor.press key).editor.line.toList).draw rest := by
  refine press_cases (fun stroke =>
    (Screen.showing editor.line.toList).draw (stroke.written ++ rest) =
      (Screen.showing stroke.editor.line.toList).draw rest) stays ?erased (fun _ _ => rfl) ?typed
    (fun _ _ => Screen.draw_bell _ rest) (fun _ _ => rfl)
  case erased =>
    intro _ given
    rw [Screen.draw_rubOut, Screen.rubOut_showing given, TypedLine.toList_pop]
  case typed =>
    intro types _
    rw [Screen.draw_bold _ _ (Key.types_iff.mp types).1, Screen.fill_showing, withByte,
      TypedLine.toList_push]

/-- After a key, the keys that leave the menu open are the same. -/
theorem leavesOpen_press {keys : List UInt8}
    (stay : ∀ key ∈ keys, Key.leavesOpen editor.escapeKey key = true) (pressed : UInt8) :
    ∀ key ∈ keys, Key.leavesOpen (editor.press pressed).editor.escapeKey key = true := by
  rw [press_escapeKey]
  exact stay

variable {keys : List UInt8}

/-- Keys keep the room of the line. -/
theorem room_after (editor : Editor) (keys : List UInt8) :
    (editor.after keys).room = editor.room := by
  induction keys generalizing editor with
  | nil => rfl
  | cons key keys ih => exact (ih (editor.press key).editor).trans (room_press editor key)

/-- Keys keep the escape key. -/
theorem escapeKey_after (editor : Editor) (keys : List UInt8) :
    (editor.after keys).escapeKey = editor.escapeKey := by
  induction keys generalizing editor with
  | nil => rfl
  | cons key keys ih => exact (ih (editor.press key).editor).trans (press_escapeKey editor key)

/-- Keys keep an editor sound. -/
theorem Sound.after (sound : editor.Sound)
    (stay : ∀ key ∈ keys, Key.leavesOpen editor.escapeKey key = true) :
    (editor.after keys).Sound := by
  induction keys generalizing editor with
  | nil => exact sound
  | cons key keys ih =>
    obtain ⟨first, later⟩ := List.forall_mem_cons.mp stay
    exact ih (sound.press first) (leavesOpen_press later key)

/-- Keys do to the line what they do to the stack, with a bell for each time the stack refuses. -/
theorem after_stack (stay : ∀ key ∈ keys, Key.leavesOpen editor.escapeKey key = true)
    (refused : Nat) :
    BoundedStack.after editor.room ⟨editor.line.toList, refused⟩ keys =
      ⟨(editor.after keys).line.toList, refused + (editor.echoes keys).count 0x07⟩ := by
  induction keys generalizing editor refused with
  | nil => rfl
  | cons key keys ih =>
    obtain ⟨first, later⟩ := List.forall_mem_cons.mp stay
    have rest := ih (leavesOpen_press later key)
      (refused + (editor.press key).written.count 0x07)
    rw [room_press] at rest
    rw [echoes, List.count_append, ← Nat.add_assoc]
    unfold BoundedStack.after
    rw [List.foldl_cons, press_stack first]
    exact rest

/-- What keys write does to the screen what the keys do to the line. -/
theorem draw_echoes (stay : ∀ key ∈ keys, Key.leavesOpen editor.escapeKey key = true) :
    (Screen.showing editor.line.toList).draw (editor.echoes keys) =
      Screen.showing (editor.after keys).line.toList := by
  induction keys generalizing editor with
  | nil => rfl
  | cons key keys ih =>
    obtain ⟨first, later⟩ := List.forall_mem_cons.mp stay
    rw [echoes, draw_press first]
    exact ih (leavesOpen_press later key)

/-- Whatever its size and its escape key, and whatever keys are pressed that leave the menu open, an
editor that starts from an empty line has in it what the keys leave on a stack of its height, and
has rung the bell once for each byte that the stack refused. The line fits and holds none but bytes
that type themselves, and all that was written shows the line, with the cursor behind it and nothing
to its right. -/
theorem screen_shows_line (editor : Editor) {keys : List UInt8}
    (stay : ∀ key ∈ keys, Key.leavesOpen editor.escapeKey key = true) :
    let height := max editor.capacity 1 - 1
    let line := (editor.clear.after keys).line.toList
    let written := editor.clear.echoes keys
    BoundedStack.empty.after height keys = ⟨line, written.count 0x07⟩ ∧
    line.length ≤ height ∧
    (∀ byte ∈ line, 0x20 ≤ byte ∧ byte ≠ 0x7f ∧ byte ≠ editor.escapeKey) ∧
    Screen.blank.draw written = Screen.showing line := by
  intro height line written
  have cleared : ∀ key ∈ keys, Key.leavesOpen editor.clear.escapeKey key = true := stay
  have sound : (editor.clear.after keys).Sound := (sound_clear editor).after cleared
  refine ⟨?stack, ?fits, ?typed, ?screen⟩
  case stack =>
    have agrees := after_stack cleared 0
    rw [Nat.zero_add] at agrees
    exact agrees
  case fits =>
    have fits := sound.fits
    rw [room_after] at fits
    exact fits
  case typed =>
    intro byte member
    have types := sound.typed byte member
    rw [escapeKey_after] at types
    exact Key.types_iff.mp types
  case screen => exact draw_echoes cleared

/-- In a line of two bytes a third is refused; a high byte, deletes beyond the front of the line and
a key that does nothing leave the screen in step with it. -/
theorem screen_shows_line_full :
    let editor : Editor := { capacity := 3, escapeKey := 0x1d }
    let keys : List UInt8 := [0x08, 0x61, 0x09, 0xe9, 0x62, 0x7f, 0x08, 0x08, 0x63]
    (∀ key ∈ keys, Key.leavesOpen editor.escapeKey key = true) ∧
    (editor.clear.echoes keys).count 0x07 = 1 ∧
    Screen.blank.draw (editor.clear.echoes keys) = Screen.showing [0x63] := by
  intro editor keys
  have stay : ∀ key ∈ keys, Key.leavesOpen editor.escapeKey key = true :=
    List.all_eq_true.mp rfl
  have left : BoundedStack.empty.after (max editor.capacity 1 - 1) keys = ⟨[0x63], 1⟩ := rfl
  obtain ⟨stack, -, -, shown⟩ := screen_shows_line editor stay
  rw [left, BoundedStack.mk.injEq] at stack
  rw [← stack.1] at shown
  exact ⟨stay, stack.2.symm, shown⟩

end Editor

end BoardSupervisor
