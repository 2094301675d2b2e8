import BoardSupervisor.SerialLine

/-!
# A serial line that fails

A line takes the bytes of one text after the other until its room is used up, and fails from then
on. Wherever that happens, between two texts or inside one, the line holds the beginning of all that
was sent and nothing else. Each text that does not fit into what is left is warned of once, and so
is each flush that the line refuses; no failure keeps a later text from being tried.
-/

namespace BoardSupervisor.SerialLine

open Text

variable (line : SerialLine)

/-- What is offered to a line with some room when bytes are sent: all of them, and once more those
that it left if it took only a part. -/
def offers (room : Nat) (bytes : List UInt8) : List (List UInt8) :=
  if bytes = [] then []
  else if 0 < room ∧ room < bytes.length then [bytes, bytes.drop room]
  else [bytes]

/-- The line once bytes have been sent to it. -/
def afterSending (bytes : List UInt8) : SerialLine :=
  { line with
    room := line.room - bytes.length
    accepted := line.accepted ++ bytes.take line.room
    offered := line.offered ++ offers line.room bytes }

section Sending

variable {line} {bytes : List UInt8}

/-- A line without room fails at once. -/
theorem sendAll_of_full (given : bytes ≠ []) (full : line.room = 0) :
    line.sendAll bytes = (false, { line with offered := line.offered ++ [bytes] }) := by
  unfold sendAll
  simp [offer, given, full]

/-- What a line with room leaves is sent again. -/
theorem sendAll_of_room (given : bytes ≠ []) (room : 0 < line.room) :
    line.sendAll bytes = (line.offer bytes).2.sendAll (bytes.drop line.room) := by
  have length := List.length_pos_iff.mpr given
  obtain ⟨taken, taken_eq⟩ : ∃ taken, min line.room bytes.length = taken + 1 :=
    ⟨min line.room bytes.length - 1, by omega⟩
  have offer_eq : line.offer bytes = (some (taken + 1), (line.offer bytes).2) := by
    have notFull : ¬ (line.room = 0 ∧ bytes ≠ []) := by omega
    simp [offer, notFull, taken_eq]
  have left : bytes.drop (taken + 1) = bytes.drop line.room := by
    rw [← taken_eq]
    rcases Nat.le_total line.room bytes.length with part | whole
    · rw [Nat.min_eq_left part]
    · rw [Nat.min_eq_right whole, List.drop_length, List.drop_eq_nil_of_le whole]
  rw [sendAll, if_neg given, offer_eq]
  dsimp only
  rw [left]

/-- A line has all the bytes that are sent to it exactly if it has room for them, and else as many
as it has room for: after the first offer either nothing is left or the line is full. -/
theorem sendAll_apply (line : SerialLine) (bytes : List UInt8) :
    line.sendAll bytes = (decide (bytes.length ≤ line.room), line.afterSending bytes) := by
  by_cases given : bytes = []
  · subst given
    simp [sendAll, afterSending, offers]
  · have length := List.length_pos_iff.mpr given
    rcases Nat.eq_zero_or_pos line.room with full | room
    · rw [sendAll_of_full given full]
      simp [afterSending, offers, given, full]
    · rw [sendAll_of_room given room]
      rcases Nat.lt_or_ge line.room bytes.length with part | whole
      · have left : bytes.drop line.room ≠ [] := by simp [part]
        have full : (line.offer bytes).2.room = 0 := by
          dsimp only [offer]
          omega
        rw [sendAll_of_full left full]
        simp [afterSending, offers, offer, given, room, part]
      · have left : bytes.drop line.room = [] := List.drop_eq_nil_of_le whole
        rw [left]
        simp [sendAll, afterSending, offers, offer, given, whole]

end Sending

/-- Something that is done with a line. -/
inductive Use where
  /-- Bytes are sent as they are. -/
  | write (bytes : List UInt8)
  /-- A message is sent. -/
  | tell (message : Message)
  /-- The line is flushed. -/
  | flush

/-- The bytes that a use has for the line: for a message, one byte for each of its characters. -/
def Use.bytes : Use → List UInt8
  | .write bytes => bytes
  | .tell message => Latin1.encode message.text
  | .flush => []

/-- All the bytes that several uses have for the line. -/
def Use.stream (uses : List Use) : List UInt8 := uses.flatMap Use.bytes

/-- Do something with a line. -/
def serve : Use → SerialLine × List Log.Record
  | .write bytes => line.write bytes
  | .tell message => line.tell message
  | .flush => (line, line.flush)

/-- The line after several uses. -/
def after (uses : List Use) : SerialLine := uses.foldl (fun line use => (line.serve use).1) line

/-- The warnings of several uses, use by use. -/
def warnings : SerialLine → List Use → List (List Log.Record)
  | _, [] => []
  | line, use :: rest => (line.serve use).2 :: (line.serve use).1.warnings rest

/-- Bytes are sent, with a warning if there is not room for all of them. -/
theorem write_apply (bytes : List UInt8) :
    line.write bytes =
      (line.afterSending bytes, if line.room < bytes.length then [writeWarning] else []) := by
  unfold write
  rw [sendAll_apply]
  rcases Nat.lt_or_ge line.room bytes.length with part | whole
  · simp [part]
  · simp [whole]

/-- A message is sent as one byte for each character of what it says. -/
theorem tell_apply (message : Message) :
    line.tell message =
      (line.afterSending (Latin1.encode message.text),
        if line.room < (Latin1.encode message.text).length then [writeWarning] else []) := by
  rw [tell, message.bytes_eq, write_apply]

/-- Whatever a line is used for, the bytes that the use has for it are sent. -/
theorem serve_line (use : Use) : (line.serve use).1 = line.afterSending use.bytes := by
  cases use with
  | write bytes => exact congrArg Prod.fst (line.write_apply bytes)
  | tell message => exact congrArg Prod.fst (line.tell_apply message)
  | flush => simp [serve, Use.bytes, afterSending, offers]

/-- What a use warns of: bytes for which there was no room, and a flush that was refused. -/
theorem serve_warnings (use : Use) :
    (line.serve use).2 =
      match use with
      | .flush => if line.flushFails then [flushWarning] else []
      | use => if line.room < use.bytes.length then [writeWarning] else [] := by
  cases use with
  | write bytes => exact congrArg Prod.snd (line.write_apply bytes)
  | tell message => exact congrArg Prod.snd (line.tell_apply message)
  | flush => rfl

/-- One more use comes after the others. -/
theorem after_concat (uses : List Use) (use : Use) :
    line.after (uses ++ [use]) = (line.after uses).afterSending use.bytes := by
  unfold after
  rw [List.foldl_append, List.foldl_cons, List.foldl_nil, serve_line]

/-- After several uses a line has taken the beginning of all the bytes that were sent, as far as its
room went, and that much less room is left. It refuses to be flushed or not, as before. -/
theorem after_apply (uses : List Use) :
    (line.after uses).room = line.room - (Use.stream uses).length ∧
      (line.after uses).accepted = line.accepted ++ (Use.stream uses).take line.room ∧
      (line.after uses).flushFails = line.flushFails := by
  induction uses generalizing line with
  | nil => simp [after, Use.stream]
  | cons use rest ih =>
    have stream_eq : Use.stream (use :: rest) = use.bytes ++ Use.stream rest := rfl
    have after_eq : line.after (use :: rest) = (line.afterSending use.bytes).after rest := by
      rw [← serve_line]
      rfl
    obtain ⟨room, accepted, flushFails⟩ := ih (line.afterSending use.bytes)
    rw [after_eq, stream_eq]
    refine ⟨?_, ?_, flushFails⟩
    · rw [room, List.length_append]
      exact Nat.sub_sub _ _ _
    · rw [accepted, List.take_append, ← List.append_assoc]
      rfl

/-- Each use has its warnings. -/
theorem length_warnings (uses : List Use) : (line.warnings uses).length = uses.length := by
  induction uses generalizing line with
  | nil => rfl
  | cons use rest ih => rw [warnings, List.length_cons, List.length_cons, ih]

/-- The warnings of a use among others are those that it has on the line that the uses before it
leave. -/
theorem warnings_append_cons (before : List Use) (use : Use) (later : List Use) :
    (line.warnings (before ++ use :: later))[before.length]? =
      some ((line.after before).serve use).2 := by
  induction before generalizing line with
  | nil => rfl
  | cons first before ih =>
    rw [List.cons_append, warnings, List.length_cons, List.getElem?_cons_succ, ih]
    rfl

/-- A line that takes some number of bytes in all holds, after any uses, the first bytes of all that
was sent, as many as it takes. There is one warning for each write and each message that does not
fit into what is left, one for each flush that is refused, and no other. A line that has failed is
offered every later text whole all the same, and what it left of a text is offered once more. -/
theorem failing_line_keeps_stream (room : Nat) (flushFails : Bool) :
    let line : SerialLine := { room, flushFails }
    (∀ uses, (line.after uses).accepted = (Use.stream uses).take room ∧
      (line.warnings uses).length = uses.length) ∧
    ∀ before use later,
      let left := room - (Use.stream before).length
      ((line.warnings (before ++ use :: later))[before.length]? =
        some (match use with
          | .flush => if flushFails then [⟨.warn, "serial flush failed: flush refused"⟩] else []
          | .write bytes =>
            if left < bytes.length then [⟨.warn, "serial write failed: line dropped"⟩] else []
          | .tell message =>
            if left < (Latin1.encode message.text).length then
              [⟨.warn, "serial write failed: line dropped"⟩]
            else [])) ∧
      (line.after (before ++ [use])).offered =
        (line.after before).offered ++
          (if use.bytes = [] then []
          else if 0 < left ∧ left < use.bytes.length then [use.bytes, use.bytes.drop left]
          else [use.bytes]) := by
  intro line
  constructor
  · intro uses
    obtain ⟨-, accepted, -⟩ := line.after_apply uses
    exact ⟨accepted, line.length_warnings uses⟩
  · intro before use later left
    obtain ⟨room_eq, -, flushFails_eq⟩ := line.after_apply before
    constructor
    · rw [line.warnings_append_cons before use later, serve_warnings, room_eq, flushFails_eq]
      cases use <;> rfl
    · rw [after_concat, afterSending, room_eq]
      rfl

/-- A text that is cut, an empty text after that, and a text that comes too late. -/
example :
    ({ room := 3, flushFails := true } : SerialLine).warnings
      [.tell (.literal "ab"), .tell (.composed "cd"), .flush, .tell (.composed ""),
        .tell (.composed "e")] =
      [[], [writeWarning], [flushWarning], [], [writeWarning]] := by cbv

end BoardSupervisor.SerialLine
