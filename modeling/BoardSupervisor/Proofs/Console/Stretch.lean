/-!
# Stretches of typed bytes

What is typed at the console falls into stretches. A byte outside the menu is a stretch of its own.
The escape key begins a visit to the menu: the bytes that follow belong to the visit as long as they
leave the menu open, and the first that does not is the last of the visit. Nothing here knows of a
line or of a machine; the stretches are read off the bytes and the escape key alone.
-/

namespace BoardSupervisor

namespace Key

/-- Whether a key in the menu takes a byte back. -/
def takesBack (key : UInt8) : Bool := key == 0x08 || key == 0x7f

/-- Whether a key in the menu ends the line and has it carried out. -/
def endsLine (key : UInt8) : Bool := key == 0x0d || key == 0x0a

/-- Whether a key in the menu gives the line up: it is escape or the console's escape key, and not a
key that takes a byte back or ends the line. -/
def givesUp (escapeKey key : UInt8) : Bool :=
  (key == 0x1b || key == escapeKey) && !(takesBack key || endsLine key)

/-- Whether a key in the menu leaves the menu open. -/
def leavesOpen (escapeKey key : UInt8) : Bool := !(endsLine key || givesUp escapeKey key)

/-- A key that does not leave the menu open gives the line up if it does not end it. -/
theorem givesUp_of_not_leavesOpen {escapeKey key : UInt8}
    (closes : leavesOpen escapeKey key = false) (continues : endsLine key = false) :
    givesUp escapeKey key = true := by
  unfold leavesOpen at closes
  rw [continues, Bool.false_or, Bool.not_eq_false'] at closes
  exact closes

end Key

/-- A stretch of typed bytes. -/
inductive Stretch where
  /-- A byte outside the menu. -/
  | passed (byte : UInt8)
  /-- A visit to the menu: the bytes typed in it, and the one that closes it, if that has come. -/
  | visit (typed : List UInt8) (last? : Option UInt8)
  deriving DecidableEq, Repr

namespace Stretch

/-- The bytes of a stretch, with the key that opens the menu. -/
def bytes (escapeKey : UInt8) : Stretch → List UInt8
  | .passed byte => [byte]
  | .visit typed last? => escapeKey :: typed ++ last?.toList

/-- The bytes of a stretch that are meant for the serial port. -/
def sent : Stretch → List UInt8
  | .passed byte => [byte]
  | .visit _ _ => []

/-- For each byte of a stretch, whether the menu is open after it. -/
def menuFlags : Stretch → List Bool
  | .passed _ => [false]
  | .visit typed last? =>
    true :: typed.map (fun _ => true) ++ last?.toList.map (fun _ => false)

/-- The stretches of the bytes that are typed at a console whose menu is closed. -/
def ofBytes (escapeKey : UInt8) : List UInt8 → List Stretch
  | [] => []
  | key :: keys =>
    if key == escapeKey then
      let remaining := keys.dropWhile (Key.leavesOpen escapeKey)
      .visit (keys.takeWhile (Key.leavesOpen escapeKey)) remaining.head? ::
        ofBytes escapeKey remaining.tail
    else .passed key :: ofBytes escapeKey keys
termination_by keys => keys.length
decreasing_by
  · have shorter := (List.dropWhile_sublist (Key.leavesOpen escapeKey) (l := keys)).length_le
    rw [List.length_tail, List.length_cons]
    omega
  · rw [List.length_cons]
    omega

variable {escapeKey key : UInt8}

/-- No bytes make no stretches. -/
theorem ofBytes_nil : ofBytes escapeKey [] = [] := by
  rw [ofBytes]

/-- A byte other than the escape key is a stretch of its own. -/
theorem ofBytes_passed (other : (key == escapeKey) = false) (keys : List UInt8) :
    ofBytes escapeKey (key :: keys) = .passed key :: ofBytes escapeKey keys := by
  rw [ofBytes, other, if_neg Bool.false_ne_true]

/-- The escape key begins a visit that lasts to the first byte that closes the menu. -/
theorem ofBytes_visit (opens : (key == escapeKey) = true) (keys : List UInt8) :
    ofBytes escapeKey (key :: keys) =
      .visit (keys.takeWhile (Key.leavesOpen escapeKey))
          (keys.dropWhile (Key.leavesOpen escapeKey)).head? ::
        ofBytes escapeKey (keys.dropWhile (Key.leavesOpen escapeKey)).tail := by
  rw [ofBytes, opens, if_pos rfl]

/-- The stretches together are the bytes, none left out, repeated or moved. -/
theorem flatMap_bytes_ofBytes (escapeKey : UInt8) (keys : List UInt8) :
    (ofBytes escapeKey keys).flatMap (bytes escapeKey) = keys := by
  induction keys using ofBytes.induct escapeKey with
  | case1 =>
    rw [ofBytes_nil]
    rfl
  | case2 key keys opens remaining ih =>
    have split : keys.takeWhile (Key.leavesOpen escapeKey) ++ remaining = keys :=
      List.takeWhile_append_dropWhile
    have again : remaining.head?.toList ++ remaining.tail = remaining := by
      cases remaining <;> rfl
    rw [ofBytes_visit opens, List.flatMap_cons, ih, bytes, eq_of_beq opens, List.cons_append,
      List.cons_append, List.append_assoc, again, split]
  | case3 key keys other ih =>
    rw [ofBytes_passed (Bool.eq_false_iff.mpr other), List.flatMap_cons, ih]
    rfl

example : ofBytes 0x1d [0x61, 0x1d, 0x71, 0x08, 0x0d, 0x62] =
    [.passed 0x61, .visit [0x71, 0x08] (some 0x0d), .passed 0x62] := by
  cbv

/-- The bytes that are meant for the serial port, typed while the menu is open or closed. -/
def sentFrom (escapeKey : UInt8) : Bool → List UInt8 → List UInt8
  | _, [] => []
  | true, key :: keys => sentFrom escapeKey (Key.leavesOpen escapeKey key) keys
  | false, key :: keys =>
    if key == escapeKey then sentFrom escapeKey true keys
    else key :: sentFrom escapeKey false keys

/-- While the menu is open nothing is sent before the byte that closes it. -/
theorem sentFrom_open (escapeKey : UInt8) (keys : List UInt8) :
    sentFrom escapeKey true keys =
      sentFrom escapeKey false (keys.dropWhile (Key.leavesOpen escapeKey)).tail := by
  induction keys with
  | nil => rfl
  | cons key keys ih =>
    rw [sentFrom]
    cases stays : Key.leavesOpen escapeKey key with
    | true => rw [List.dropWhile_cons_of_pos stays, ih]
    | false => rw [List.dropWhile_cons_of_neg (Bool.eq_false_iff.mp stays), List.tail_cons]

/-- The bytes that are sent one by one are the bytes that the stretches send. -/
theorem sentFrom_closed (escapeKey : UInt8) (keys : List UInt8) :
    sentFrom escapeKey false keys = (ofBytes escapeKey keys).flatMap sent := by
  induction keys using ofBytes.induct escapeKey with
  | case1 =>
    rw [ofBytes_nil]
    rfl
  | case2 key keys opens remaining ih =>
    rw [ofBytes_visit opens, List.flatMap_cons, ← ih, sentFrom, opens, if_pos rfl, sentFrom_open]
    rfl
  | case3 key keys other ih =>
    rw [ofBytes_passed (Bool.eq_false_iff.mpr other), List.flatMap_cons, ← ih, sentFrom,
      if_neg other]
    rfl

end Stretch

end BoardSupervisor
