import BoardSupervisor.Proofs.Text.Layout
import BoardSupervisor.Text.Basic
import Mathlib.Data.List.Forall2
import Mathlib.Data.List.TakeWhile

/-!
# Bytes that pass through a text

A byte typed by the operator becomes a character of the command line, and a character told to the
operator becomes a byte. What happens on the way only cuts the line at blanks, and of the bytes that
can be in a typed line only the space is one. So the first word of a line can be found among the
bytes themselves, and it is sent back as it was typed.
-/

namespace BoardSupervisor.Text

namespace Latin1

/-- Whether a byte stands for a character on the serial line: the byte has the number of the
character, and the question mark stands for each character beyond the range of a byte. -/
def Stands (c : Char) (b : UInt8) : Prop :=
  (c.toNat ≤ 0xff → b.toNat = c.toNat) ∧ (0xff < c.toNat → b = 0x3f)

/-- The byte that is sent for a character stands for it. -/
theorem stands_byteOf (c : Char) : Stands c (byteOf c) := by
  refine ⟨fun within => ?_, fun beyond => ?_⟩
  · rw [byteOf, if_pos (by omega)]
    exact UInt8.toNat_ofNat_of_lt' (Nat.lt_succ_of_le within)
  · rw [byteOf, if_neg (by omega)]

/-- Each character of a text is sent as one byte that stands for it. -/
theorem forall₂_stands_encode (s : String) : List.Forall₂ Stands s.toList (encode s) := by
  unfold encode
  rw [List.forall₂_map_right_iff]
  exact List.forall₂_same.mpr fun c _ => stands_byteOf c

/-- The characters that bytes are read as. -/
theorem toList_decode (bytes : List UInt8) : (decode bytes).toList = bytes.map charOf :=
  String.toList_ofList

/-- One character is read for each byte. -/
theorem length_decode (bytes : List UInt8) : (decode bytes).toList.length = bytes.length := by
  rw [toList_decode, List.length_map]

/-- The bytes of two rows are read one after the other. -/
theorem decode_append (first second : List UInt8) :
    decode (first ++ second) = decode first ++ decode second := by
  unfold decode
  rw [List.map_append, String.ofList_append]

/-- A byte other than the question mark is sent for its own character only. -/
theorem eq_charOf_of_byteOf_eq {c : Char} {b : UInt8} (other : b ≠ 0x3f) (sent : byteOf c = b) :
    c = charOf b := by
  have stands := stands_byteOf c
  rw [sent] at stands
  rcases Nat.lt_or_ge 0xff c.toNat with beyond | within
  · exact absurd (stands.2 beyond) other
  · rw [← Char.toNat_inj, toNat_charOf, stands.1 within]

/-- What is sent for a text without blanks has no end of a line in it. -/
theorem not_mem_encode_of_isWord {word : String} (solid : IsWord word.toList) :
    (0x0d : UInt8) ∉ encode word ∧ (0x0a : UInt8) ∉ encode word := by
  have absent {b : UInt8} (other : b ≠ 0x3f) (blank : charOf b ∈ blanks) : b ∉ encode word := by
    intro member
    obtain ⟨c, inside, sent⟩ := List.mem_map.mp member
    rw [← eq_charOf_of_byteOf_eq other sent] at blank
    exact solid.solid c inside blank
  exact ⟨absent (by decide) (by decide), absent (by decide) (by decide)⟩

/-- Of the bytes that are no control keys only the space is read as a blank. -/
theorem charOf_mem_blanks_iff {b : UInt8} (above : 0x20 ≤ b) : charOf b ∈ blanks ↔ b = 0x20 := by
  constructor
  · intro blank
    have low : blanks.all (fun c => c.toNat ≤ 32) = true := rfl
    have below := of_decide_eq_true (List.all_eq_true.mp low (charOf b) blank)
    rw [toNat_charOf] at below
    have least : 32 ≤ b.toNat := UInt8.le_iff_toNat_le.mp above
    exact UInt8.toNat_inj.mp (Nat.le_antisymm below least)
  · rintro rfl
    decide

/-- Spaces are read as a gap. -/
theorem isGap_decode {bytes : List UInt8} (spaces : ∀ b ∈ bytes, b = 0x20) :
    IsGap (decode bytes).toList := by
  rw [toList_decode]
  intro c member
  obtain ⟨b, inside, rfl⟩ := List.mem_map.mp member
  rw [spaces b inside]
  decide

/-- Bytes that are neither spaces nor control keys are read as a word. -/
theorem isWord_decode {bytes : List UInt8} (given : bytes ≠ []) (above : ∀ b ∈ bytes, 0x20 ≤ b)
    (others : ∀ b ∈ bytes, b ≠ 0x20) : IsWord (decode bytes).toList where
  given := by
    rw [toList_decode]
    exact fun empty => given (List.map_eq_nil_iff.mp empty)
  solid := by
    rw [toList_decode]
    intro c member
    obtain ⟨b, inside, rfl⟩ := List.mem_map.mp member
    rw [charOf_mem_blanks_iff (above b inside)]
    exact others b inside

/-- Bytes that begin with a space, if there are any, break off a word. -/
theorem breaks_decode {bytes : List UInt8} (starts : ∀ b ∈ bytes.head?, b = 0x20) :
    Breaks (decode bytes).toList := by
  rw [toList_decode]
  intro c first
  rw [List.head?_map, Option.mem_def, Option.map_eq_some_iff] at first
  obtain ⟨b, head, rfl⟩ := first
  rw [starts b head]
  decide

end Latin1

/-- The first word among bytes that spaces separate. -/
def firstWord (bytes : List UInt8) : List UInt8 :=
  (bytes.dropWhile (· == 0x20)).takeWhile (· != 0x20)

/-- The first token of the text that bytes are read as is read from the first word among them. -/
theorem firstToken_decode {bytes : List UInt8} (above : ∀ b ∈ bytes, 0x20 ≤ b)
    (given : firstWord bytes ≠ []) :
    FirstToken (Latin1.decode bytes) (Latin1.decode (firstWord bytes)) := by
  let gap := bytes.takeWhile (· == 0x20)
  let behind := bytes.dropWhile (· == 0x20)
  let rest := behind.dropWhile (· != 0x20)
  have cut : gap ++ firstWord bytes ++ rest = bytes := by
    rw [List.append_assoc]
    have inner : firstWord bytes ++ rest = behind := List.takeWhile_append_dropWhile
    rw [inner]
    exact List.takeWhile_append_dropWhile
  have spaces : ∀ b ∈ gap, b = 0x20 := fun b inside =>
    eq_of_beq (List.mem_takeWhile_imp (p := (· == 0x20)) inside)
  have others : ∀ b ∈ firstWord bytes, b ≠ 0x20 := fun b inside =>
    bne_iff_ne.mp (List.mem_takeWhile_imp (p := (· != 0x20)) inside)
  have typed : ∀ b ∈ firstWord bytes, 0x20 ≤ b := by
    intro b inside
    refine above b ?_
    rw [← cut]
    exact List.mem_append_left rest (List.mem_append_right gap inside)
  have starts : ∀ b ∈ rest.head?, b = 0x20 := by
    intro b head
    have stops := List.head?_dropWhile_not (· != 0x20) behind
    rw [Option.mem_def.mp head] at stops
    simpa using stops
  refine ⟨Latin1.decode gap, Latin1.decode rest, ?_, Latin1.isGap_decode spaces,
    Latin1.isWord_decode given typed others, Latin1.breaks_decode starts⟩
  rw [← Latin1.decode_append, ← Latin1.decode_append, cut]

end BoardSupervisor.Text
