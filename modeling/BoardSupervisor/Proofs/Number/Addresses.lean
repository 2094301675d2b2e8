import BoardSupervisor.Proofs.Number.DigitRuns

/-!
# Addresses, whatever their length

Shifting digits together in sixteen bits is counting modulo 65536, so that an address is what is
left of the number at the front of its token. A hexadecimal mark is taken off before the number is
looked for, even where no digits follow it. An address can be written with the mark or without it,
in either case of letters and with zeros in front.
-/

namespace BoardSupervisor.Number

open Text

section Shifting

/-- A digit shifted in is a digit behind the number. -/
theorem shiftIn_ofNat (n : Nat) {d : Nat} (small : d < 16) :
    shiftIn (UInt16.ofNat n) d = UInt16.ofNat (n * 16 + d) := by
  have joined : n * 16 + d = n <<< 4 ||| d := by
    rw [← Nat.shiftLeft_add_eq_or_of_lt small, Nat.shiftLeft_eq]
  rw [joined, UInt16.ofNat_or, UInt16.ofNat_shiftLeft n 4 (by decide)]
  rfl

/-- Digits that are shifted together give what is left of their number. -/
theorem foldl_shiftIn (digits : List Nat) (small : ∀ d ∈ digits, d < 16) :
    digits.foldl shiftIn 0 = UInt16.ofNat (ofDigits 16 digits) := by
  induction digits using List.reverseRecOn with
  | nil => rfl
  | append_singleton digits d ih =>
    obtain ⟨front, last⟩ := List.forall_mem_append.mp small
    rw [List.foldl_append, ih front, List.foldl_cons, List.foldl_nil,
      shiftIn_ofNat _ (last d List.mem_cons_self), ofDigits_concat]

/-- The address of a token is shifted together from the longest run of digits behind the mark. -/
theorem leadingAddress_of_longest {token : String} {run : List Char}
    (longest : LongestWord (AreDigits 16) (dropHexMark token.toList) run) :
    leadingAddress token = UInt16.ofNat (ofDigits 16 (digitValues 16 run)) := by
  rw [leadingAddress, leadingDigits_of_longest longest]
  exact foldl_shiftIn _ fun d member => lt_of_mem_digitValues member

end Shifting

section Marks

/-- The hexadecimal mark, its letter in either case. -/
def IsHexMark (mark : List Char) : Prop := mark = ['0', 'x'] ∨ mark = ['0', 'X']

/-- What a text is without the mark in front of it, if there is one. -/
inductive Unmarked : List Char → List Char → Prop
  /-- There is one. -/
  | marked {mark : List Char} (isMark : IsHexMark mark) (body : List Char) :
    Unmarked (mark ++ body) body
  /-- There is none. -/
  | plain {text : List Char} (none : ∀ mark, IsHexMark mark → ¬ mark <+: text) :
    Unmarked text text

variable {text body rest digits run : List Char}

/-- A mark is dropped. -/
theorem dropHexMark_append {mark : List Char} (isMark : IsHexMark mark) (body : List Char) :
    dropHexMark (mark ++ body) = body := by
  rcases isMark with rfl | rfl <;> rfl

/-- Where there is no mark, nothing is found behind one. -/
theorem afterHexMark?_of_none (none : ∀ mark, IsHexMark mark → ¬ mark <+: text) :
    afterHexMark? text = .none := by
  cases found : afterHexMark? text with
  | none => rfl
  | some after =>
    obtain ⟨letter, isLetter, rfl⟩ := afterHexMark?_sound found
    have isMark : IsHexMark ['0', letter] := by rcases isLetter with rfl | rfl <;> simp [IsHexMark]
    exact absurd ⟨after, rfl⟩ (none ['0', letter] isMark)

/-- Where there is no mark, nothing is dropped. -/
theorem dropHexMark_of_none (none : ∀ mark, IsHexMark mark → ¬ mark <+: text) :
    dropHexMark text = text := by
  rw [dropHexMark, afterHexMark?_of_none none, Option.getD_none]

/-- A text begins with a mark or does not. -/
theorem marked_or_plain (text : List Char) :
    (∃ mark body, IsHexMark mark ∧ text = mark ++ body) ∨
      ∀ mark, IsHexMark mark → ¬ mark <+: text := by
  by_cases marked : ∃ mark, IsHexMark mark ∧ mark <+: text
  · obtain ⟨mark, isMark, body, rfl⟩ := marked
    exact .inl ⟨mark, body, isMark, rfl⟩
  · exact .inr fun mark isMark front => marked ⟨mark, isMark, front⟩

/-- What is dropped is the mark and nothing else. -/
theorem unmarked_iff : Unmarked text body ↔ dropHexMark text = body := by
  constructor
  · rintro (⟨isMark, _⟩ | none)
    · exact dropHexMark_append isMark body
    · exact dropHexMark_of_none none
  · rintro rfl
    rcases marked_or_plain text with ⟨mark, after, isMark, rfl⟩ | none
    · rw [dropHexMark_append isMark]
      exact .marked isMark after
    · rw [dropHexMark_of_none none]
      exact .plain none

/-- A text that goes on neither with a digit of an address nor with the letter of a mark. -/
def EndsAddress (rest : List Char) : Prop :=
  ∀ c after, rest = c :: after → isDigit 16 c = false ∧ c ≠ 'x' ∧ c ≠ 'X'

/-- Digits do not begin with a mark, unless the letter of a mark follows: its letter would be the
second digit, or the first character behind a single one. -/
theorem not_hexMark_of_digits (given : digits ≠ []) (all : AreDigits 16 digits)
    (ends : EndsAddress rest) : ∀ mark, IsHexMark mark → ¬ mark <+: digits ++ rest := by
  rintro mark isMark ⟨after, same⟩
  obtain ⟨letter, isLetter, rfl⟩ : ∃ letter, (letter = 'x' ∨ letter = 'X') ∧
      mark = ['0', letter] := by
    rcases isMark with rfl | rfl
    · exact ⟨'x', .inl rfl, rfl⟩
    · exact ⟨'X', .inr rfl, rfl⟩
  obtain ⟨first, others, rfl⟩ := List.exists_cons_of_ne_nil given
  have behind : letter :: after = others ++ rest := (List.cons.inj same).2
  cases others with
  | nil =>
    obtain ⟨-, small, capital⟩ := ends letter after behind.symm
    exact isLetter.elim small capital
  | cons second others =>
    obtain ⟨rfl, -⟩ := List.cons.inj behind
    have digit := all letter (by simp)
    rcases isLetter with rfl | rfl <;> revert digit <;> decide

/-- Folding keeps the values of digits. -/
theorem digitValues_fold (base : Nat) (text : List Char) :
    digitValues base (fold text) = digitValues base text := by
  have digit : digit? base ∘ Char.toLower = digit? base := funext (digit?_toLower base)
  unfold digitValues fold
  rw [List.filterMap_map, digit]

/-- Folding keeps digits. -/
theorem areDigits_of_fold {base : Nat} (all : AreDigits base (fold text)) :
    AreDigits base text := by
  intro c member
  have digit := all c.toLower (List.mem_map_of_mem member)
  rwa [isDigit, digit?_toLower] at digit

/-- Digits in either case that are those of a number stand for it. -/
theorem toDigits_of_fold {base n : Nat} (several : 1 < base) (bounded : base ≤ 16)
    (written : fold run = Nat.toDigits base n) :
    run ≠ [] ∧ AreDigits base run ∧ ofDigits base (digitValues base run) = n := by
  obtain ⟨all, denoted⟩ := toDigits_apply several bounded n
  refine ⟨?_, areDigits_of_fold (written ▸ all), ?_⟩
  · rintro rfl
    exact Nat.toDigits_ne_nil written.symm
  · rw [← digitValues_fold, written, denoted]

/-- Digits behind a mark or without one are read as what is left of their number. -/
theorem leadingAddress_append {mark : List Char} (marked : mark = [] ∨ IsHexMark mark)
    (given : digits ≠ []) (all : AreDigits 16 digits) (ends : EndsAddress rest) :
    leadingAddress (String.ofList (mark ++ (digits ++ rest))) =
      UInt16.ofNat (ofDigits 16 (digitValues 16 digits)) := by
  have dropped : dropHexMark (mark ++ (digits ++ rest)) = digits ++ rest := by
    rcases marked with rfl | isMark
    · rw [List.nil_append]
      exact dropHexMark_of_none (not_hexMark_of_digits given all ends)
    · exact dropHexMark_append isMark _
  have stops : EndsDigits 16 rest := fun c after same => (ends c after same).1
  rw [leadingAddress, String.toList_ofList, dropped, leadingDigits_append all,
    leadingDigits_of_ends stops, List.append_nil]
  exact foldl_shiftIn _ fun d member => lt_of_mem_digitValues member

/-- Digits in either case that are those of an address, any number of zeros in front of them, are
read as the address. -/
theorem leadingAddress_digits {n : UInt16} {mark : List Char} (marked : mark = [] ∨ IsHexMark mark)
    (zeros : Nat) (written : fold run = Nat.toDigits 16 n.toNat) (ends : EndsAddress rest) :
    leadingAddress (String.ofList (mark ++ (List.replicate zeros '0' ++ run ++ rest))) = n := by
  obtain ⟨given, all, denoted⟩ := toDigits_of_fold (by decide) (by decide) written
  have digits : AreDigits 16 (List.replicate zeros '0' ++ run) :=
    List.forall_mem_append.mpr ⟨areDigits_zeros (by decide) zeros, all⟩
  rw [leadingAddress_append marked (List.append_ne_nil_of_right_ne_nil _ given) digits ends,
    ofDigits_zeros_append (by decide) zeros, denoted, UInt16.ofNat_toNat]

/-- An address that is shown is read back. -/
theorem leadingAddress_hexWord (w : UInt16) {rest : String} (ends : EndsAddress rest.toList) :
    leadingAddress (hexWord w ++ rest) = w := by
  have given : lastHexDigits 4 w.toNat ≠ [] := by
    rw [← List.length_pos_iff, length_lastHexDigits]
    decide
  have all : AreDigits 16 (lastHexDigits 4 w.toNat) := by
    intro c member
    obtain ⟨d, rfl⟩ := exists_digitChar_of_mem member
    rw [isDigit, digit?_digitChar (Nat.le_refl 16) d.isLt, Option.isSome_some]
  have small : w.toNat < 16 ^ 4 := w.toNat_lt
  have shown : hexWord w ++ rest =
      String.ofList ([] ++ (lastHexDigits 4 w.toNat ++ rest.toList)) := by
    rw [List.nil_append, String.ofList_append, String.ofList_toList]
    rfl
  rw [shown, leadingAddress_append (.inl rfl) given all ends, digitValues_lastHexDigits,
    ofDigits_placeDigits, Nat.mod_eq_of_lt small, UInt16.ofNat_toNat]

end Marks

end BoardSupervisor.Number
