import BoardSupervisor.Frequency
import BoardSupervisor.Proofs.Number.Grammar

/-!
# The language of numbers

A number in front of a frequency is a decimal, a hexadecimal number or one of three words, with an
optional sign. Next to this language stands a reader for it that is put together from the readers of
digits, mantissas and exponents. It takes the longest number there is: a hexadecimal number goes
further than the zero that it begins with, and the words begin with letters that begin nothing else.
-/

namespace BoardSupervisor.Frequency

open Number

/-- The words that stand for numbers, in small letters. -/
def words : List (List Char) := ["infinity".toList, "inf".toList, "nan".toList]

/-- A number without a sign. -/
inductive IsUnsigned : List Char → Prop
  /-- A decimal. -/
  | decimal {numeral : List Char} (scaled : IsScaled 10 'e' 'E' numeral) : IsUnsigned numeral
  /-- A hexadecimal number with its mark. -/
  | hexadecimal {mark : Char} {numeral : List Char} (marked : mark = 'x' ∨ mark = 'X')
    (scaled : IsScaled 16 'p' 'P' numeral) : IsUnsigned ('0' :: mark :: numeral)
  /-- A word, in either case. -/
  | word {word : List Char} (listed : word.map Char.toLower ∈ words) : IsUnsigned word

/-- A number with an optional sign. -/
def IsNumber (text : List Char) : Prop :=
  ∃ sign numeral, IsSign sign ∧ IsUnsigned numeral ∧ text = sign ++ numeral

section Reading

variable {text rest : List Char}

/-- What follows the hexadecimal number that a text begins with. -/
def afterHexadecimal? (text : List Char) : Option (List Char) :=
  (afterHexMark? text).bind (afterScaled? 16 'p' 'P')

/-- What follows the word for a number that a text begins with. -/
def afterWord? (text : List Char) : Option (List Char) :=
  if (text.take 8).map Char.toLower = "infinity".toList then some (text.drop 8)
  else if (text.take 3).map Char.toLower ∈ words then some (text.drop 3)
  else none

/-- What follows the number without a sign that a text begins with. -/
def afterUnsigned? (text : List Char) : Option (List Char) :=
  (afterHexadecimal? text).or ((afterScaled? 10 'e' 'E' text).or (afterWord? text))

/-- What follows the number that a text begins with. -/
def afterNumber? (text : List Char) : Option (List Char) := afterUnsigned? (leadingSign text).2

/-- Decimals are read. -/
theorem reads_decimal : Reads (IsScaled 10 'e' 'E') (afterScaled? 10 'e' 'E') := by
  apply reads_scaled
  rintro mark (rfl | rfl) <;> decide

/-- What follows the mark of a hexadecimal number is read. -/
theorem reads_hexadecimal : Reads (IsScaled 16 'p' 'P') (afterScaled? 16 'p' 'P') := by
  apply reads_scaled
  rintro mark (rfl | rfl) <;> decide

/-- As a decimal, a hexadecimal number is a zero. -/
theorem afterScaled?_of_hexMark (found : afterHexMark? text = some rest) :
    ∃ mark, afterScaled? 10 'e' 'E' text = some (mark :: rest) := by
  obtain ⟨mark, marked, rfl⟩ := afterHexMark?_sound found
  have zero : IsMantissa 10 ['0'] := isMantissa_singleton (by decide)
  obtain ⟨left, taken, -, exact_left⟩ := afterMantissa?_append zero (mark :: rest)
  have ends : EndsMantissa 10 (mark :: rest) :=
    endsMantissa_cons (by rcases marked with rfl | rfl <;> decide) rest
  have noExponent : ¬ (mark = 'e' ∨ mark = 'E') := by rcases marked with rfl | rfl <;> decide
  refine ⟨mark, ?_⟩
  rw [afterScaled?, ← List.singleton_append, taken, exact_left ends, Option.map_some, afterExponent,
    leadingExponent, if_neg noExponent]

/-- A word for a number begins with one of two letters. -/
theorem head_of_word {word : List Char} (listed : word.map Char.toLower ∈ words) :
    ∃ c tail, word = c :: tail ∧ (c.toLower = 'i' ∨ c.toLower = 'n') := by
  cases word with
  | nil => exact absurd listed (by decide)
  | cons c tail =>
    refine ⟨c, tail, rfl, ?_⟩
    simp only [words, List.mem_cons, List.map_cons, List.not_mem_nil, or_false] at listed
    rcases listed with same | same | same
    · exact .inl (List.cons.inj same).1
    · exact .inl (List.cons.inj same).1
    · exact .inr (List.cons.inj same).1

/-- A letter that begins a word for a number begins no other number. -/
theorem not_mantissa_of_letter {c : Char} (letter : c.toLower = 'i' ∨ c.toLower = 'n') :
    (isDigit 10 c = false ∧ c ≠ '.') ∧ c ≠ '0' ∧ c ≠ '+' ∧ c ≠ '-' := by
  have digit : isDigit 10 c = false := by
    rw [isDigit, ← digit?_toLower]
    rcases letter with same | same <;> rw [same] <;> decide
  refine ⟨⟨digit, ?_⟩, ?_, ?_, ?_⟩
  all_goals
    rintro rfl
    exact absurd letter (by decide)

/-- No mantissa is read from a text that begins with neither a digit nor a point. -/
theorem afterMantissa?_of_ends {base : Nat} {c : Char} (other : isDigit base c = false ∧ c ≠ '.')
    (rest : List Char) : afterMantissa? base (c :: rest) = none := by
  rw [afterMantissa?, leadingMantissa?_eq, leadingDigits_of_not other.1]
  dsimp only
  rw [leadingFraction_cons, if_neg other.2]
  rfl

/-- A word in front of a text is not read as anything else. -/
theorem not_numeral_of_word {word : List Char} (listed : word.map Char.toLower ∈ words)
    (rest : List Char) :
    afterHexMark? (word ++ rest) = none ∧ afterMantissa? 10 (word ++ rest) = none ∧
      Unsigned word := by
  obtain ⟨c, tail, rfl, letter⟩ := head_of_word listed
  obtain ⟨other, zero, plus, minus⟩ := not_mantissa_of_letter letter
  refine ⟨?_, afterMantissa?_of_ends other _, ⟨c, tail, rfl, plus, minus⟩⟩
  cases found : afterHexMark? (c :: tail ++ rest) with
  | none => rfl
  | some digits =>
    obtain ⟨mark, -, text_eq⟩ := afterHexMark?_sound found
    exact absurd (List.cons.inj text_eq).1 zero

/-- The long word is taken whole. -/
theorem afterWord?_long {word : List Char} (long : word.map Char.toLower = "infinity".toList)
    (rest : List Char) : afterWord? (word ++ rest) = some rest := by
  have eight : word.length = 8 := by simpa using congrArg List.length long
  rw [afterWord?, ← eight, List.take_left, List.drop_left, if_pos long]

/-- The words are read. -/
theorem reads_word : Reads (fun word => word.map Char.toLower ∈ words) afterWord? := by
  constructor
  · intro text rest taken
    unfold afterWord? at taken
    split at taken
    · next long =>
      cases taken
      exact ⟨text.take 8, by rw [long]; decide, (text.take_append_drop 8).symm⟩
    · split at taken
      · next short =>
        cases taken
        exact ⟨text.take 3, short, (text.take_append_drop 3).symm⟩
      · cases taken
  · intro word listed rest
    have lengths : word.map Char.toLower = "infinity".toList ∨ word.length = 3 := by
      simp only [words, List.mem_cons, List.not_mem_nil, or_false] at listed
      rcases listed with same | same | same
      · exact .inl same
      · exact .inr (by simpa using congrArg List.length same)
      · exact .inr (by simpa using congrArg List.length same)
    rcases lengths with long | three
    · exact ⟨rest, afterWord?_long long rest, Nat.le_refl _⟩
    · unfold afterWord?
      split
      · refine ⟨_, rfl, ?_⟩
        simp only [List.length_drop, List.length_append]
        omega
      · rw [← three, List.take_left, List.drop_left, if_pos listed]
        exact ⟨rest, rfl, Nat.le_refl _⟩

/-- Numbers without a sign are read. In front of a hexadecimal number the decimal one is the zero
before its mark, so that the hexadecimal one goes further. -/
theorem reads_unsigned : Reads IsUnsigned afterUnsigned? := by
  constructor
  · intro text rest taken
    unfold afterUnsigned? at taken
    rcases Option.or_eq_some_iff.mp taken with hexadecimal | ⟨-, others⟩
    · obtain ⟨digits, found, behind⟩ := Option.bind_eq_some_iff.mp hexadecimal
      obtain ⟨mark, marked, rfl⟩ := afterHexMark?_sound found
      obtain ⟨numeral, scaled, rfl⟩ := reads_hexadecimal.sound digits rest behind
      exact ⟨'0' :: mark :: numeral, .hexadecimal marked scaled, rfl⟩
    · rcases Option.or_eq_some_iff.mp others with decimal | ⟨-, word⟩
      · obtain ⟨numeral, scaled, text_eq⟩ := reads_decimal.sound text rest decimal
        exact ⟨numeral, .decimal scaled, text_eq⟩
      · obtain ⟨word, listed, text_eq⟩ := reads_word.sound text rest word
        exact ⟨word, .word listed, text_eq⟩
  · intro numeral isUnsigned rest
    unfold afterUnsigned?
    cases isUnsigned with
    | decimal scaled =>
      obtain ⟨left, taken, shorter⟩ := reads_decimal.greedy numeral scaled rest
      cases hexadecimal : afterHexadecimal? (numeral ++ rest) with
      | none => exact ⟨left, by rw [taken]; rfl, shorter⟩
      | some behind =>
        obtain ⟨digits, found, further⟩ := Option.bind_eq_some_iff.mp hexadecimal
        obtain ⟨mark, zero⟩ := afterScaled?_of_hexMark found
        obtain ⟨front, -, digits_eq⟩ := reads_hexadecimal.sound digits behind further
        rw [taken] at zero
        cases zero
        have lengths := congrArg List.length digits_eq
        rw [List.length_append] at lengths
        rw [List.length_cons] at shorter
        exact ⟨behind, rfl, by omega⟩
    | @hexadecimal mark numeral marked scaled =>
      obtain ⟨left, taken, shorter⟩ := reads_hexadecimal.greedy numeral scaled rest
      have found : afterHexMark? ('0' :: mark :: numeral ++ rest) = some (numeral ++ rest) := by
        rw [List.cons_append, List.cons_append, afterHexMark?_cons_cons, if_pos ⟨rfl, marked⟩]
      have hexadecimal : afterHexadecimal? ('0' :: mark :: numeral ++ rest) = some left := by
        rw [afterHexadecimal?, found]
        exact taken
      exact ⟨left, by rw [hexadecimal]; rfl, shorter⟩
    | word listed =>
      obtain ⟨left, taken, shorter⟩ := reads_word.greedy numeral listed rest
      obtain ⟨noMark, noMantissa, -⟩ := not_numeral_of_word listed rest
      refine ⟨left, ?_, shorter⟩
      rw [afterHexadecimal?, noMark, afterScaled?, noMantissa]
      exact taken

/-- A number without a sign does not begin with one. -/
theorem IsUnsigned.unsigned {numeral : List Char} (isUnsigned : IsUnsigned numeral) :
    Unsigned numeral := by
  cases isUnsigned with
  | decimal scaled =>
    obtain ⟨isMantissa, -⟩ := scaled
    exact isMantissa.unsigned.append _
  | hexadecimal marked scaled => exact ⟨'0', _, rfl, by decide, by decide⟩
  | word listed => exact (not_numeral_of_word listed []).2.2

/-- Numbers are read. -/
theorem reads_number : Reads IsNumber afterNumber? :=
  reads_unsigned.signed fun _ isUnsigned => isUnsigned.unsigned

end Reading

end BoardSupervisor.Frequency
