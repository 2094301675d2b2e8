import BoardSupervisor.Number.Decimal
import BoardSupervisor.Proofs.Number.LetterCase

/-!
# Numerals as a language

Signs, mantissas and exponents are told here as texts, apart from the readers that look for them at
the front of a token. A reader reads a language if what it takes is a word of it and no longer word
stands there; it then takes the longest one. Mantissas with an exponent are read in this sense, in
either base, where a mark without a complete exponent is left to the rest.
-/

namespace BoardSupervisor.Number

/-- The longest word of a language at the front of a text. -/
structure LongestWord (language : List Char → Prop) (text word : List Char) : Prop where
  /-- It is a word of the language. -/
  member : language word
  /-- It stands at the front. -/
  front : word <+: text
  /-- No word there is longer. -/
  longest : ∀ other, language other → other <+: text → other.length ≤ word.length

/-- A reader takes a word of a language from the front of a text when there is one, and as much at
least as any of them, and hands back what follows. -/
structure Reads (language : List Char → Prop) (reader : List Char → Option (List Char)) : Prop where
  /-- What is taken is a word. -/
  sound : ∀ text rest, reader text = some rest → ∃ word, language word ∧ text = word ++ rest
  /-- Not less is taken than a word that stands there. -/
  greedy : ∀ word, language word → ∀ rest,
    ∃ left, reader (word ++ rest) = some left ∧ left.length ≤ rest.length

namespace Reads

variable {language : List Char → Prop} {reader : List Char → Option (List Char)}
  {text rest : List Char}

/-- A reader takes nothing exactly when no word stands at the front. -/
theorem eq_none_iff (reads : Reads language reader) :
    reader text = none ↔ ∀ word, language word → ¬ word <+: text := by
  constructor
  · rintro nothing word member ⟨rest, rfl⟩
    obtain ⟨left, taken, -⟩ := reads.greedy word member rest
    rw [nothing] at taken
    cases taken
  · intro none
    cases taken : reader text with
    | none => rfl
    | some rest =>
      obtain ⟨word, member, rfl⟩ := reads.sound text rest taken
      exact absurd (List.prefix_append word rest) (none word member)

/-- A reader takes the longest word that stands at the front. -/
theorem eq_some_iff (reads : Reads language reader) :
    reader text = some rest ↔ ∃ word, LongestWord language text word ∧ text = word ++ rest := by
  constructor
  · intro taken
    obtain ⟨word, member, rfl⟩ := reads.sound text rest taken
    refine ⟨word, ⟨member, List.prefix_append word rest, ?_⟩, rfl⟩
    rintro other otherMember ⟨otherRest, same⟩
    obtain ⟨left, again, short⟩ := reads.greedy other otherMember otherRest
    rw [same, taken] at again
    cases again
    have lengths := congrArg List.length same
    rw [List.length_append, List.length_append] at lengths
    omega
  · rintro ⟨word, longest, rfl⟩
    obtain ⟨left, taken, short⟩ := reads.greedy word longest.member rest
    obtain ⟨other, otherMember, same⟩ := reads.sound _ left taken
    have notLonger := longest.longest other otherMember ⟨left, same.symm⟩
    have lengths := congrArg List.length same
    rw [List.length_append, List.length_append] at lengths
    have left_eq : rest = left := (List.append_inj' same (by omega)).2
    rw [left_eq] at taken ⊢
    exact taken

end Reads

/-- A sign, or none. -/
inductive IsSign : List Char → Prop
  /-- No sign. -/
  | absent : IsSign []
  /-- A plus. -/
  | plus : IsSign ['+']
  /-- A minus. -/
  | minus : IsSign ['-']

/-- Whether a sign is a minus. -/
def isMinus (sign : List Char) : Bool := sign == ['-']

/-- A text of digits. -/
def AreDigits (base : Nat) (text : List Char) : Prop := ∀ c ∈ text, isDigit base c = true

/-- A mantissa: digits with an optional point, and at least one digit. -/
inductive IsMantissa (base : Nat) : List Char → Prop
  /-- Digits. -/
  | whole {digits : List Char} (given : digits ≠ []) (all : AreDigits base digits) :
    IsMantissa base digits
  /-- Digits around a point. -/
  | pointed {whole fraction : List Char} (given : whole ++ fraction ≠ [])
    (all : AreDigits base whole) (allAfter : AreDigits base fraction) :
    IsMantissa base (whole ++ '.' :: fraction)

/-- An exponent, or none: a mark in either case, an optional sign and at least one digit. -/
inductive IsExponent (small capital : Char) : List Char → Prop
  /-- No exponent. -/
  | absent : IsExponent small capital []
  /-- A complete exponent. -/
  | complete {mark : Char} {sign digits : List Char} (marked : mark = small ∨ mark = capital)
    (signed : IsSign sign) (given : digits ≠ []) (all : AreDigits 10 digits) :
    IsExponent small capital (mark :: (sign ++ digits))

/-- A mantissa with an optional exponent behind it. -/
inductive IsScaled (base : Nat) (small capital : Char) : List Char → Prop
  /-- The two parts. -/
  | mk {mantissa exponent : List Char} (isMantissa : IsMantissa base mantissa)
    (isExponent : IsExponent small capital exponent) :
    IsScaled base small capital (mantissa ++ exponent)

section Digits

variable {base : Nat} {c : Char}

/-- What is no hexadecimal digit is no digit. -/
theorem isDigit_of_hexDigit? (other : hexDigit? c = none) : isDigit base c = false := by
  rw [isDigit, digit?, other]
  rfl

/-- A point is no digit. -/
theorem isDigit_point : isDigit base '.' = false := isDigit_of_hexDigit? (by decide)

/-- In a run of digits the only text without values is the empty one. -/
theorem digitValues_eq_nil_iff {digits : List Char} (all : AreDigits base digits) :
    digitValues base digits = [] ↔ digits = [] := by
  rw [← List.length_eq_zero_iff, length_digitValues all, List.length_eq_zero_iff]

/-- Digits in front of a text are read with the digits that the text begins with. -/
theorem leadingDigits_append {digits : List Char} (all : AreDigits base digits)
    (rest : List Char) :
    leadingDigits base (digits ++ rest) =
      (digitValues base digits ++ (leadingDigits base rest).1, (leadingDigits base rest).2) := by
  unfold leadingDigits digitValues
  rw [List.takeWhile_append_of_pos all, List.dropWhile_append_of_pos all, List.filterMap_append]

/-- No digits are read from a text that begins with something else. -/
theorem leadingDigits_of_not (other : isDigit base c = false) (rest : List Char) :
    leadingDigits base (c :: rest) = ([], c :: rest) := by
  simp [leadingDigits, digitValues, other]

/-- What is read as digits are digits. -/
theorem leadingDigits_sound (base : Nat) (text : List Char) :
    ∃ digits, AreDigits base digits ∧ text = digits ++ (leadingDigits base text).2 ∧
      (leadingDigits base text).1 = digitValues base digits :=
  ⟨text.takeWhile (isDigit base), List.all_eq_true.mp List.all_takeWhile,
    List.takeWhile_append_dropWhile.symm, rfl⟩

/-- What follows digits is not longer than the text. -/
theorem length_leadingDigits_le (base : Nat) (text : List Char) :
    (leadingDigits base text).2.length ≤ text.length :=
  (List.dropWhile_suffix _).length_le

end Digits

section Fronts

/-- A text that begins with something other than a sign. -/
def Unsigned (text : List Char) : Prop := ∃ c rest, text = c :: rest ∧ c ≠ '+' ∧ c ≠ '-'

/-- A text without a sign stays so, whatever follows. -/
theorem Unsigned.append {text : List Char} (unsigned : Unsigned text) (rest : List Char) :
    Unsigned (text ++ rest) := by
  obtain ⟨c, after, rfl, plus, minus⟩ := unsigned
  exact ⟨c, after ++ rest, rfl, plus, minus⟩

/-- A sign and whether it is a minus are read off in front of a text without one. -/
theorem leadingSign_eq {sign body : List Char} (signed : IsSign sign)
    (unsigned : Unsigned body) : leadingSign (sign ++ body) = (isMinus sign, body) := by
  obtain ⟨c, rest, rfl, plus, minus⟩ := unsigned
  cases signed with
  | absent =>
    rw [List.nil_append, leadingSign_cons, if_neg plus, if_neg minus]
    rfl
  | plus => rfl
  | minus => rfl

/-- A sign is read off in front of a text without one. -/
theorem leadingSign_append {sign body : List Char} (signed : IsSign sign)
    (unsigned : Unsigned body) : (leadingSign (sign ++ body)).2 = body := by
  rw [leadingSign_eq signed unsigned]

/-- What is read off as a sign is one. -/
theorem leadingSign_sound (text : List Char) :
    ∃ sign, IsSign sign ∧ text = sign ++ (leadingSign text).2 ∧
      (leadingSign text).1 = isMinus sign := by
  cases text with
  | nil => exact ⟨[], .absent, rfl, rfl⟩
  | cons c rest =>
    rw [leadingSign_cons]
    by_cases plus : c = '+'
    · exact ⟨['+'], .plus, by simp [plus], by simp [plus, isMinus]⟩
    · by_cases minus : c = '-'
      · exact ⟨['-'], .minus, by simp [minus], by simp [minus, isMinus]⟩
      · exact ⟨[], .absent, by simp [plus, minus], by simp [plus, minus, isMinus]⟩

/-- A digit is no sign. -/
theorem unsigned_of_digit {base : Nat} {c : Char} (digit : isDigit base c = true)
    (rest : List Char) : Unsigned (c :: rest) := by
  refine ⟨c, rest, rfl, ?_, ?_⟩
  all_goals
    rintro rfl
    rw [isDigit_of_hexDigit? (by decide)] at digit
    cases digit

/-- A reader of a language in which no word begins with a sign reads it with a sign in front. -/
theorem Reads.signed {language : List Char → Prop} {reader : List Char → Option (List Char)}
    (reads : Reads language reader) (unsigned : ∀ word, language word → Unsigned word) :
    Reads (fun text => ∃ sign word, IsSign sign ∧ language word ∧ text = sign ++ word)
      fun text => reader (leadingSign text).2 := by
  constructor
  · intro text rest taken
    obtain ⟨sign, signed, text_eq, -⟩ := leadingSign_sound text
    obtain ⟨word, member, body_eq⟩ := reads.sound _ rest taken
    refine ⟨sign ++ word, ⟨sign, word, signed, member, rfl⟩, ?_⟩
    rw [List.append_assoc, ← body_eq]
    exact text_eq
  · rintro _ ⟨sign, word, signed, member, rfl⟩ rest
    rw [List.append_assoc, leadingSign_append signed ((unsigned word member).append rest)]
    exact reads.greedy word member rest

/-- A text with a hexadecimal mark, and what follows the mark. -/
theorem afterHexMark?_sound {text rest : List Char}
    (found : afterHexMark? text = some rest) :
    ∃ mark, (mark = 'x' ∨ mark = 'X') ∧ text = '0' :: mark :: rest := by
  match text with
  | [] => cases found
  | [c] => rw [afterHexMark?_singleton] at found; cases found
  | c :: d :: others =>
    rw [afterHexMark?_cons_cons] at found
    split at found
    · next mark =>
      cases found
      exact ⟨d, mark.2, by rw [mark.1]⟩
    · cases found

end Fronts

section Exponents

/-- An integer is read as a sign and then as digits. -/
theorem leadingInteger?_eq (text : List Char) :
    leadingInteger? text =
      let digits := leadingDigits 10 (leadingSign text).2
      if digits.1 = [] then none
      else some (withSign (leadingSign text).1 (ofDigits 10 digits.1), digits.2) := by
  unfold leadingInteger?
  dsimp only
  split <;> simp_all

/-- An integer is read from a sign and digits, with the digits that follow. -/
theorem leadingInteger?_append {sign digits : List Char} (signed : IsSign sign)
    (given : digits ≠ []) (all : AreDigits 10 digits) (rest : List Char) :
    leadingInteger? (sign ++ digits ++ rest) =
      some (withSign (isMinus sign)
        (ofDigits 10 (digitValues 10 digits ++ (leadingDigits 10 rest).1)),
        (leadingDigits 10 rest).2) := by
  obtain ⟨c, others, rfl⟩ := List.exists_cons_of_ne_nil given
  have unsigned : Unsigned (c :: others ++ rest) :=
    unsigned_of_digit (all c List.mem_cons_self) (others ++ rest)
  have values := mt (digitValues_eq_nil_iff all).mp given
  rw [leadingInteger?_eq, List.append_assoc, leadingSign_eq signed unsigned,
    leadingDigits_append all]
  dsimp only
  rw [if_neg (by simp [values])]

/-- What is read as an integer is a sign and digits, and the integer is theirs. -/
theorem leadingInteger?_sound {text rest : List Char} {n : Int}
    (taken : leadingInteger? text = some (n, rest)) :
    ∃ sign digits, IsSign sign ∧ digits ≠ [] ∧ AreDigits 10 digits ∧
      text = sign ++ digits ++ rest ∧
        n = withSign (isMinus sign) (ofDigits 10 (digitValues 10 digits)) := by
  obtain ⟨sign, signed, text_eq, negative⟩ := leadingSign_sound text
  obtain ⟨digits, all, body_eq, values⟩ := leadingDigits_sound 10 (leadingSign text).2
  rw [leadingInteger?_eq] at taken
  dsimp only at taken
  simp only [values, digitValues_eq_nil_iff all] at taken
  split at taken
  · cases taken
  · next given =>
    cases taken
    refine ⟨sign, digits, signed, given, all, ?_, by rw [negative]⟩
    rw [List.append_assoc, ← body_eq]
    exact text_eq

/-- The value of an exponent, zero for none. -/
def exponentValue : List Char → Int
  | [] => 0
  | _ :: text => withSign (text.head? == some '-') (ofDigits 10 (digitValues 10 text))

/-- The value of a complete exponent is that of its digits behind its sign. -/
theorem exponentValue_complete {mark : Char} {sign digits : List Char} (signed : IsSign sign)
    (given : digits ≠ []) (all : AreDigits 10 digits) :
    exponentValue (mark :: (sign ++ digits)) =
      withSign (isMinus sign) (ofDigits 10 (digitValues 10 digits)) := by
  obtain ⟨c, others, rfl⟩ := List.exists_cons_of_ne_nil given
  obtain ⟨_, _, same, -, minus⟩ := unsigned_of_digit (all c List.mem_cons_self) others
  obtain ⟨rfl, rfl⟩ := List.cons.inj same
  cases signed with
  | absent =>
    have other : (c == '-') = false := beq_false_of_ne minus
    simp [exponentValue, isMinus, other]
  | plus => rfl
  | minus => rfl

variable (small capital : Char)

/-- What follows the exponent that a text may begin with. -/
def afterExponent (text : List Char) : List Char :=
  match leadingExponent small capital text with
  | .complete _ rest => rest
  | _ => text

/-- What is read as an exponent is one, and its value is read. -/
theorem leadingExponent_sound {text rest : List Char} {n : Int}
    (taken : leadingExponent small capital text = .complete n rest) :
    ∃ exponent, exponent ≠ [] ∧ IsExponent small capital exponent ∧ text = exponent ++ rest ∧
      n = exponentValue exponent := by
  cases text with
  | nil => cases taken
  | cons mark behind =>
    rw [leadingExponent] at taken
    split at taken
    · next marked =>
      cases found : leadingInteger? behind with
      | none => rw [found] at taken; cases taken
      | some integer =>
        obtain ⟨value, after⟩ := integer
        rw [found] at taken
        cases taken
        obtain ⟨sign, digits, signed, given, all, rfl, rfl⟩ := leadingInteger?_sound found
        refine ⟨mark :: (sign ++ digits), nofun, .complete marked signed given all, rfl, ?_⟩
        rw [exponentValue_complete signed given all]
    · cases taken

/-- What is taken as an exponent is one, or nothing. -/
theorem afterExponent_sound (text : List Char) :
    ∃ exponent, IsExponent small capital exponent ∧
      text = exponent ++ afterExponent small capital text := by
  unfold afterExponent
  cases taken : leadingExponent small capital text with
  | absent => exact ⟨[], .absent, rfl⟩
  | incomplete => exact ⟨[], .absent, rfl⟩
  | complete n rest =>
    obtain ⟨exponent, -, isExponent, text_eq, -⟩ := leadingExponent_sound small capital taken
    exact ⟨exponent, isExponent, text_eq⟩

variable {small capital}

/-- As much is taken as any exponent that stands there. -/
theorem length_afterExponent_le {exponent : List Char}
    (isExponent : IsExponent small capital exponent) (rest : List Char) :
    (afterExponent small capital (exponent ++ rest)).length ≤ rest.length := by
  cases isExponent with
  | absent =>
    obtain ⟨exponent, -, rest_eq⟩ := afterExponent_sound small capital rest
    have lengths := congrArg List.length rest_eq
    rw [List.length_append] at lengths
    rw [List.nil_append]
    omega
  | complete marked signed given all =>
    rw [List.cons_append, afterExponent, leadingExponent, if_pos marked,
      leadingInteger?_append signed given all rest]
    exact length_leadingDigits_le 10 rest

end Exponents

section Mantissas

variable {base : Nat}

/-- The values of the digits before the point of a mantissa. -/
def wholeDigits (base : Nat) (mantissa : List Char) : List Nat :=
  digitValues base (mantissa.takeWhile (· != '.'))

/-- The values of the digits behind the point of a mantissa. -/
def fractionDigits (base : Nat) (mantissa : List Char) : List Nat :=
  digitValues base ((mantissa.dropWhile (· != '.')).drop 1)

/-- Digits are no points. -/
theorem AreDigits.ne_point {digits : List Char} (all : AreDigits base digits) :
    ∀ c ∈ digits, (c != '.') = true := by
  intro c member
  rw [bne_iff_ne]
  rintro rfl
  have digit := all '.' member
  rw [isDigit_point] at digit
  cases digit

/-- The digits of a mantissa without a point are all before it. -/
theorem digits_of_whole {digits : List Char} (all : AreDigits base digits) :
    wholeDigits base digits = digitValues base digits ∧ fractionDigits base digits = [] := by
  have digits_eq : digits = digits ++ [] := (List.append_nil digits).symm
  unfold wholeDigits fractionDigits
  rw [digits_eq, List.takeWhile_append_of_pos all.ne_point,
    List.dropWhile_append_of_pos all.ne_point]
  exact ⟨rfl, rfl⟩

/-- The digits of a mantissa with a point are those on its two sides. -/
theorem digits_of_pointed {whole : List Char} (all : AreDigits base whole)
    (fraction : List Char) :
    wholeDigits base (whole ++ '.' :: fraction) = digitValues base whole ∧
      fractionDigits base (whole ++ '.' :: fraction) = digitValues base fraction := by
  unfold wholeDigits fractionDigits
  rw [List.takeWhile_append_of_pos all.ne_point, List.dropWhile_append_of_pos all.ne_point]
  simp

/-- A digit is a mantissa. -/
theorem isMantissa_singleton {c : Char} (digit : isDigit base c = true) : IsMantissa base [c] :=
  .whole (List.cons_ne_nil c []) (List.forall_mem_singleton.mpr digit)

/-- What follows the mantissa that a text begins with, if it begins with one. -/
def afterMantissa? (base : Nat) (text : List Char) : Option (List Char) :=
  (leadingMantissa? base text).map fun (_, _, rest) => rest

/-- What may stand behind a mantissa so that it does not go on. -/
def EndsMantissa (base : Nat) (rest : List Char) : Prop :=
  ∀ c after, rest = c :: after → isDigit base c = false ∧ c ≠ '.'

/-- A character that is neither a digit nor a point ends a mantissa. -/
theorem endsMantissa_cons {c : Char} (other : isDigit base c = false ∧ c ≠ '.')
    (rest : List Char) : EndsMantissa base (c :: rest) := by
  rintro _ _ ⟨⟩
  exact other

/-- What follows a fraction is not longer than the text. -/
theorem length_leadingFraction_le (base : Nat) (text : List Char) :
    (leadingFraction base text).2.length ≤ text.length := by
  cases text with
  | nil => exact Nat.le_refl _
  | cons c rest =>
    rw [leadingFraction_cons]
    split
    · have shorter := length_leadingDigits_le base rest
      rw [List.length_cons]
      omega
    · exact Nat.le_refl _

/-- A mantissa with text behind it is read with what makes it longer. -/
theorem afterMantissa?_append {mantissa : List Char} (isMantissa : IsMantissa base mantissa)
    (rest : List Char) :
    ∃ left, afterMantissa? base (mantissa ++ rest) = some left ∧ left.length ≤ rest.length ∧
      (EndsMantissa base rest → left = rest) := by
  have digitsEnd : EndsMantissa base rest → leadingDigits base rest = ([], rest) := by
    intro ends
    cases rest with
    | nil => rfl
    | cons c after => exact leadingDigits_of_not (ends c after rfl).1 after
  unfold afterMantissa?
  rw [leadingMantissa?_eq]
  cases isMantissa with
  | whole given all =>
    rw [leadingDigits_append all]
    have values := mt (digitValues_eq_nil_iff all).mp given
    refine ⟨(leadingFraction base (leadingDigits base rest).2).2, by simp [values], ?_, ?_⟩
    · exact Nat.le_trans (length_leadingFraction_le base _) (length_leadingDigits_le base rest)
    · intro ends
      rw [digitsEnd ends]
      cases rest with
      | nil => rfl
      | cons c after => rw [leadingFraction_cons, if_neg (ends c after rfl).2]
  | @pointed whole fraction given all allAfter =>
    have values : digitValues base whole ≠ [] ∨ digitValues base fraction ≠ [] := by
      rw [Ne, Ne, digitValues_eq_nil_iff all, digitValues_eq_nil_iff allAfter]
      by_cases before : whole = []
      · exact .inr (by simpa [before] using given)
      · exact .inl before
    rw [List.append_assoc, leadingDigits_append all, List.cons_append,
      leadingDigits_of_not isDigit_point]
    refine ⟨(leadingDigits base rest).2, ?_, length_leadingDigits_le base rest, ?_⟩
    · dsimp only
      rw [leadingFraction_cons, if_pos rfl, leadingDigits_append allAfter]
      rcases values with values | values <;> simp [values]
    · intro ends
      rw [digitsEnd ends]

/-- What is read as a mantissa is one, and the digits on both sides of its point are read. -/
theorem leadingMantissa?_sound {text rest : List Char} {before behind : List Nat}
    (taken : leadingMantissa? base text = some (before, behind, rest)) :
    ∃ mantissa, IsMantissa base mantissa ∧ text = mantissa ++ rest ∧
      before = wholeDigits base mantissa ∧ behind = fractionDigits base mantissa := by
  obtain ⟨whole, all, text_eq, values⟩ := leadingDigits_sound base text
  rw [leadingMantissa?_eq] at taken
  dsimp only at taken
  generalize (leadingDigits base text).2 = others at taken text_eq
  rw [values] at taken
  have withoutPoint : leadingFraction base others = ([], others) →
      ∃ mantissa, IsMantissa base mantissa ∧ text = mantissa ++ rest ∧
        before = wholeDigits base mantissa ∧ behind = fractionDigits base mantissa := by
    intro plain
    rw [plain] at taken
    split at taken
    · cases taken
    · next given =>
      cases taken
      obtain ⟨wholeValues, fractionValues⟩ := digits_of_whole all
      refine ⟨whole, .whole ?_ all, text_eq, wholeValues.symm, fractionValues.symm⟩
      rintro rfl
      exact given rfl
  cases others with
  | nil => exact withoutPoint rfl
  | cons c after =>
    by_cases point : c = '.'
    · obtain ⟨fraction, allAfter, after_eq, valuesAfter⟩ := leadingDigits_sound base after
      rw [leadingFraction_cons, if_pos point, valuesAfter] at taken
      split at taken
      · cases taken
      · next given =>
        cases taken
        obtain ⟨wholeValues, fractionValues⟩ := digits_of_pointed all fraction
        refine ⟨whole ++ '.' :: fraction, .pointed ?_ all allAfter, ?_, wholeValues.symm,
          fractionValues.symm⟩
        · rw [Ne, List.append_eq_nil_iff]
          rintro ⟨rfl, rfl⟩
          exact given rfl
        · rw [List.append_assoc, List.cons_append, ← after_eq, ← point]
          exact text_eq
    · exact withoutPoint (by rw [leadingFraction_cons, if_neg point])

/-- What is taken as a mantissa is one. -/
theorem afterMantissa?_sound {text rest : List Char}
    (taken : afterMantissa? base text = some rest) :
    ∃ mantissa, IsMantissa base mantissa ∧ text = mantissa ++ rest := by
  obtain ⟨⟨before, behind, _⟩, found, rfl⟩ := Option.map_eq_some_iff.mp taken
  obtain ⟨mantissa, isMantissa, text_eq, -⟩ := leadingMantissa?_sound found
  exact ⟨mantissa, isMantissa, text_eq⟩

/-- A mantissa is without a sign. -/
theorem IsMantissa.unsigned {mantissa : List Char} (isMantissa : IsMantissa base mantissa) :
    Unsigned mantissa := by
  cases isMantissa with
  | whole given all =>
    obtain ⟨c, rest, rfl⟩ := List.exists_cons_of_ne_nil given
    exact unsigned_of_digit (all c List.mem_cons_self) rest
  | @pointed whole fraction given all allAfter =>
    cases whole with
    | nil => exact ⟨'.', fraction, rfl, by decide, by decide⟩
    | cons c rest => exact unsigned_of_digit (all c List.mem_cons_self) _

/-- A mantissa consists of digits and points. -/
theorem IsMantissa.mem {mantissa : List Char} (isMantissa : IsMantissa base mantissa) {c : Char}
    (member : c ∈ mantissa) : isDigit base c = true ∨ c = '.' := by
  cases isMantissa with
  | whole given all => exact .inl (all c member)
  | pointed given all allAfter =>
    rw [List.mem_append, List.mem_cons] at member
    rcases member with before | point | after
    · exact .inl (all c before)
    · exact .inr point
    · exact .inl (allAfter c after)

variable {small capital : Char}

/-- What follows the mantissa and the exponent that a text begins with, if it begins with a
mantissa. -/
def afterScaled? (base : Nat) (small capital : Char) (text : List Char) : Option (List Char) :=
  (afterMantissa? base text).map (afterExponent small capital)

/-- Mantissas with an exponent are read, if the marks of exponents end a mantissa. -/
theorem reads_scaled (ends : ∀ mark, mark = small ∨ mark = capital →
    isDigit base mark = false ∧ mark ≠ '.') :
    Reads (IsScaled base small capital) (afterScaled? base small capital) := by
  constructor
  · intro text rest taken
    obtain ⟨behind, found, rfl⟩ := Option.map_eq_some_iff.mp taken
    obtain ⟨mantissa, isMantissa, rfl⟩ := afterMantissa?_sound found
    obtain ⟨exponent, isExponent, behind_eq⟩ := afterExponent_sound small capital behind
    refine ⟨mantissa ++ exponent, ⟨isMantissa, isExponent⟩, ?_⟩
    rw [List.append_assoc, ← behind_eq]
  · rintro _ ⟨isMantissa, isExponent⟩ rest
    obtain ⟨left, taken, shorter, exact_left⟩ := afterMantissa?_append isMantissa (_ ++ rest)
    rw [List.append_assoc, afterScaled?, taken]
    refine ⟨afterExponent small capital left, rfl, ?_⟩
    cases isExponent with
    | absent => exact Nat.le_trans (length_afterExponent_le .absent left) shorter
    | @complete mark sign digits marked signed given all =>
      have stops := endsMantissa_cons (ends mark marked) (sign ++ digits ++ rest)
      rw [exact_left stops]
      exact length_afterExponent_le (.complete marked signed given all) rest

end Mantissas

end BoardSupervisor.Number
