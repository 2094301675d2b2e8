import BoardSupervisor.Proofs.Frequency.LongestNumber

/-!
# What a token stands for

The frequencies that tokens stand for are told here by a grammar alone. What stands in front of a
token is a hexadecimal number if it begins like one, else a decimal if it begins like one, else one
of two words, else nothing. A number takes as much of the token as it can, and its value is computed
from the parts that it takes. A decimal is spoilt by the mark of an exponent without the exponent;
a mark without an exponent behind a hexadecimal number is left to the rest. Of the rest the first
character alone is looked at. The reader of frequencies answers as this grammar says.
-/

namespace BoardSupervisor.Frequency

open Number

/-- The value of a hexadecimal number with the given parts. -/
def hexadecimalValue (sign mantissa exponent : List Char) : Float :=
  Binary64.withSign (isMinus sign)
    (hexMantissa (wholeDigits 16 mantissa) (fractionDigits 16 mantissa) *
      Binary64.powerOfTwoSigned (exponentValue exponent))

/-- The value of a decimal with the given parts. -/
def decimalValue (sign mantissa exponent : List Char) : Float :=
  (Mantissa.toDecimal (isMinus sign) (wholeDigits 10 mantissa) (fractionDigits 10 mantissa)
    (exponentValue exponent)).toFloat

/-- The words of three letters for numbers, in either case. -/
inductive Names : List Char → Float → Prop
  /-- The word for what is not a number. -/
  | nan {word : List Char} (like : word.map Char.toLower = "nan".toList) :
    Names word Binary64.notANumber
  /-- The word for infinity. -/
  | inf {word : List Char} (like : word.map Char.toLower = "inf".toList) :
    Names word Binary64.infinity

/-- A text begins like a hexadecimal number: with an optional sign, the mark and a mantissa. -/
def BeginsHexadecimal (text : List Char) : Prop :=
  ∃ sign mark mantissa rest, IsSign sign ∧ (mark = 'x' ∨ mark = 'X') ∧ IsMantissa 16 mantissa ∧
    text = sign ++ '0' :: mark :: (mantissa ++ rest)

/-- A text begins like a decimal: with an optional sign and a mantissa. -/
def BeginsDecimal (text : List Char) : Prop :=
  ∃ sign mantissa rest, IsSign sign ∧ IsMantissa 10 mantissa ∧ text = sign ++ (mantissa ++ rest)

/-- What stands in front of a text: a number, with the text behind it, or none. -/
inductive Front (text : List Char) : Option (Float × List Char) → Prop
  /-- A hexadecimal number. -/
  | hexadecimal {sign body mantissa exponent rest : List Char} {mark : Char}
    (signed : IsSign sign) (marked : mark = 'x' ∨ mark = 'X')
    (parts : Parts 16 'p' 'P' body mantissa exponent rest)
    (text_eq : text = sign ++ '0' :: mark :: body) :
    Front text (some (hexadecimalValue sign mantissa exponent, rest))
  /-- A decimal. -/
  | decimal {sign body mantissa exponent rest : List Char}
    (notHexadecimal : ¬ BeginsHexadecimal text) (signed : IsSign sign)
    (parts : Parts 10 'e' 'E' body mantissa exponent rest)
    (unmarked : exponent = [] → ¬ Marked 'e' 'E' rest) (text_eq : text = sign ++ body) :
    Front text (some (decimalValue sign mantissa exponent, rest))
  /-- A decimal that is spoilt by the mark of an exponent. -/
  | brokenExponent {sign body mantissa rest : List Char}
    (notHexadecimal : ¬ BeginsHexadecimal text) (signed : IsSign sign)
    (parts : Parts 10 'e' 'E' body mantissa [] rest) (marked : Marked 'e' 'E' rest)
    (text_eq : text = sign ++ body) : Front text none
  /-- A word. -/
  | word {word rest : List Char} {value : Float} (notHexadecimal : ¬ BeginsHexadecimal text)
    (notDecimal : ¬ BeginsDecimal text) (named : Names word value) (text_eq : text = word ++ rest) :
    Front text (some (value, rest))
  /-- Nothing that is a number. -/
  | nothing (notHexadecimal : ¬ BeginsHexadecimal text) (notDecimal : ¬ BeginsDecimal text)
    (unnamed : ∀ word value, Names word value → ¬ word <+: text) : Front text none

/-- The letters for units with their factors. -/
inductive Multiplies : Char → Float → Prop
  /-- A thousand. -/
  | kilo {c : Char} (letter : c = 'k' ∨ c = 'K') : Multiplies c 1e3
  /-- A million. -/
  | mega {c : Char} (letter : c = 'm' ∨ c = 'M') : Multiplies c 1e6
  /-- A thousand million. -/
  | giga {c : Char} (letter : c = 'g' ∨ c = 'G') : Multiplies c 1e9

/-- What a text stands for: a frequency, or why it is none. -/
inductive Denotes (text : List Char) : Except Fault Float → Prop
  /-- No number stands in front. -/
  | noNumber (front : Front text none) : Denotes text (.error .noNumber)
  /-- The number in front is everything. -/
  | plain {value : Float} (front : Front text (some (value, []))) : Denotes text (.ok value)
  /-- A letter for a unit follows, and whatever else. -/
  | scaled {value factor : Float} {c : Char} {after : List Char}
    (front : Front text (some (value, c :: after))) (multiplies : Multiplies c factor) :
    Denotes text (.ok (value * factor))
  /-- Something else follows. -/
  | unknownUnit {value : Float} {c : Char} {after : List Char}
    (front : Front text (some (value, c :: after))) (unknown : ∀ factor, ¬ Multiplies c factor) :
    Denotes text (.error .unknownUnit)

section Reading

variable {text sign body mantissa exponent rest : List Char}

/-- A text that begins like a hexadecimal number is read as one, from its parts. -/
theorem leadingHexadecimal?_of_parts {mark : Char} (signed : IsSign sign)
    (marked : mark = 'x' ∨ mark = 'X') (parts : Parts 16 'p' 'P' body mantissa exponent rest) :
    leadingHexadecimal? (sign ++ '0' :: mark :: body) =
      some (hexadecimalValue sign mantissa exponent, rest) := by
  have unsigned : Unsigned ('0' :: mark :: body) := ⟨'0', _, rfl, by decide, by decide⟩
  unfold leadingHexadecimal?
  rw [leadingSign_eq signed unsigned]
  dsimp only
  rw [afterHexMark?_cons_cons, if_pos ⟨rfl, marked⟩]
  dsimp only [Option.bind_eq_bind, Option.bind_some]
  rw [parts.leadingMantissa?_eq, Option.bind_some]
  dsimp only
  rcases leadingExponent_cases parts.exponent_longest with
    ⟨-, complete⟩ | ⟨rfl, -, incomplete⟩ | ⟨rfl, -, absent⟩
  · rw [complete]
    rfl
  · rw [List.nil_append, incomplete]
    rfl
  · rw [List.nil_append, absent]
    rfl

/-- A text that does not begin like a hexadecimal number is read as none. -/
theorem leadingHexadecimal?_of_not (notHexadecimal : ¬ BeginsHexadecimal text) :
    leadingHexadecimal? text = none := by
  rw [← Option.map_eq_none_iff, leadingHexadecimal?_rest]
  cases taken : afterHexadecimal? (leadingSign text).2 with
  | none => rfl
  | some rest =>
    obtain ⟨sign, signed, text_eq, -⟩ := leadingSign_sound text
    obtain ⟨digits, found, behind⟩ := Option.bind_eq_some_iff.mp taken
    obtain ⟨mark, marked, body_eq⟩ := afterHexMark?_sound found
    obtain ⟨left, mantissaTaken, -⟩ := Option.map_eq_some_iff.mp behind
    obtain ⟨mantissa, isMantissa, rfl⟩ := afterMantissa?_sound mantissaTaken
    rw [body_eq] at text_eq
    exact absurd ⟨sign, mark, mantissa, left, signed, marked, isMantissa, text_eq⟩ notHexadecimal

/-- A text that begins like a decimal is read as one, from its parts, unless a mark of an exponent
without the exponent follows. -/
theorem leadingDecimal_of_parts (signed : IsSign sign)
    (parts : Parts 10 'e' 'E' body mantissa exponent rest)
    (unmarked : exponent = [] → ¬ Marked 'e' 'E' rest) :
    leadingDecimal (sign ++ body) = .number (decimalValue sign mantissa exponent) rest := by
  unfold leadingDecimal
  rw [leadingSign_eq signed parts.unsigned]
  dsimp only
  rw [parts.leadingMantissa?_eq]
  dsimp only
  rcases leadingExponent_cases parts.exponent_longest with
    ⟨-, complete⟩ | ⟨rfl, marked, -⟩ | ⟨rfl, -, absent⟩
  · rw [complete]
    rfl
  · exact absurd marked (unmarked rfl)
  · rw [List.nil_append, absent]
    rfl

/-- A text that begins like a decimal with a mark of an exponent but no exponent is read as such. -/
theorem leadingDecimal_of_marked (signed : IsSign sign)
    (parts : Parts 10 'e' 'E' body mantissa [] rest) (marked : Marked 'e' 'E' rest) :
    leadingDecimal (sign ++ body) = .brokenExponent := by
  unfold leadingDecimal
  rw [leadingSign_eq signed parts.unsigned]
  dsimp only
  rw [parts.leadingMantissa?_eq]
  dsimp only
  rcases leadingExponent_cases parts.exponent_longest with
    ⟨given, -⟩ | ⟨-, -, incomplete⟩ | ⟨-, unmarked, -⟩
  · exact absurd rfl given
  · rw [List.nil_append, incomplete]
  · exact absurd marked unmarked

/-- A text that does not begin like a decimal is read as none. -/
theorem leadingDecimal_of_not (notDecimal : ¬ BeginsDecimal text) :
    leadingDecimal text = .nothing := by
  rcases leadingDecimal_cases text with ⟨nothing, -⟩ | ⟨behind, taken, -⟩
  · exact nothing
  · obtain ⟨sign, signed, text_eq, -⟩ := leadingSign_sound text
    obtain ⟨mantissa, isMantissa, body_eq⟩ := afterMantissa?_sound taken
    rw [body_eq] at text_eq
    exact absurd ⟨sign, mantissa, behind, signed, isMantissa, text_eq⟩ notDecimal

/-- The words for numbers are three letters long. -/
theorem Names.length_eq {word : List Char} {value : Float} (named : Names word value) :
    word.length = 3 := by
  cases named with
  | nan like => simpa using congrArg List.length like
  | inf like => simpa using congrArg List.length like

/-- A word is read exactly if one stands in front. -/
theorem leadingWord?_eq_some_iff {value : Float} :
    leadingWord? text = some (value, rest) ↔
      ∃ word, Names word value ∧ text = word ++ rest := by
  constructor
  · intro taken
    unfold leadingWord? at taken
    dsimp only at taken
    split at taken
    · next nan =>
      cases taken
      exact ⟨text.take 3, .nan nan, (text.take_append_drop 3).symm⟩
    · split at taken
      · next inf =>
        cases taken
        exact ⟨text.take 3, .inf inf, (text.take_append_drop 3).symm⟩
      · cases taken
  · rintro ⟨word, named, rfl⟩
    unfold leadingWord?
    rw [← named.length_eq, List.take_left, List.drop_left]
    cases named with
    | nan like => exact if_pos like
    | inf like => simp [like]

/-- What is read in front of a text is what stands there. -/
theorem Front.leadingNumber?_eq {found : Option (Float × List Char)} (front : Front text found) :
    leadingNumber? text = found := by
  unfold leadingNumber?
  cases front with
  | hexadecimal signed marked parts text_eq =>
    rw [text_eq, leadingHexadecimal?_of_parts signed marked parts]
  | decimal notHexadecimal signed parts unmarked text_eq =>
    rw [leadingHexadecimal?_of_not notHexadecimal, text_eq,
      leadingDecimal_of_parts signed parts unmarked]
  | brokenExponent notHexadecimal signed parts marked text_eq =>
    rw [leadingHexadecimal?_of_not notHexadecimal, text_eq,
      leadingDecimal_of_marked signed parts marked]
  | word notHexadecimal notDecimal named text_eq =>
    rw [leadingHexadecimal?_of_not notHexadecimal, leadingDecimal_of_not notDecimal]
    exact leadingWord?_eq_some_iff.mpr ⟨_, named, text_eq⟩
  | nothing notHexadecimal notDecimal unnamed =>
    rw [leadingHexadecimal?_of_not notHexadecimal, leadingDecimal_of_not notDecimal]
    cases taken : leadingWord? text with
    | none => rfl
    | some found =>
      obtain ⟨word, named, text_eq⟩ := leadingWord?_eq_some_iff.mp taken
      exact absurd ⟨_, text_eq.symm⟩ (unnamed word _ named)

/-- Something or nothing stands in front of every text. -/
theorem exists_front (text : List Char) : ∃ found, Front text found := by
  by_cases hexadecimal : BeginsHexadecimal text
  · obtain ⟨sign, mark, word, rest, signed, marked, isMantissa, text_eq⟩ := hexadecimal
    obtain ⟨mantissa, exponent, rest, parts⟩ :=
      exists_parts 'p' 'P' isMantissa (List.prefix_append word rest)
    exact ⟨_, .hexadecimal signed marked parts text_eq⟩
  by_cases decimal : BeginsDecimal text
  · obtain ⟨sign, word, rest, signed, isMantissa, text_eq⟩ := decimal
    obtain ⟨mantissa, exponent, rest, parts⟩ :=
      exists_parts 'e' 'E' isMantissa (List.prefix_append word rest)
    by_cases broken : exponent = [] ∧ Marked 'e' 'E' rest
    · obtain ⟨rfl, marked⟩ := broken
      exact ⟨none, .brokenExponent hexadecimal signed parts marked text_eq⟩
    · exact ⟨_, .decimal hexadecimal signed parts (not_and.mp broken) text_eq⟩
  by_cases named : ∃ word value, Names word value ∧ word <+: text
  · obtain ⟨word, value, named, rest, text_eq⟩ := named
    exact ⟨_, .word hexadecimal decimal named text_eq.symm⟩
  · exact ⟨none, .nothing hexadecimal decimal fun word value known front =>
      named ⟨word, value, known, front⟩⟩

/-- What stands in front of a text is what is read there. -/
theorem front_iff {found : Option (Float × List Char)} :
    Front text found ↔ leadingNumber? text = found := by
  constructor
  · exact Front.leadingNumber?_eq
  · rintro rfl
    obtain ⟨found, front⟩ := exists_front text
    rw [front.leadingNumber?_eq]
    exact front

/-- The letters for units are those with a factor. -/
theorem multiplies_iff {c : Char} {factor : Float} :
    Multiplies c factor ↔ unitFactor? c = some factor := by
  constructor
  · rintro (letter | letter | letter) <;> rcases letter with rfl | rfl <;> rfl
  · intro known
    rw [unitFactor?_eq] at known
    split at known
    · next letter => cases known; exact .kilo letter
    · split at known
      · next letter => cases known; exact .mega letter
      · split at known
        · next letter => cases known; exact .giga letter
        · cases known

end Reading

/-- A token is answered as the grammar says, and by no other answer. -/
theorem ofToken_eq_iff (token : String) (answer : Except Fault Float) :
    ofToken token = answer ↔ Denotes token.toList answer := by
  constructor
  · rintro rfl
    unfold ofToken
    cases read : leadingNumber? token.toList with
    | none => exact .noNumber (front_iff.mpr read)
    | some found =>
      obtain ⟨value, rest⟩ := found
      have front := front_iff.mpr read
      cases rest with
      | nil => exact .plain front
      | cons c after =>
        dsimp only
        cases known : unitFactor? c with
        | some factor => exact .scaled front (multiplies_iff.mpr known)
        | none =>
          refine .unknownUnit front fun factor multiplies => ?_
          rw [multiplies_iff, known] at multiplies
          cases multiplies
  · intro denotes
    unfold ofToken
    cases denotes with
    | noNumber front => rw [front_iff.mp front]
    | plain front => rw [front_iff.mp front]
    | scaled front multiplies =>
      rw [front_iff.mp front]
      dsimp only
      rw [multiplies_iff.mp multiplies]
    | @unknownUnit value c after front unknown =>
      rw [front_iff.mp front]
      dsimp only
      cases known : unitFactor? c with
      | some factor => exact absurd (multiplies_iff.mpr known) (unknown factor)
      | none => rfl

/-- A hexadecimal mark without digits is read again as a decimal zero and what follows it. -/
example : ofToken "-0xg" = .error .unknownUnit := rfl

end BoardSupervisor.Frequency
