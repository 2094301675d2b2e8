import BoardSupervisor.Frequency
import BoardSupervisor.Number.Digits
import BoardSupervisor.Proofs.Text.LetterCase

/-!
# Numbers in either case

Hexadecimal digits, the hexadecimal mark, the marks of exponents, the two words for numbers and the
unit letters may be written in either case. Each reader of numbers is followed once: from a folded
text it reads the number that it reads from the text, and what it hands back as the rest is the rest
of the text, folded. A reader that looks at the rest of another one inherits this. Levels, addresses
and frequencies are then the same for tokens that differ in letter case alone.
-/

namespace BoardSupervisor

open Text

namespace Number

/-- The value of a hexadecimal digit does not depend on letter case. -/
theorem hexDigit?_toLower (c : Char) : hexDigit? c.toLower = hexDigit? c :=
  apply_toLower (by decide) c

/-- The value of a digit does not depend on letter case. -/
theorem digit?_toLower (base : Nat) (c : Char) : digit? base c.toLower = digit? base c := by
  unfold digit?
  rw [hexDigit?_toLower]

/-- A folded text begins with the same digits. -/
theorem leadingDigits_fold (base : Nat) (text : List Char) :
    leadingDigits base (fold text) = Prod.map id fold (leadingDigits base text) := by
  have digit : digit? base ∘ Char.toLower = digit? base := funext (digit?_toLower base)
  have isDigit_eq : isDigit base ∘ Char.toLower = isDigit base := by
    funext c
    unfold isDigit
    rw [Function.comp_apply, digit?_toLower]
  unfold leadingDigits digitValues fold
  rw [List.takeWhile_map, List.dropWhile_map, isDigit_eq, List.filterMap_map, digit]
  rfl

/-- The first character of a text decides what its sign is. -/
theorem leadingSign_cons (c : Char) (rest : List Char) :
    leadingSign (c :: rest) =
      if c = '+' then (false, rest) else if c = '-' then (true, rest) else (false, c :: rest) := by
  unfold leadingSign
  split <;> simp_all

/-- A folded text begins with the same sign. -/
theorem leadingSign_fold (text : List Char) :
    leadingSign (fold text) = Prod.map id fold (leadingSign text) := by
  cases text with
  | nil => rfl
  | cons c rest =>
    have plus : (c.toLower = '+') = (c = '+') := toLower_eq (by decide) c
    have minus : (c.toLower = '-') = (c = '-') := toLower_eq (by decide) c
    rw [fold_cons, leadingSign_cons, leadingSign_cons]
    simp only [plus, minus]
    split
    · rfl
    · split <;> rfl

/-- A single character is no hexadecimal mark. -/
theorem afterHexMark?_singleton (c : Char) : afterHexMark? [c] = none := by
  unfold afterHexMark?
  split <;> simp_all

/-- What follows the hexadecimal mark in a text with two characters in front. -/
theorem afterHexMark?_cons_cons (c d : Char) (rest : List Char) :
    afterHexMark? (c :: d :: rest) =
      if c = '0' ∧ (d = 'x' ∨ d = 'X') then some rest else none := by
  unfold afterHexMark?
  split <;> simp_all

/-- A folded text begins with the hexadecimal mark when the text does. -/
theorem afterHexMark?_fold (text : List Char) :
    afterHexMark? (fold text) = (afterHexMark? text).map fold := by
  match text with
  | [] => rfl
  | [c] =>
    rw [fold_cons, afterHexMark?_singleton]
    exact afterHexMark?_singleton c.toLower
  | c :: d :: rest =>
    have zero : (c.toLower = '0') = (c = '0') := toLower_eq (by decide) c
    have mark : (d.toLower = 'x' ∨ d.toLower = 'X') = (d = 'x' ∨ d = 'X') :=
      toLower_eq_or_eq (by decide) d
    rw [fold_cons, fold_cons, afterHexMark?_cons_cons, afterHexMark?_cons_cons]
    simp only [zero, mark]
    split <;> rfl

/-- The hexadecimal mark is dropped in either case. -/
theorem dropHexMark_fold (text : List Char) : dropHexMark (fold text) = fold (dropHexMark text) := by
  unfold dropHexMark
  rw [afterHexMark?_fold]
  cases afterHexMark? text <;> rfl

/-- A folded text begins with the same integer. -/
theorem leadingInteger?_fold (text : List Char) :
    leadingInteger? (fold text) = (leadingInteger? text).map (Prod.map id fold) := by
  unfold leadingInteger?
  rw [leadingSign_fold]
  obtain ⟨negative, body⟩ := leadingSign text
  dsimp only [Prod.map]
  rw [leadingDigits_fold]
  obtain ⟨digits, rest⟩ := leadingDigits 10 body
  cases digits <;> rfl

/-- What a mantissa has after its whole digits: a point and digits, or nothing. -/
def leadingFraction (base : Nat) : List Char → List Nat × List Char
  | '.' :: after => leadingDigits base after
  | rest => ([], rest)

/-- The first character of a text decides whether it goes on with a fraction. -/
theorem leadingFraction_cons (base : Nat) (c : Char) (rest : List Char) :
    leadingFraction base (c :: rest) =
      if c = '.' then leadingDigits base rest else ([], c :: rest) := by
  unfold leadingFraction
  split <;> simp_all

/-- After whole digits a folded text goes on with the same fraction. -/
theorem leadingFraction_fold (base : Nat) (text : List Char) :
    leadingFraction base (fold text) = Prod.map id fold (leadingFraction base text) := by
  cases text with
  | nil => rfl
  | cons c rest =>
    have point : (c.toLower = '.') = (c = '.') := toLower_eq (by decide) c
    rw [fold_cons, leadingFraction_cons, leadingFraction_cons]
    simp only [point]
    split
    · exact leadingDigits_fold base rest
    · rfl

/-- A mantissa is its whole digits and its fraction, with a digit in one of them. -/
theorem leadingMantissa?_eq (base : Nat) (text : List Char) :
    leadingMantissa? base text =
      let whole := leadingDigits base text
      let fraction := leadingFraction base whole.2
      if whole.1.isEmpty && fraction.1.isEmpty then none
      else some (whole.1, fraction.1, fraction.2) := rfl

/-- A folded text begins with the same mantissa. -/
theorem leadingMantissa?_fold (base : Nat) (text : List Char) :
    leadingMantissa? base (fold text) =
      (leadingMantissa? base text).map (Prod.map id (Prod.map id fold)) := by
  rw [leadingMantissa?_eq, leadingMantissa?_eq]
  dsimp only
  rw [leadingDigits_fold, Prod.map_snd, leadingFraction_fold, Prod.map_fst, Prod.map_fst, id, id]
  split <;> rfl

/-- What follows a mantissa, with the text after an exponent folded. -/
def ExponentPart.folded : ExponentPart → ExponentPart
  | .absent => .absent
  | .incomplete => .incomplete
  | .complete exponent rest => .complete exponent (fold rest)

/-- After a mantissa a folded text goes on with the same exponent, if the two marks of exponents are
a letter in its two cases. -/
theorem leadingExponent_fold {small capital : Char}
    (marks : ∀ c : Char, (c.toLower = small ∨ c.toLower = capital) = (c = small ∨ c = capital))
    (text : List Char) :
    leadingExponent small capital (fold text) = (leadingExponent small capital text).folded := by
  cases text with
  | nil => rfl
  | cons mark rest =>
    rw [fold_cons]
    unfold leadingExponent
    simp only [marks mark]
    split
    · rw [leadingInteger?_fold]
      cases leadingInteger? rest <;> rfl
    · rfl

/-- Tokens that differ in letter case alone begin with the same level. -/
theorem leadingLevel_congr {first second : String} (same : folded first = folded second) :
    leadingLevel first = leadingLevel second := by
  refine congr_of_folded (fun token => ?_) same
  unfold leadingLevel
  rw [String.toList_ofList, folded_eq, leadingSign_fold]
  obtain ⟨negative, body⟩ := leadingSign token.toList
  dsimp only [Prod.map]
  rw [leadingDigits_fold]
  rfl

/-- Tokens that differ in letter case alone begin with the same address. -/
theorem leadingAddress_congr {first second : String} (same : folded first = folded second) :
    leadingAddress first = leadingAddress second := by
  refine congr_of_folded (fun token => ?_) same
  unfold leadingAddress
  rw [String.toList_ofList, folded_eq, dropHexMark_fold, leadingDigits_fold]
  rfl

end Number

namespace Frequency

open Number

/-- A folded text begins with the same hexadecimal numeral. -/
theorem leadingHexadecimal?_fold (text : List Char) :
    leadingHexadecimal? (fold text) = (leadingHexadecimal? text).map (Prod.map id fold) := by
  unfold leadingHexadecimal?
  rw [leadingSign_fold]
  obtain ⟨negative, body⟩ := leadingSign text
  dsimp only [Prod.map]
  rw [afterHexMark?_fold]
  cases afterHexMark? body with
  | none => rfl
  | some digits =>
    dsimp only [Option.map_some, Option.bind_eq_bind, Option.bind_some]
    rw [leadingMantissa?_fold]
    cases leadingMantissa? 16 digits with
    | none => rfl
    | some mantissa =>
      obtain ⟨whole, fraction, rest⟩ := mantissa
      dsimp only [Option.map_some, Option.bind_some, Prod.map]
      rw [leadingExponent_fold (toLower_eq_or_eq (by decide))]
      cases leadingExponent 'p' 'P' rest <;> rfl

/-- How a text begins, with the text after a number folded. -/
def Beginning.folded : Beginning → Beginning
  | .nothing => .nothing
  | .brokenExponent => .brokenExponent
  | .number value rest => .number value (fold rest)

/-- A folded text begins with the same decimal numeral. -/
theorem leadingDecimal_fold (text : List Char) :
    leadingDecimal (fold text) = (leadingDecimal text).folded := by
  unfold leadingDecimal
  rw [leadingSign_fold]
  obtain ⟨negative, body⟩ := leadingSign text
  dsimp only [Prod.map]
  rw [leadingMantissa?_fold]
  cases leadingMantissa? 10 body with
  | none => rfl
  | some mantissa =>
    obtain ⟨whole, fraction, rest⟩ := mantissa
    dsimp only [Option.map_some, Prod.map, id]
    rw [leadingExponent_fold (toLower_eq_or_eq (by decide))]
    cases leadingExponent 'e' 'E' rest <;> rfl

/-- A folded text begins with the same word for a number. -/
theorem leadingWord?_fold (text : List Char) :
    leadingWord? (fold text) = (leadingWord? text).map (Prod.map id fold) := by
  have word : ((fold text).take 3).map Char.toLower = (text.take 3).map Char.toLower := by
    unfold fold
    rw [← List.map_take, List.map_map]
    exact List.map_congr_left fun c _ => toLower_toLower c
  have rest : (fold text).drop 3 = fold (text.drop 3) := List.map_drop.symm
  unfold leadingWord?
  rw [word, rest]
  dsimp only
  split
  · rfl
  · split <;> rfl

/-- A folded text begins with the same number. -/
theorem leadingNumber?_fold (text : List Char) :
    leadingNumber? (fold text) = (leadingNumber? text).map (Prod.map id fold) := by
  unfold leadingNumber?
  rw [leadingHexadecimal?_fold, leadingDecimal_fold, leadingWord?_fold]
  cases leadingHexadecimal? text with
  | some found => rfl
  | none => cases leadingDecimal text <;> rfl

/-- The three unit letters are told apart by comparisons. -/
theorem unitFactor?_eq (c : Char) :
    unitFactor? c =
      if c = 'k' ∨ c = 'K' then some 1e3
      else if c = 'm' ∨ c = 'M' then some 1e6
      else if c = 'g' ∨ c = 'G' then some 1e9
      else none := by
  unfold unitFactor?
  split <;> simp_all

/-- What a unit letter multiplies by does not depend on letter case. -/
theorem unitFactor?_toLower (c : Char) : unitFactor? c.toLower = unitFactor? c := by
  have kilo : (c.toLower = 'k' ∨ c.toLower = 'K') = (c = 'k' ∨ c = 'K') :=
    toLower_eq_or_eq (by decide) c
  have mega : (c.toLower = 'm' ∨ c.toLower = 'M') = (c = 'm' ∨ c = 'M') :=
    toLower_eq_or_eq (by decide) c
  have giga : (c.toLower = 'g' ∨ c.toLower = 'G') = (c = 'g' ∨ c = 'G') :=
    toLower_eq_or_eq (by decide) c
  rw [unitFactor?_eq, unitFactor?_eq]
  simp only [kilo, mega, giga]

/-- Tokens that differ in letter case alone stand for the same frequency. -/
theorem ofToken_congr {first second : String} (same : folded first = folded second) :
    ofToken first = ofToken second := by
  refine congr_of_folded (fun token => ?_) same
  unfold ofToken
  rw [String.toList_ofList, folded_eq, leadingNumber?_fold]
  cases leadingNumber? token.toList with
  | none => rfl
  | some found =>
    obtain ⟨number, rest⟩ := found
    cases rest with
    | nil => rfl
    | cons unit rest =>
      dsimp only [Option.map_some, Prod.map, fold_cons, id]
      rw [unitFactor?_toLower]

end Frequency

end BoardSupervisor
