import BoardSupervisor.Proofs.Number.Grammar

/-!
# The parts of a numeral

A numeral begins with a mantissa, as long as it can be, and goes on with an exponent, as long as it
can be, which may be none. A text divides into these parts in at most one way. The readers of
mantissas and exponents hand back the parts, with the digits and the value that they stand for.
-/

namespace BoardSupervisor.Number

/-- A text begins with a mantissa and behind it an exponent, each as long as it can be. -/
structure Parts (base : Nat) (small capital : Char) (text mantissa exponent rest : List Char) :
    Prop where
  /-- The mantissa is the longest one in front. -/
  mantissa_longest : LongestWord (IsMantissa base) text mantissa
  /-- The exponent is the longest one behind it. -/
  exponent_longest : LongestWord (IsExponent small capital) (exponent ++ rest) exponent
  /-- The parts make up the text. -/
  text_eq : text = mantissa ++ (exponent ++ rest)

/-- A text begins with the mark of an exponent. -/
def Marked (small capital : Char) (text : List Char) : Prop :=
  ∃ mark rest, text = mark :: rest ∧ (mark = small ∨ mark = capital)

section Reading

variable {base : Nat} {small capital : Char} {text mantissa exponent rest : List Char}

/-- Mantissas are read. -/
theorem reads_mantissa (base : Nat) : Reads (IsMantissa base) (afterMantissa? base) := by
  constructor
  · intro text rest taken
    exact afterMantissa?_sound taken
  · intro mantissa isMantissa rest
    obtain ⟨left, taken, shorter, -⟩ := afterMantissa?_append isMantissa rest
    exact ⟨left, taken, shorter⟩

/-- Exponents are read, and the empty one when there is no other. -/
theorem reads_exponent (small capital : Char) :
    Reads (IsExponent small capital) fun text => some (afterExponent small capital text) := by
  constructor
  · rintro text rest ⟨⟩
    exact afterExponent_sound small capital text
  · intro exponent isExponent rest
    exact ⟨_, rfl, length_afterExponent_le isExponent rest⟩

/-- The longest mantissa in front is read with its digits. -/
theorem leadingMantissa?_of_longest
    (longest : LongestWord (IsMantissa base) (mantissa ++ rest) mantissa) :
    leadingMantissa? base (mantissa ++ rest) =
      some (wholeDigits base mantissa, fractionDigits base mantissa, rest) := by
  have taken := (reads_mantissa base).eq_some_iff.mpr ⟨mantissa, longest, rfl⟩
  obtain ⟨⟨before, behind, _⟩, found, rfl⟩ := Option.map_eq_some_iff.mp taken
  obtain ⟨other, -, same, rfl, rfl⟩ := leadingMantissa?_sound found
  rw [found, List.append_cancel_right same]

/-- The mark of an exponent is what the reader of exponents looks for. -/
theorem marked_iff : Marked small capital text ↔ leadingExponent small capital text ≠ .absent := by
  cases text with
  | nil =>
    refine ⟨?_, fun other => absurd rfl other⟩
    rintro ⟨_, _, same, _⟩
    cases same
  | cons mark rest =>
    rw [leadingExponent]
    constructor
    · rintro ⟨_, _, same, marked⟩ absent
      obtain ⟨rfl, rfl⟩ := List.cons.inj same
      rw [if_pos marked] at absent
      cases found : leadingInteger? rest <;> rw [found] at absent <;> cases absent
    · intro other
      by_cases marked : mark = small ∨ mark = capital
      · exact ⟨mark, rest, rfl, marked⟩
      · rw [if_neg marked] at other
        exact absurd rfl other

/-- The longest exponent in front is read with its value. Where it is empty, the text does not begin
with the mark of one, or begins with a mark that nothing complete follows. -/
theorem leadingExponent_cases
    (longest : LongestWord (IsExponent small capital) (exponent ++ rest) exponent) :
    (exponent ≠ [] ∧
        leadingExponent small capital (exponent ++ rest) =
          .complete (exponentValue exponent) rest) ∨
      (exponent = [] ∧ Marked small capital rest ∧
        leadingExponent small capital rest = .incomplete) ∨
      (exponent = [] ∧ ¬ Marked small capital rest ∧
        leadingExponent small capital rest = .absent) := by
  have taken : afterExponent small capital (exponent ++ rest) = rest :=
    Option.some.inj ((reads_exponent small capital).eq_some_iff.mpr ⟨exponent, longest, rfl⟩)
  unfold afterExponent at taken
  cases found : leadingExponent small capital (exponent ++ rest) with
  | complete n after =>
    rw [found] at taken
    obtain rfl : after = rest := taken
    obtain ⟨other, given, -, same, rfl⟩ := leadingExponent_sound small capital found
    obtain rfl := List.append_cancel_right same
    exact .inl ⟨given, rfl⟩
  | incomplete =>
    rw [found] at taken
    obtain rfl : exponent = [] := List.append_left_eq_self.mp taken
    rw [List.nil_append] at found
    exact .inr (.inl ⟨rfl, marked_iff.mpr (by rw [found]; nofun), found⟩)
  | absent =>
    rw [found] at taken
    obtain rfl : exponent = [] := List.append_left_eq_self.mp taken
    rw [List.nil_append] at found
    exact .inr (.inr ⟨rfl, fun marked => marked_iff.mp marked found, found⟩)

/-- The mantissa among the parts of a text is read with its digits. -/
theorem Parts.leadingMantissa?_eq (parts : Parts base small capital text mantissa exponent rest) :
    leadingMantissa? base text =
      some (wholeDigits base mantissa, fractionDigits base mantissa, exponent ++ rest) := by
  obtain ⟨longest, -, rfl⟩ := parts
  exact leadingMantissa?_of_longest longest

/-- A text with parts does not begin with a sign. -/
theorem Parts.unsigned (parts : Parts base small capital text mantissa exponent rest) :
    Unsigned text := by
  rw [parts.text_eq]
  exact parts.mantissa_longest.member.unsigned.append _

/-- A text divides into parts if a mantissa stands in front. -/
theorem exists_parts (small capital : Char) {word : List Char} (isMantissa : IsMantissa base word)
    (front : word <+: text) :
    ∃ mantissa exponent rest, Parts base small capital text mantissa exponent rest := by
  cases taken : afterMantissa? base text with
  | none => exact absurd front ((reads_mantissa base).eq_none_iff.mp taken word isMantissa)
  | some behind =>
    obtain ⟨mantissa, mantissaLongest, text_eq⟩ := (reads_mantissa base).eq_some_iff.mp taken
    have exponentTaken := Eq.refl (some (afterExponent small capital behind))
    obtain ⟨exponent, exponentLongest, behind_eq⟩ :=
      (reads_exponent small capital).eq_some_iff.mp exponentTaken
    generalize afterExponent small capital behind = rest at behind_eq
    rw [behind_eq] at exponentLongest text_eq
    exact ⟨mantissa, exponent, rest, mantissaLongest, exponentLongest, text_eq⟩

end Reading

end BoardSupervisor.Number
