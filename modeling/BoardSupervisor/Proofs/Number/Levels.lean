import BoardSupervisor.Proofs.Number.DigitRuns

/-!
# Levels, whatever their length

The word of 64 bits through which a level is read holds the integer that the digits stand for
whenever it can hold it, and gives up otherwise. The side on which the integer then lies is told by
its sign. So the level is always the nearest one to the integer at the front of the token, as long
as that may be.
-/

namespace BoardSupervisor.Number

/-- An integer as it is written: an optional sign and one or more digits. -/
inductive IsInteger : List Char → Prop
  /-- The two parts. -/
  | mk {sign digits : List Char} (signed : IsSign sign) (given : digits ≠ [])
    (all : AreDigits 10 digits) : IsInteger (sign ++ digits)

/-- The integer that is written: the number of its digits, negated behind a minus. -/
def integerValue (word : List Char) : Int :=
  withSign (word.head? == some '-') (ofDigits 10 (digitValues 10 word))

/-- The integer that is written by a sign and digits. -/
theorem integerValue_append {sign digits : List Char} (signed : IsSign sign) (given : digits ≠ [])
    (all : AreDigits 10 digits) :
    integerValue (sign ++ digits) =
      withSign (isMinus sign) (ofDigits 10 (digitValues 10 digits)) :=
  @exponentValue_complete 'e' sign digits signed given all

section Words

/-- Integers within the range of 64 bits. -/
def InWord (n : Int) : Prop := minWord ≤ n ∧ n ≤ maxWord

/-- An integer that is formed from another one is held whatever becomes of that one, if the other
one is held with it. -/
theorem inWord?_bind (next : Int → Int) {n : Int} (nearer : InWord (next n) → InWord n) :
    (inWord? n).bind (fun k => inWord? (next k)) = inWord? (next n) := by
  unfold inWord?
  split
  · rw [Option.bind_some]
  · next beyond =>
    rw [Option.bind_none]
    exact (if_neg (mt nearer beyond)).symm

variable (negative : Bool)

/-- An integer with one more digit behind it, whether or not it can be held. -/
def nextInteger (n : Int) (d : Nat) : Int := if negative then n - d else n + d

/-- One more digit behind a sign and a number. -/
theorem nextInteger_withSign (n d : Nat) :
    nextInteger negative (withSign negative n * 10) d = withSign negative (n * 10 + d) := by
  cases negative
  · simp [nextInteger, withSign]
  · simp only [nextInteger, withSign, if_true]
    omega

/-- One more digit leads away from zero, so that nothing on the way to an integer that can be held
is beyond it. -/
theorem withDigit?_inWord? (n d : Nat) :
    (inWord? (withSign negative n)).bind (withDigit? negative · d) =
      inWord? (withSign negative (n * 10 + d)) := by
  have shifted : InWord (withSign negative n * 10) → InWord (withSign negative n) := by
    unfold InWord minWord maxWord
    omega
  have added : InWord (nextInteger negative (withSign negative n * 10) d) →
      InWord (withSign negative n * 10) := by
    unfold InWord minWord maxWord nextInteger withSign
    cases negative <;> simp only [Bool.false_eq_true, if_true, if_false] <;> omega
  calc (inWord? (withSign negative n)).bind (withDigit? negative · d)
      = ((inWord? (withSign negative n)).bind fun k => inWord? (k * 10)).bind
          fun k => inWord? (nextInteger negative k d) := (Option.bind_assoc _ _ _).symm
    _ = inWord? (nextInteger negative (withSign negative n * 10) d) := by
      rw [inWord?_bind (· * 10) shifted, inWord?_bind (nextInteger negative · d) added]
    _ = inWord? (withSign negative (n * 10 + d)) := by rw [nextInteger_withSign]

/-- The word that digits are read into is the number they stand for behind the sign, exactly when
it can be held. -/
theorem wordOfDigits?_eq (digits : List Nat) :
    wordOfDigits? negative digits = inWord? (withSign negative (ofDigits 10 digits)) := by
  induction digits using List.reverseRecOn with
  | nil => cases negative <;> rfl
  | append_singleton digits d ih =>
    rw [ofDigits_concat, ← withDigit?_inWord?, ← ih]
    simp [wordOfDigits?]

end Words

section Clamping

variable {n : Int}

/-- A level is the nearest one to itself. -/
theorem clampLevel_of_mem (least : minLevel ≤ n) (greatest : n ≤ maxLevel) : clampLevel n = n := by
  unfold clampLevel
  omega

/-- The nearest level to a great integer is the greatest. -/
theorem clampLevel_of_ge (great : maxLevel ≤ n) : clampLevel n = maxLevel := by
  have order : minLevel ≤ maxLevel := by decide
  unfold clampLevel
  omega

/-- The nearest level to a small integer is the least. -/
theorem clampLevel_of_le (small : n ≤ minLevel) : clampLevel n = minLevel := by
  have order : minLevel ≤ maxLevel := by decide
  unfold clampLevel
  omega

/-- The nearest level to a number that is too large for 64 bits is the bound on its side. -/
theorem clampLevel_of_not_inWord {negative : Bool} {k : Nat}
    (beyond : ¬ InWord (withSign negative k)) :
    clampLevel (withSign negative k) = if negative then minLevel else maxLevel := by
  have wide : minWord ≤ minLevel ∧ maxLevel ≤ maxWord := by decide
  have around : minWord < 0 ∧ 0 < maxWord := by decide
  unfold InWord withSign at beyond
  unfold withSign
  cases negative with
  | false =>
    rw [if_neg Bool.false_ne_true] at beyond
    exact clampLevel_of_ge (by rw [if_neg Bool.false_ne_true]; omega)
  | true =>
    rw [if_pos rfl] at beyond
    exact clampLevel_of_le (by rw [if_pos rfl]; omega)

end Clamping

/-- A level is the nearest one to the integer in front, and zero where there is none. -/
theorem leadingLevel_eq (token : String) :
    leadingLevel token =
      match leadingInteger? token.toList with
      | some (n, _) => clampLevel n
      | none => 0 := by
  rw [leadingInteger?_eq]
  unfold leadingLevel
  cases sign : leadingSign token.toList with
  | mk negative body =>
    dsimp only
    cases digits : (leadingDigits 10 body).1 with
    | nil => rw [if_pos rfl]
    | cons d more =>
      rw [if_neg (List.cons_ne_nil d more)]
      dsimp only
      rw [wordOfDigits?_eq, inWord?]
      split
      · next n held =>
        split at held
        · rw [Option.some.inj held]
        · cases held
      · next beyond =>
        split at beyond
        · cases beyond
        · next outside => exact (clampLevel_of_not_inWord outside).symm

/-- Integers are read. -/
theorem reads_integer : Reads IsInteger fun text => (leadingInteger? text).map Prod.snd := by
  constructor
  · intro text rest taken
    obtain ⟨⟨n, _⟩, found, rfl⟩ := Option.map_eq_some_iff.mp taken
    obtain ⟨sign, digits, signed, given, all, text_eq, -⟩ := leadingInteger?_sound found
    exact ⟨sign ++ digits, ⟨signed, given, all⟩, text_eq⟩
  · rintro _ ⟨signed, given, all⟩ rest
    refine ⟨(leadingDigits 10 rest).2, ?_, length_leadingDigits_le 10 rest⟩
    rw [leadingInteger?_append signed given all rest]
    rfl

section Tokens

variable {token : String} {word : List Char}

/-- The longest integer in front is the one that is read. -/
theorem leadingInteger?_of_longest (longest : LongestWord IsInteger token.toList word) :
    ∃ rest, leadingInteger? token.toList = some (integerValue word, rest) := by
  obtain ⟨rest, text_eq⟩ := longest.front
  have taken := reads_integer.eq_some_iff.mpr ⟨word, longest, text_eq.symm⟩
  obtain ⟨⟨n, after⟩, found, rfl⟩ := Option.map_eq_some_iff.mp taken
  obtain ⟨sign, digits, signed, given, all, same, rfl⟩ := leadingInteger?_sound found
  have word_eq : word = sign ++ digits := List.append_cancel_right (text_eq.trans same)
  exact ⟨after, by rw [word_eq, integerValue_append signed given all, found]⟩

/-- The level of a token with an integer in front. -/
theorem leadingLevel_of_longest (longest : LongestWord IsInteger token.toList word) :
    leadingLevel token = clampLevel (integerValue word) := by
  obtain ⟨rest, found⟩ := leadingInteger?_of_longest longest
  rw [leadingLevel_eq, found]

/-- The level of a token without an integer in front. -/
theorem leadingLevel_of_none (none : ∀ word, IsInteger word → ¬ word <+: token.toList) :
    leadingLevel token = 0 := by
  have taken := reads_integer.eq_none_iff.mpr none
  rw [leadingLevel_eq, Option.map_eq_none_iff.mp taken]

/-- A token has a longest integer in front, or none at all. -/
theorem longest_integer_or_none (token : String) :
    (∃ word, LongestWord IsInteger token.toList word) ∨
      ∀ word, IsInteger word → ¬ word <+: token.toList := by
  cases taken : (leadingInteger? token.toList).map Prod.snd with
  | none => exact .inr (reads_integer.eq_none_iff.mp taken)
  | some rest =>
    obtain ⟨word, longest, -⟩ := reads_integer.eq_some_iff.mp taken
    exact .inl ⟨word, longest⟩

end Tokens

/-- An integer is written as a sign and the digits of its distance from zero. -/
theorem exists_sign_signedDecimal (n : Int) :
    ∃ sign, IsSign sign ∧ (signedDecimal n).toList = sign ++ Nat.toDigits 10 n.natAbs ∧
      withSign (isMinus sign) n.natAbs = n := by
  unfold signedDecimal decimal
  by_cases negative : n < 0
  · refine ⟨['-'], .minus, ?_, ?_⟩
    · rw [if_pos negative, String.toList_append, String.toList_ofList, String.toList_ofList]
    · change -(n.natAbs : Int) = n
      omega
  · refine ⟨[], .absent, ?_, ?_⟩
    · rw [if_neg negative, String.toList_ofList]
      rfl
    · change (n.natAbs : Int) = n
      omega

/-- A level that is written out is read back, whatever follows that is no digit. -/
theorem leadingLevel_signedDecimal {n : Int} (least : minLevel ≤ n) (greatest : n ≤ maxLevel)
    {rest : String} (ends : EndsDigits 10 rest.toList) :
    leadingLevel (signedDecimal n ++ rest) = n := by
  obtain ⟨sign, signed, text_eq, value⟩ := exists_sign_signedDecimal n
  obtain ⟨all, denoted⟩ := @toDigits_apply 10 (by decide) (by decide) n.natAbs
  rw [leadingLevel_eq, String.toList_append, text_eq,
    leadingInteger?_append signed Nat.toDigits_ne_nil all, leadingDigits_of_ends ends]
  dsimp only
  rw [List.append_nil, denoted, value, clampLevel_of_mem least greatest]

/-- More digits behind a number that 64 bits cannot hold do not make them hold it. -/
theorem not_inWord_append {negative : Bool} {digits : List Nat}
    (beyond : ¬ InWord (withSign negative (ofDigits 10 digits))) (more : List Nat) :
    ¬ InWord (withSign negative (ofDigits 10 (digits ++ more))) := by
  have farther := le_ofDigits_append (by decide : 0 < 10) digits more
  unfold InWord minWord maxWord withSign at beyond ⊢
  cases negative with
  | false =>
    rw [if_neg Bool.false_ne_true] at beyond ⊢
    omega
  | true =>
    rw [if_pos rfl] at beyond ⊢
    omega

/-- Where 64 bits cannot hold the number, the level is the bound that the sign points to. -/
theorem leadingLevel_of_not_inWord {sign digits : List Char} (signed : IsSign sign)
    (given : digits ≠ []) (all : AreDigits 10 digits)
    (beyond : ¬ InWord (withSign (isMinus sign) (ofDigits 10 (digitValues 10 digits))))
    (rest : List Char) :
    leadingLevel (String.ofList (sign ++ digits ++ rest)) =
      if isMinus sign then minLevel else maxLevel := by
  rw [leadingLevel_eq, String.toList_ofList, leadingInteger?_append signed given all]
  exact clampLevel_of_not_inWord (not_inWord_append beyond _)

/-- The level of a token is the nearest one to the longest integer in front of it, or zero where
there is none. Every level is therefore read back as it is written out, whatever follows that is no
digit, and digits that are too many for 64 bits give the bound that their sign points to. -/
theorem leading_level_saturates :
    (∀ token n, leadingLevel token = n ↔
      (∃ word, LongestWord IsInteger token.toList word ∧ n = clampLevel (integerValue word)) ∨
        ((∀ word, IsInteger word → ¬ word <+: token.toList) ∧ n = 0)) ∧
    (∀ n, minLevel ≤ n → n ≤ maxLevel → ∀ rest : String, EndsDigits 10 rest.toList →
      leadingLevel (signedDecimal n ++ rest) = n) ∧
    ∀ sign digits, IsSign sign → digits ≠ [] → AreDigits 10 digits →
      ¬ InWord (withSign (isMinus sign) (ofDigits 10 (digitValues 10 digits))) →
      ∀ rest, leadingLevel (String.ofList (sign ++ digits ++ rest)) =
        if isMinus sign then minLevel else maxLevel := by
  refine ⟨?_, ?_, ?_⟩
  · intro token n
    constructor
    · rintro rfl
      rcases longest_integer_or_none token with ⟨word, longest⟩ | none
      · exact .inl ⟨word, longest, leadingLevel_of_longest longest⟩
      · exact .inr ⟨none, leadingLevel_of_none none⟩
    · rintro (⟨word, longest, rfl⟩ | ⟨none, rfl⟩)
      · exact leadingLevel_of_longest longest
      · exact leadingLevel_of_none none
  · intro n least greatest rest ends
    exact leadingLevel_signedDecimal least greatest ends
  · intro sign digits signed given all beyond rest
    exact leadingLevel_of_not_inWord signed given all beyond rest

/-- The least level is read back in front of a letter, and twenty nines are too many for 64 bits. -/
theorem leading_level_saturates_at_bounds :
    leadingLevel (signedDecimal minLevel ++ "x") = minLevel ∧
      leadingLevel (String.ofList (['-'] ++ List.replicate 20 '9' ++ ['0'])) = minLevel := by
  have ends : EndsDigits 10 "x".toList := by
    rintro c after same
    obtain ⟨rfl, -⟩ := List.cons.inj (show ['x'] = c :: after from same)
    decide
  have digits : AreDigits 10 (List.replicate 20 '9') := List.all_eq_true.mp (by decide)
  have beyond : ¬ InWord (withSign (isMinus ['-'])
      (ofDigits 10 (digitValues 10 (List.replicate 20 '9')))) := by
    unfold InWord
    decide
  exact ⟨leading_level_saturates.2.1 minLevel (by decide) (by decide) "x" ends,
    leading_level_saturates.2.2 ['-'] (List.replicate 20 '9') .minus (by decide) digits beyond
      ['0']⟩

end BoardSupervisor.Number
