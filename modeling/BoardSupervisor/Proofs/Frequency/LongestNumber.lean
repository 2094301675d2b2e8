import BoardSupervisor.Proofs.Frequency.Language
import BoardSupervisor.Proofs.Number.Parts

/-!
# The longest number in front

By the rules for numbers in front of a token, a frequency is the longest number that stands there,
with at most a unit letter to look at behind it. The reader of frequencies keeps these rules with
three exceptions, all of which make it refuse: a decimal with a mark of an exponent that no exponent
follows, a word for a number with a sign in front, and the long word for infinity. They are told
here as texts, and the answer is the one by the rules exactly for the tokens that are none of them.
-/

namespace BoardSupervisor.Frequency

open Number

/-- The letters for units. -/
def unitLetters : List Char := ['k', 'K', 'm', 'M', 'g', 'G']

/-- What the rules say of a token: whether it is a frequency, and why it is none. -/
inductive Rules (text : List Char) : Except Fault Unit → Prop
  /-- No number stands in front. -/
  | noNumber (none : ∀ word, IsNumber word → ¬ word <+: text) : Rules text (.error .noNumber)
  /-- The longest number in front is everything. -/
  | plain (number : LongestWord IsNumber text text) : Rules text (.ok ())
  /-- A unit letter follows the longest number in front. -/
  | unit {word rest : List Char} {c : Char} (number : LongestWord IsNumber text word)
    (followed : text = word ++ c :: rest) (known : c ∈ unitLetters) : Rules text (.ok ())
  /-- Something else follows the longest number in front. -/
  | unknownUnit {word rest : List Char} {c : Char} (number : LongestWord IsNumber text word)
    (followed : text = word ++ c :: rest) (unknown : c ∉ unitLetters) :
    Rules text (.error .unknownUnit)

/-- The tokens that are not answered by the rules, with the fault that is found instead. -/
inductive Departs (text : List Char) : Fault → Prop
  /-- A decimal with a mark of an exponent that no exponent follows. -/
  | brokenExponent {sign mantissa rest : List Char} {mark : Char} (signed : IsSign sign)
    (isMantissa : IsMantissa 10 mantissa) (marked : mark = 'e' ∨ mark = 'E')
    (broken : ∀ exponent, IsExponent 'e' 'E' exponent → exponent <+: mark :: rest → exponent = [])
    (text_eq : text = sign ++ (mantissa ++ mark :: rest)) : Departs text .noNumber
  /-- A word for a number with a sign in front. -/
  | signedWord {sign word rest : List Char} (signed : IsSign sign) (given : sign ≠ [])
    (listed : word.map Char.toLower ∈ words) (text_eq : text = sign ++ (word ++ rest)) :
    Departs text .noNumber
  /-- The long word for infinity, alone or with a unit letter behind it. -/
  | longWord {word rest : List Char} (listed : word.map Char.toLower = "infinity".toList)
    (followed : ∀ c after, rest = c :: after → c ∈ unitLetters) (text_eq : text = word ++ rest) :
    Departs text .unknownUnit

section Verdict

/-- What is said of a token for what follows the number in front, if one stands there. -/
def verdict : Option (List Char) → Except Fault Unit
  | none => .error .noNumber
  | some [] => .ok ()
  | some (c :: _) => if c ∈ unitLetters then .ok () else .error .unknownUnit

variable {text : List Char}

/-- The rules have one answer for a token. -/
theorem rules_iff (answer : Except Fault Unit) :
    Rules text answer ↔ answer = verdict (afterNumber? text) := by
  constructor
  · rintro (none | number | ⟨number, followed, known⟩ | ⟨number, followed, unknown⟩)
    · rw [reads_number.eq_none_iff.mpr none]
      rfl
    · rw [reads_number.eq_some_iff.mpr ⟨text, number, (List.append_nil text).symm⟩]
      rfl
    · rw [reads_number.eq_some_iff.mpr ⟨_, number, followed⟩, verdict, if_pos known]
    · rw [reads_number.eq_some_iff.mpr ⟨_, number, followed⟩, verdict, if_neg unknown]
  · rintro rfl
    cases taken : afterNumber? text with
    | none => exact .noNumber (reads_number.eq_none_iff.mp taken)
    | some rest =>
      obtain ⟨word, number, text_eq⟩ := reads_number.eq_some_iff.mp taken
      cases rest with
      | nil =>
        rw [List.append_nil] at text_eq
        exact .plain (text_eq ▸ number)
      | cons c after =>
        by_cases known : c ∈ unitLetters
        · rw [verdict, if_pos known]
          exact .unit number text_eq known
        · rw [verdict, if_neg known]
          exact .unknownUnit number text_eq known

/-- A letter has a factor exactly if it stands for a unit. -/
theorem isSome_unitFactor? (c : Char) : (unitFactor? c).isSome = decide (c ∈ unitLetters) := by
  unfold unitFactor?
  split <;> simp_all [unitLetters]

/-- What is said of a token depends on what the reader leaves. -/
theorem ofToken_verdict (token : String) :
    ((ofToken token).map fun _ => ()) =
      verdict ((leadingNumber? token.toList).map Prod.snd) := by
  unfold ofToken
  cases leadingNumber? token.toList with
  | none => rfl
  | some found =>
    obtain ⟨number, rest⟩ := found
    cases rest with
    | nil => rfl
    | cons c after =>
      have known := isSome_unitFactor? c
      dsimp only [Option.map_some, verdict]
      cases factor : unitFactor? c with
      | none =>
        rw [factor] at known
        rw [if_neg (by simpa using known.symm)]
        rfl
      | some factor' =>
        rw [factor] at known
        rw [if_pos (by simpa using known.symm)]
        rfl

/-- The reader of hexadecimal numbers leaves what follows one. -/
theorem leadingHexadecimal?_rest (text : List Char) :
    (leadingHexadecimal? text).map Prod.snd = afterHexadecimal? (leadingSign text).2 := by
  unfold leadingHexadecimal? afterHexadecimal? afterScaled? afterMantissa? afterExponent
  dsimp only
  cases afterHexMark? (leadingSign text).2 with
  | none => rfl
  | some digits =>
    dsimp only [Option.bind_eq_bind, Option.bind_some]
    cases leadingMantissa? 16 digits with
    | none => rfl
    | some mantissa =>
      obtain ⟨whole, fraction, rest⟩ := mantissa
      dsimp only [Option.bind_some, Option.map_some]
      cases leadingExponent 'p' 'P' rest <;> rfl

/-- How the reader of decimals ends: without a mantissa, at a mark of an exponent without the
exponent, or with what follows the decimal. -/
theorem leadingDecimal_cases (text : List Char) :
    (leadingDecimal text = .nothing ∧ afterMantissa? 10 (leadingSign text).2 = none) ∨
      ∃ behind, afterMantissa? 10 (leadingSign text).2 = some behind ∧
        (leadingDecimal text = .brokenExponent ∧ leadingExponent 'e' 'E' behind = .incomplete ∨
          (∃ value, leadingDecimal text = .number value (afterExponent 'e' 'E' behind)) ∧
            leadingExponent 'e' 'E' behind ≠ .incomplete) := by
  unfold leadingDecimal afterMantissa? afterExponent
  dsimp only
  cases leadingMantissa? 10 (leadingSign text).2 with
  | none => exact .inl ⟨rfl, rfl⟩
  | some mantissa =>
    obtain ⟨whole, fraction, behind⟩ := mantissa
    refine .inr ⟨behind, rfl, ?_⟩
    dsimp only
    cases leadingExponent 'e' 'E' behind with
    | absent => exact .inr ⟨⟨_, rfl⟩, nofun⟩
    | incomplete => exact .inl ⟨rfl, rfl⟩
    | complete exponent after => exact .inr ⟨⟨_, rfl⟩, nofun⟩

end Verdict

section Departing

variable {text : List Char}

/-- A text that begins with a word for a number, after an optional sign, is read as no number in
digits. -/
theorem leadingNumber?_of_word {sign word : List Char} (signed : IsSign sign)
    (listed : word.map Char.toLower ∈ words) (rest : List Char) :
    leadingNumber? (sign ++ (word ++ rest)) = leadingWord? (sign ++ (word ++ rest)) ∧
      afterNumber? (sign ++ (word ++ rest)) = afterWord? (word ++ rest) := by
  obtain ⟨noMark, noMantissa, unsigned⟩ := not_numeral_of_word listed rest
  have body := leadingSign_append signed (unsigned.append rest)
  have noHexadecimal : afterHexadecimal? (word ++ rest) = none := by
    rw [afterHexadecimal?, noMark]
    rfl
  have unread := leadingHexadecimal?_rest (sign ++ (word ++ rest))
  rw [body, noHexadecimal, Option.map_eq_none_iff] at unread
  constructor
  · rcases leadingDecimal_cases (sign ++ (word ++ rest)) with ⟨nothing, -⟩ | ⟨_, taken, -⟩
    · rw [leadingNumber?, unread, nothing]
    · rw [body, noMantissa] at taken
      cases taken
  · rw [afterNumber?, body, afterUnsigned?, noHexadecimal, afterScaled?, noMantissa]
    rfl

/-- No hexadecimal mark stands where a decimal mantissa ends at the mark of an exponent. -/
theorem afterHexMark?_of_mantissa {mantissa rest : List Char} {mark : Char}
    (isMantissa : IsMantissa 10 mantissa) (marked : mark = 'e' ∨ mark = 'E') :
    afterHexMark? (mantissa ++ mark :: rest) = none := by
  cases found : afterHexMark? (mantissa ++ mark :: rest) with
  | none => rfl
  | some digits =>
    obtain ⟨x, isMark, text_eq⟩ := afterHexMark?_sound found
    match mantissa with
    | [] =>
      obtain ⟨_, _, same, _⟩ := isMantissa.unsigned
      cases same
    | [c] =>
      have same : mark = x := (List.cons.inj (List.cons.inj text_eq).2).1
      rcases marked with rfl | rfl <;> rcases isMark with rfl | rfl <;> cases same
    | c :: d :: others =>
      have same : d = x := (List.cons.inj (List.cons.inj text_eq).2).1
      have kind := isMantissa.mem (show d ∈ c :: d :: others by simp)
      rw [same] at kind
      rcases isMark with rfl | rfl <;> exact absurd kind (by decide)

/-- A mark of an exponent that no exponent follows is read as such. -/
theorem leadingExponent_of_broken {mark : Char} {rest : List Char}
    (marked : mark = 'e' ∨ mark = 'E') (broken : ∀ exponent, IsExponent 'e' 'E' exponent →
      exponent <+: mark :: rest → exponent = []) :
    leadingExponent 'e' 'E' (mark :: rest) = .incomplete := by
  have longest : LongestWord (IsExponent 'e' 'E') ([] ++ mark :: rest) [] := by
    refine ⟨.absent, List.nil_prefix, fun other isExponent front => ?_⟩
    exact Nat.le_of_eq (congrArg List.length (broken other isExponent front))
  rcases leadingExponent_cases longest with ⟨given, -⟩ | ⟨-, -, incomplete⟩ | ⟨-, unmarked, -⟩
  · exact absurd rfl given
  · exact incomplete
  · exact absurd ⟨mark, rest, rfl, marked⟩ unmarked

/-- No word for a number is read from a text that begins with a sign. -/
theorem leadingWord?_of_sign {sign : Char} (isSign : sign = '+' ∨ sign = '-') (rest : List Char) :
    leadingWord? (sign :: rest) = none := by
  have other : sign.toLower ≠ 'n' ∧ sign.toLower ≠ 'i' := by rcases isSign with rfl | rfl <;> decide
  simp [leadingWord?, other.1, other.2]

/-- What is left of the long word is no unit. -/
theorem leadingWord?_of_long {word : List Char} (long : word.map Char.toLower = "infinity".toList)
    (rest : List Char) :
    ∃ value c after, leadingWord? (word ++ rest) = some (value, c :: after) ∧ c ∉ unitLetters := by
  have eight : word.length = 8 := by simpa using congrArg List.length long
  have front : ((word ++ rest).take 3).map Char.toLower = ['i', 'n', 'f'] := by
    rw [List.take_append_of_le_length (by omega), List.map_take, long]
    rfl
  have behind : (word.drop 3).map Char.toLower = ['i', 'n', 'i', 't', 'y'] := by
    rw [List.map_drop, long]
    rfl
  obtain ⟨c, tail, word_eq, lower, -⟩ := List.map_eq_cons_iff.mp behind
  refine ⟨Binary64.infinity, c, tail ++ rest, ?_, ?_⟩
  · rw [leadingWord?, front, List.drop_append_of_le_length (by omega), word_eq]
    rfl
  · intro unit
    have others : unitLetters.all (·.toLower != 'i') = true := by decide
    have other := List.all_eq_true.mp others c unit
    rw [lower] at other
    cases other

/-- A token that departs from the rules is refused. -/
theorem verdict_of_departs {fault : Fault} (departs : Departs text fault) :
    verdict ((leadingNumber? text).map Prod.snd) = .error fault := by
  cases departs with
  | @brokenExponent sign mantissa rest mark signed isMantissa marked broken text_eq =>
    have body := leadingSign_append signed (isMantissa.unsigned.append (mark :: rest))
    have unread := leadingHexadecimal?_rest text
    rw [text_eq, body, afterHexadecimal?, afterHexMark?_of_mantissa isMantissa marked,
      Option.bind_none, Option.map_eq_none_iff, ← text_eq] at unread
    have ends : EndsMantissa 10 (mark :: rest) :=
      endsMantissa_cons (by rcases marked with rfl | rfl <;> decide) rest
    obtain ⟨left, taken, -, exact_left⟩ := afterMantissa?_append isMantissa (mark :: rest)
    rw [exact_left ends] at taken
    have incomplete := leadingExponent_of_broken marked broken
    have decimal : leadingDecimal text = .brokenExponent := by
      rcases leadingDecimal_cases text with ⟨-, nothing⟩ | ⟨behind, found, either⟩
      · rw [text_eq, body, taken] at nothing
        cases nothing
      · rw [text_eq, body, taken] at found
        cases found
        rcases either with ⟨decimal, -⟩ | ⟨-, other⟩
        · exact decimal
        · exact absurd incomplete other
    rw [leadingNumber?, unread, decimal]
    rfl
  | @signedWord sign word rest signed given listed text_eq =>
    have unread : leadingWord? text = none := by
      cases signed with
      | absent => exact absurd rfl given
      | plus => rw [text_eq]; exact leadingWord?_of_sign (.inl rfl) _
      | minus => rw [text_eq]; exact leadingWord?_of_sign (.inr rfl) _
    have word_read := (leadingNumber?_of_word signed listed rest).1
    rw [← text_eq] at word_read
    rw [word_read, unread]
    rfl
  | @longWord word rest long followed text_eq =>
    have listed : word.map Char.toLower ∈ words := by rw [long]; decide
    have word_read := (leadingNumber?_of_word .absent listed rest).1
    obtain ⟨value, c, after, taken, unknown⟩ := leadingWord?_of_long long rest
    rw [List.nil_append, ← text_eq] at word_read
    rw [← text_eq] at taken
    rw [word_read, taken, Option.map_some, verdict, if_neg unknown]

/-- The rules say something else of a token that departs from them. -/
theorem not_rules_of_departs {fault : Fault} (departs : Departs text fault) :
    ¬ Rules text (.error fault) := by
  cases departs with
  | @brokenExponent sign mantissa rest mark signed isMantissa marked broken text_eq =>
    rintro ⟨none⟩
    have scaled : IsScaled 10 'e' 'E' (mantissa ++ []) := ⟨isMantissa, .absent⟩
    rw [List.append_nil] at scaled
    refine none (sign ++ mantissa) ⟨sign, mantissa, signed, .decimal scaled, rfl⟩ ?_
    exact ⟨mark :: rest, by rw [text_eq, List.append_assoc]⟩
  | @signedWord sign word rest signed given listed text_eq =>
    rintro ⟨none⟩
    refine none (sign ++ word) ⟨sign, word, signed, .word listed, rfl⟩ ?_
    exact ⟨rest, by rw [text_eq, List.append_assoc]⟩
  | @longWord word rest long followed text_eq =>
    intro refused
    have listed : word.map Char.toLower ∈ words := by rw [long]; decide
    have word_read := (leadingNumber?_of_word .absent listed rest).2
    rw [List.nil_append, ← text_eq, text_eq, afterWord?_long long] at word_read
    rw [rules_iff, text_eq, word_read] at refused
    cases rest with
    | nil => cases refused
    | cons c after =>
      rw [verdict, if_pos (followed c after rfl)] at refused
      cases refused

/-- Where the reader of decimals stops at the mark of an exponent, the token departs from the
rules. -/
theorem departs_of_brokenExponent {behind : List Char}
    (taken : afterMantissa? 10 (leadingSign text).2 = some behind)
    (incomplete : leadingExponent 'e' 'E' behind = .incomplete) : Departs text .noNumber := by
  obtain ⟨sign, signed, text_eq, -⟩ := leadingSign_sound text
  obtain ⟨mantissa, isMantissa, body_eq⟩ := afterMantissa?_sound taken
  obtain ⟨mark, rest, rfl, marked⟩ := marked_iff.mpr (by rw [incomplete]; nofun)
  refine .brokenExponent signed isMantissa marked ?_ (body_eq ▸ text_eq)
  rintro exponent isExponent ⟨after, front⟩
  have shorter := length_afterExponent_le isExponent after
  rw [front, afterExponent, incomplete, ← front, List.length_append] at shorter
  exact List.length_eq_zero_iff.mp (by omega)

/-- Without a sign, words are read by the rules, the long one excepted. -/
theorem verdict_leadingWord? (regular : ∀ fault, ¬ Departs text fault) :
    verdict ((leadingWord? text).map Prod.snd) = verdict (afterWord? text) := by
  by_cases long : (text.take 8).map Char.toLower = "infinity".toList
  · obtain ⟨value, c, after, taken, unknown⟩ := leadingWord?_of_long long (text.drop 8)
    have whole := afterWord?_long long (text.drop 8)
    rw [List.take_append_drop] at taken whole
    rw [taken, whole, Option.map_some, verdict, if_neg unknown]
    cases rest_eq : text.drop 8 with
    | nil =>
      refine absurd (.longWord long ?_ (text.take_append_drop 8).symm) (regular .unknownUnit)
      rw [rest_eq]
      nofun
    | cons c after =>
      by_cases known : c ∈ unitLetters
      · refine absurd (.longWord long ?_ (text.take_append_drop 8).symm) (regular .unknownUnit)
        rw [rest_eq]
        rintro _ _ ⟨⟩
        exact known
      · rw [verdict, if_neg known]
  · have three : ((text.take 3).map Char.toLower).length ≠ 8 := by
      rw [List.length_map, List.length_take]
      omega
    have other : (text.take 3).map Char.toLower ≠ "infinity".toList := by
      intro same
      rw [same] at three
      exact three rfl
    unfold leadingWord? afterWord?
    rw [if_neg long]
    simp only [words, List.mem_cons, List.not_mem_nil, or_false, other, false_or]
    split
    · next nan => simp [nan]
    · split
      · next inf => simp [inf]
      · simp_all

/-- A token is answered by the rules unless it departs from them. -/
theorem verdict_of_regular (regular : ∀ fault, ¬ Departs text fault) :
    verdict ((leadingNumber? text).map Prod.snd) = verdict (afterNumber? text) := by
  have hexadecimal := leadingHexadecimal?_rest text
  unfold leadingNumber? afterNumber? afterUnsigned?
  rw [← hexadecimal]
  cases leadingHexadecimal? text with
  | some found => rfl
  | none =>
    rw [Option.map_none, Option.none_or]
    rcases leadingDecimal_cases text with ⟨decimal, nothing⟩ | ⟨behind, taken, either⟩
    · rw [decimal, afterScaled?, nothing, Option.map_none, Option.none_or]
      obtain ⟨sign, signed, text_eq, -⟩ := leadingSign_sound text
      have signedCase : sign ≠ [] → leadingWord? text = none →
          verdict ((leadingWord? text).map Prod.snd) =
            verdict (afterWord? (leadingSign text).2) := by
        intro given unread
        rw [unread]
        cases found : afterWord? (leadingSign text).2 with
        | none => rfl
        | some rest =>
          obtain ⟨word, listed, body_eq⟩ := reads_word.sound _ rest found
          exact absurd (.signedWord signed given listed (body_eq ▸ text_eq)) (regular .noNumber)
      cases signed with
      | absent =>
        rw [List.nil_append] at text_eq
        rw [← text_eq]
        exact verdict_leadingWord? regular
      | plus =>
        refine signedCase (by decide) ?_
        rw [text_eq]
        exact leadingWord?_of_sign (.inl rfl) _
      | minus =>
        refine signedCase (by decide) ?_
        rw [text_eq]
        exact leadingWord?_of_sign (.inr rfl) _
    · rcases either with ⟨-, incomplete⟩ | ⟨⟨value, decimal⟩, -⟩
      · exact absurd (departs_of_brokenExponent taken incomplete) (regular .noNumber)
      · rw [decimal, afterScaled?, taken]
        rfl

end Departing

/-- A token is answered by the rules for numbers in front exactly if it does not depart from them,
and one that departs from them is refused for the fault that is told of it. -/
theorem ofToken_rules_iff (token : String) :
    (Rules token.toList ((ofToken token).map fun _ => ()) ↔
        ∀ fault, ¬ Departs token.toList fault) ∧
      ∀ fault, Departs token.toList fault → ofToken token = .error fault := by
  have refused : ∀ fault, Departs token.toList fault →
      ((ofToken token).map fun _ => ()) = .error fault := by
    intro fault departs
    rw [ofToken_verdict, verdict_of_departs departs]
  refine ⟨⟨?_, ?_⟩, ?_⟩
  · intro rules fault departs
    rw [refused fault departs] at rules
    exact not_rules_of_departs departs rules
  · intro regular
    rw [rules_iff, ofToken_verdict, verdict_of_regular regular]
  · intro fault departs
    have answer := refused fault departs
    cases found : ofToken token with
    | ok hz => rw [found] at answer; cases answer
    | error other =>
      rw [found] at answer
      cases answer
      rfl

/-- One token of each kind that departs from the rules. -/
theorem ofToken_departing :
    ofToken "1e" = .error .noNumber ∧ ofToken "-nan" = .error .noNumber ∧
      ofToken "infinity" = .error .unknownUnit := by
  refine ⟨(ofToken_rules_iff _).2 _ ?_, (ofToken_rules_iff _).2 _ ?_, (ofToken_rules_iff _).2 _ ?_⟩
  · have one : IsMantissa 10 ['1'] := isMantissa_singleton (by decide)
    refine .brokenExponent .absent one (.inl rfl) ?_ rfl
    rintro exponent isExponent front
    cases isExponent with
    | absent => rfl
    | @complete mark sign digits marked signed given all =>
      have short := front.length_le
      rw [List.length_cons, List.length_append, List.length_singleton] at short
      exact absurd (List.length_eq_zero_iff.mp (by omega)) given
  · have text_eq : "-nan".toList = ['-'] ++ ("nan".toList ++ []) := rfl
    exact .signedWord .minus (by decide) (by decide) text_eq
  · have text_eq : "infinity".toList = "infinity".toList ++ [] := rfl
    exact .longWord (by decide) (fun c after empty => by cases empty) text_eq

/-- By the rules `1e` is a number with something else than a unit behind it, but it is refused as no
number at all. -/
theorem not_rules_openExponent :
    ¬ Rules "1e".toList ((ofToken "1e").map fun _ => ()) ∧
      Rules "1e".toList (.error .unknownUnit) := by
  have refused : ((ofToken "1e").map fun _ => ()) = .error .noNumber := rfl
  have ruled : Rules "1e".toList (.error .unknownUnit) := (rules_iff _).mpr rfl
  refine ⟨?_, ruled⟩
  rw [refused, rules_iff, ← (rules_iff _).mp ruled]
  nofun

end BoardSupervisor.Frequency
