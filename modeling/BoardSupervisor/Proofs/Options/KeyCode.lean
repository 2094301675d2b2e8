import BoardSupervisor.Options.Value
import BoardSupervisor.Proofs.Number.Addresses

/-!
# Key codes as a language

A whole number is read digit by digit and given up as soon as it is too large. As more digits never
make a number less, this is the same as comparing the number of the whole run of digits in front
with the greatest one, however long the run may be. A key code is such a number of at most 255, in
hexadecimal behind a mark; the text is told here apart from its reader, and the reader is shown to
accept these texts and no other ones.
-/

namespace BoardSupervisor.Value

open Number Text

/-- The plus that a whole number may begin with. -/
def IsPlus (plus : List Char) : Prop := plus = [] ∨ plus = ['+']

/-- A whole number as it is written, and the number: an optional plus and one or more digits. -/
inductive Spells (base : Nat) : List Char → Nat → Prop
  /-- The two parts. -/
  | mk {plus digits : List Char} (isPlus : IsPlus plus) (given : digits ≠ [])
    (all : AreDigits base digits) :
    Spells base (plus ++ digits) (ofDigits base (digitValues base digits))

/-- A key code as it is written, and its number. -/
inductive SpellsKey : List Char → Nat → Prop
  /-- In decimal. -/
  | decimal {text : List Char} {n : Nat} (spelled : Spells 10 text n) : SpellsKey text n
  /-- In hexadecimal, behind a mark. -/
  | hexadecimal {mark body : List Char} {n : Nat} (isMark : IsHexMark mark)
    (spelled : Spells 16 body n) : SpellsKey (mark ++ body) n

section WholeNumbers

variable {base greatest : Nat}

/-- Behind digits that can be held, the whole run of digits tells whether the number becomes too
large on the way, as no later digits make up for one that it ends with, and nothing may follow the
run. -/
theorem digits_eq (positive : 0 < base) {before : List Nat}
    (held : ofDigits base before ≤ greatest) (text : List Char) :
    digits base greatest (ofDigits base before) text =
      if greatest < ofDigits base (before ++ (leadingDigits base text).1) then .error .tooLarge
      else if (leadingDigits base text).2 = [] then
        .ok (ofDigits base (before ++ (leadingDigits base text).1))
      else .error .invalidDigit := by
  induction text generalizing before with
  | nil => simp [digits, leadingDigits, digitValues, Nat.not_lt.mpr held]
  | cons c rest ih =>
    cases found : digit? base c with
    | none =>
      have other : isDigit base c = false := by rw [isDigit, found, Option.isSome_none]
      simp [digits, found, leadingDigits_of_not other, Nat.not_lt.mpr held]
    | some d =>
      have digit : isDigit base c = true := by rw [isDigit, found, Option.isSome_some]
      have more : leadingDigits base (c :: rest) =
          (d :: (leadingDigits base rest).1, (leadingDigits base rest).2) := by
        simp [leadingDigits, digitValues, digit, found]
      have behind : before ++ d :: (leadingDigits base rest).1 =
          before ++ [d] ++ (leadingDigits base rest).1 := by simp
      rw [digits, found, more, behind]
      dsimp only
      rw [← ofDigits_concat]
      split
      · next beyond =>
        have farther := le_ofDigits_append positive (before ++ [d]) (leadingDigits base rest).1
        exact (if_pos (Nat.lt_of_lt_of_le beyond farther)).symm
      · next within => exact ih (Nat.not_lt.mp within)

/-- A text without the plus that it may begin with. -/
def afterPlus : List Char → List Char
  | '+' :: rest => rest
  | text => text

/-- What is taken off is a plus or nothing. -/
theorem afterPlus_sound (text : List Char) :
    ∃ plus, IsPlus plus ∧ text = plus ++ afterPlus text := by
  unfold afterPlus
  split
  · exact ⟨['+'], .inr rfl, rfl⟩
  · exact ⟨[], .inl rfl, rfl⟩

/-- A plus in front of digits is taken off, and nothing else is. -/
theorem afterPlus_append {plus digits : List Char} (isPlus : IsPlus plus) (given : digits ≠ [])
    (all : AreDigits base digits) (rest : List Char) :
    afterPlus (plus ++ digits ++ rest) = digits ++ rest := by
  obtain ⟨c, others, rfl⟩ := List.exists_cons_of_ne_nil given
  obtain ⟨_, _, same, noPlus, -⟩ := unsigned_of_digit (all c List.mem_cons_self) others
  obtain ⟨rfl, rfl⟩ := List.cons.inj same
  rcases isPlus with rfl | rfl
  · simp [afterPlus, noPlus]
  · rfl

/-- Where something is left without the plus, digits are read from there. -/
theorem wholeNumber_of_body {text : List Char} (given : afterPlus text ≠ []) :
    wholeNumber base greatest text = digits base greatest 0 (afterPlus text) := by
  unfold wholeNumber
  split
  · exact absurd rfl given
  · exact absurd rfl given
  · rfl
  · next noPlus => rw [afterPlus]; exact noPlus

/-- A whole number, read at once: the run of digits behind the plus is compared with the greatest
number, and has to be all there is. Without digits the text is empty or a plus alone. -/
theorem wholeNumber_eq (positive : 0 < base) (text : List Char) :
    wholeNumber base greatest text =
      if afterPlus text = [] then
        if text = [] then .error .empty else .error .invalidDigit
      else if greatest < ofDigits base (leadingDigits base (afterPlus text)).1 then
        .error .tooLarge
      else if (leadingDigits base (afterPlus text)).2 = [] then
        .ok (ofDigits base (leadingDigits base (afterPlus text)).1)
      else .error .invalidDigit := by
  by_cases bare : afterPlus text = []
  · obtain ⟨plus, isPlus, text_eq⟩ := afterPlus_sound text
    rw [bare, List.append_nil] at text_eq
    rcases isPlus with rfl | rfl <;> rw [text_eq] <;> rfl
  · rw [wholeNumber_of_body bare, if_neg bare]
    exact @digits_eq base greatest positive [] (Nat.zero_le greatest) (afterPlus text)

/-- A whole number is spelled exactly by digits that go on to the end. -/
theorem spells_iff {text : List Char} {n : Nat} :
    Spells base text n ↔ afterPlus text ≠ [] ∧ (leadingDigits base (afterPlus text)).2 = [] ∧
      ofDigits base (leadingDigits base (afterPlus text)).1 = n := by
  constructor
  · rintro ⟨isPlus, given, all⟩
    have body := afterPlus_append isPlus given all []
    have taken := leadingDigits_append all []
    rw [List.append_nil] at taken
    rw [List.append_nil, List.append_nil] at body
    rw [body, taken]
    simp [given, leadingDigits, digitValues]
  · rintro ⟨given, ended, rfl⟩
    obtain ⟨plus, isPlus, text_eq⟩ := afterPlus_sound text
    obtain ⟨digits, all, body_eq, values⟩ := leadingDigits_sound base (afterPlus text)
    rw [ended, List.append_nil] at body_eq
    rw [body_eq] at given text_eq
    rw [values, text_eq]
    exact .mk isPlus given all

/-- A whole number in front of a text is not above that of the whole run of digits there. -/
theorem Spells.le_leadingDigits (positive : 0 < base) {text word : List Char} {n : Nat}
    (spelled : Spells base word n) (front : word <+: text) :
    n ≤ ofDigits base (leadingDigits base (afterPlus text)).1 := by
  obtain ⟨isPlus, given, all⟩ := spelled
  obtain ⟨rest, rfl⟩ := front
  rw [afterPlus_append isPlus given all, leadingDigits_append all]
  exact le_ofDigits_append positive _ _

/-- The run of digits in front of a text spells a whole number, unless it is empty. -/
theorem exists_spells_front {text : List Char}
    (given : (leadingDigits base (afterPlus text)).1 ≠ []) :
    ∃ word, word <+: text ∧
      Spells base word (ofDigits base (leadingDigits base (afterPlus text)).1) := by
  obtain ⟨plus, isPlus, text_eq⟩ := afterPlus_sound text
  obtain ⟨digits, all, body_eq, values⟩ := leadingDigits_sound base (afterPlus text)
  rw [values] at given ⊢
  refine ⟨plus ++ digits, ⟨(leadingDigits base (afterPlus text)).2, ?_⟩, .mk isPlus ?_ all⟩
  · rw [List.append_assoc, ← body_eq, ← text_eq]
  · exact mt (digitValues_eq_nil_iff all).mpr given

/-- A whole number is read exactly where it is spelled and not too large. -/
theorem wholeNumber_eq_ok_iff (positive : 0 < base) {text : List Char} {n : Nat} :
    wholeNumber base greatest text = .ok n ↔ Spells base text n ∧ n ≤ greatest := by
  constructor
  · intro read
    rw [wholeNumber_eq positive] at read
    split_ifs at read with bare nothing beyond ended
    cases read
    exact ⟨spells_iff.mpr ⟨bare, ended, rfl⟩, Nat.not_lt.mp beyond⟩
  · rintro ⟨spelled, fits⟩
    obtain ⟨given, ended, rfl⟩ := spells_iff.mp spelled
    rw [wholeNumber_eq positive, if_neg given, if_neg (Nat.not_lt.mpr fits), if_pos ended]

/-- A text is refused as too large a number exactly where it begins with one, whatever follows. -/
theorem wholeNumber_eq_tooLarge_iff (positive : 0 < base) {text : List Char} :
    wholeNumber base greatest text = .error .tooLarge ↔
      ∃ word n, word <+: text ∧ Spells base word n ∧ greatest < n := by
  constructor
  · intro refused
    have beyond : greatest < ofDigits base (leadingDigits base (afterPlus text)).1 := by
      by_contra within
      rw [wholeNumber_eq positive, if_neg within] at refused
      split_ifs at refused <;> cases refused
    have given : (leadingDigits base (afterPlus text)).1 ≠ [] := by
      intro none
      rw [none] at beyond
      exact absurd beyond (Nat.not_lt_zero greatest)
    obtain ⟨word, front, spelled⟩ := exists_spells_front given
    exact ⟨word, _, front, spelled, beyond⟩
  · rintro ⟨word, n, front, spelled, beyond⟩
    have runBeyond := Nat.lt_of_lt_of_le beyond (spelled.le_leadingDigits positive front)
    have given : afterPlus text ≠ [] := by
      intro bare
      rw [bare] at runBeyond
      exact absurd runBeyond (Nat.not_lt_zero greatest)
    rw [wholeNumber_eq positive, if_neg given, if_pos runBeyond]

end WholeNumbers

section KeyCodes

variable {text word mark : List Char} {n : Nat}

/-- Behind a mark a key code is read in hexadecimal. -/
theorem keyCodeNumber_marked (isMark : IsHexMark mark) (body : List Char) :
    keyCodeNumber (mark ++ body) = wholeNumber 16 255 body := by
  rcases isMark with rfl | rfl <;> rfl

/-- Without a mark a key code is read in decimal. -/
theorem keyCodeNumber_plain (none : ∀ mark, IsHexMark mark → ¬ mark <+: text) :
    keyCodeNumber text = wholeNumber 10 255 text := by
  rw [keyCodeNumber, afterHexMark?_of_none none]

/-- In decimal a mark is a zero with something behind it. -/
theorem leadingDigits_marked (isMark : IsHexMark mark) (body : List Char) :
    (leadingDigits 10 (afterPlus (mark ++ body))).1 = [0] ∧
      (leadingDigits 10 (afterPlus (mark ++ body))).2 ≠ [] := by
  rcases isMark with rfl | rfl <;> exact ⟨rfl, List.cons_ne_nil _ _⟩

/-- What stands behind a mark does not depend on how the mark is written. -/
theorem hexMark_append_inj {other body behind : List Char} (isMark : IsHexMark mark)
    (isOther : IsHexMark other) (same : mark ++ body = other ++ behind) : body = behind := by
  have lengths : mark.length = other.length := by
    rcases isMark with rfl | rfl <;> rcases isOther with rfl | rfl <;> rfl
  exact (List.append_inj same lengths).2

/-- What follows a mark in a key code is spelled in hexadecimal. -/
theorem spellsKey_marked_iff (isMark : IsHexMark mark) {body : List Char} :
    SpellsKey (mark ++ body) n ↔ Spells 16 body n := by
  constructor
  · intro spelled
    generalize same : mark ++ body = text at spelled
    cases spelled with
    | decimal spelled =>
      rw [← same] at spelled
      exact absurd (spells_iff.mp spelled).2.1 (leadingDigits_marked isMark body).2
    | hexadecimal isOther spelled =>
      rwa [hexMark_append_inj isMark isOther same]
  · exact .hexadecimal isMark

/-- A key code in front of a text with a mark is zero, since in decimal the letter of the mark ends
the digits, or it goes on behind the mark. -/
theorem SpellsKey.of_marked {body : List Char} (isMark : IsHexMark mark)
    (spelled : SpellsKey word n) (front : word <+: mark ++ body) :
    n = 0 ∨ ∃ word, word <+: body ∧ Spells 16 word n := by
  cases spelled with
  | decimal spelled =>
    have small := spelled.le_leadingDigits (by decide) front
    rw [(leadingDigits_marked isMark body).1] at small
    exact .inl (Nat.le_zero.mp small)
  | hexadecimal isOther spelled =>
    obtain ⟨rest, same⟩ := front
    rw [List.append_assoc] at same
    exact .inr ⟨_, ⟨rest, hexMark_append_inj isOther isMark same⟩, spelled⟩

/-- A key code in front of a text without a mark is spelled in decimal. -/
theorem SpellsKey.of_plain (none : ∀ mark, IsHexMark mark → ¬ mark <+: text)
    (spelled : SpellsKey word n) (front : word <+: text) : Spells 10 word n := by
  cases spelled with
  | decimal spelled => exact spelled
  | hexadecimal isMark spelled =>
    exact absurd ((List.prefix_append _ _).trans front) (none _ isMark)

/-- The number of a key code is read exactly where it is spelled and at most 255. -/
theorem keyCodeNumber_eq_ok_iff : keyCodeNumber text = .ok n ↔ SpellsKey text n ∧ n ≤ 255 := by
  rcases marked_or_plain text with ⟨mark, body, isMark, rfl⟩ | none
  · rw [keyCodeNumber_marked isMark, spellsKey_marked_iff isMark]
    exact wholeNumber_eq_ok_iff (by decide)
  · have decimal : SpellsKey text n ↔ Spells 10 text n :=
      ⟨fun spelled => spelled.of_plain none (List.prefix_refl text), .decimal⟩
    rw [keyCodeNumber_plain none, decimal]
    exact wholeNumber_eq_ok_iff (by decide)

/-- A text is refused as too large a key code exactly where it begins with one above 255. -/
theorem keyCodeNumber_eq_tooLarge_iff :
    keyCodeNumber text = .error .tooLarge ↔
      ∃ word n, word <+: text ∧ SpellsKey word n ∧ 255 < n := by
  rcases marked_or_plain text with ⟨mark, body, isMark, rfl⟩ | none
  · rw [keyCodeNumber_marked isMark, wholeNumber_eq_tooLarge_iff (by decide)]
    constructor
    · rintro ⟨word, n, front, spelled, beyond⟩
      exact ⟨mark ++ word, n, (List.prefix_append_right_inj mark).mpr front,
        .hexadecimal isMark spelled, beyond⟩
    · rintro ⟨word, n, front, spelled, beyond⟩
      rcases spelled.of_marked isMark front with rfl | ⟨word, behind, spelled⟩
      · exact absurd beyond (by decide)
      · exact ⟨word, n, behind, spelled, beyond⟩
  · rw [keyCodeNumber_plain none, wholeNumber_eq_tooLarge_iff (by decide)]
    constructor
    · rintro ⟨word, n, front, spelled, beyond⟩
      exact ⟨word, n, front, .decimal spelled, beyond⟩
    · rintro ⟨word, n, front, spelled, beyond⟩
      exact ⟨word, n, front, spelled.of_plain none front, beyond⟩

/-- A text that is refused as a key code is named with the reason. -/
theorem keyCode_eq_error_iff {text : String} {cause : IntegerFault} :
    keyCode text = .error (.keyCode text cause) ↔ keyCodeNumber text.toList = .error cause := by
  unfold keyCode
  cases keyCodeNumber text.toList <;> simp

/-- A text is accepted as a key code exactly where it spells the key. -/
theorem keyCode_eq_ok_iff {text : String} {key : UInt8} :
    keyCode text = .ok key ↔ SpellsKey text.toList key.toNat := by
  constructor
  · intro accepted
    unfold keyCode at accepted
    split at accepted
    · next n read =>
      obtain ⟨spelled, fits⟩ := keyCodeNumber_eq_ok_iff.mp read
      rw [← Except.ok.inj accepted, UInt8.toNat_ofNat_of_lt' (Nat.lt_succ_of_le fits)]
      exact spelled
    · cases accepted
  · intro spelled
    have read := keyCodeNumber_eq_ok_iff.mpr ⟨spelled, Nat.le_of_lt_succ key.toNat_lt⟩
    simp only [keyCode, read, UInt8.ofNat_toNat]

end KeyCodes

/-- Digits spell the number that they stand for behind a plus and any number of zeros, too. -/
theorem spells_zeros_append {base n : Nat} (positive : 0 < base) {plus run : List Char}
    (isPlus : IsPlus plus) (given : run ≠ []) (all : AreDigits base run)
    (denoted : ofDigits base (digitValues base run) = n) (zeros : Nat) :
    Spells base (plus ++ (List.replicate zeros '0' ++ run)) n := by
  rw [← denoted, ← ofDigits_zeros_append positive zeros]
  exact .mk isPlus (List.append_ne_nil_of_right_ne_nil _ given)
    (List.forall_mem_append.mpr ⟨areDigits_zeros positive zeros, all⟩)

/-- A text is accepted as a key code exactly where it spells a number of at most 255, and is then
the key of that number. Every other text is refused, as too large if it begins with a number above
255, however many digits there are and whatever follows. Every key can be given in decimal and in
hexadecimal, with or without a plus, in either case and with any number of zeros in front. -/
theorem keyCode_exact :
    (∀ text key, keyCode text = .ok key ↔
      ∃ n, SpellsKey text.toList n ∧ n ≤ 255 ∧ key.toNat = n) ∧
    (∀ text, (∃ cause, keyCode text = .error (.keyCode text cause)) ↔
      ¬ ∃ n, SpellsKey text.toList n ∧ n ≤ 255) ∧
    (∀ text, keyCode text = .error (.keyCode text .tooLarge) ↔
      ∃ word n, word <+: text.toList ∧ SpellsKey word n ∧ 255 < n) ∧
    ∀ (key : UInt8) plus zeros, IsPlus plus →
      keyCode (String.ofList
        (plus ++ (List.replicate zeros '0' ++ Nat.toDigits 10 key.toNat))) = .ok key ∧
      ∀ mark run, IsHexMark mark → fold run = Nat.toDigits 16 key.toNat →
        keyCode (String.ofList (mark ++ (plus ++ (List.replicate zeros '0' ++ run)))) =
          .ok key := by
  refine ⟨?accepted, ?refused, ?tooLarge, ?written⟩
  case accepted =>
    intro text key
    rw [keyCode_eq_ok_iff]
    constructor
    · intro spelled
      exact ⟨key.toNat, spelled, Nat.le_of_lt_succ key.toNat_lt, rfl⟩
    · rintro ⟨n, spelled, -, rfl⟩
      exact spelled
  case refused =>
    intro text
    simp only [keyCode_eq_error_iff, ← keyCodeNumber_eq_ok_iff]
    cases keyCodeNumber text.toList <;> simp
  case tooLarge =>
    intro text
    exact keyCode_eq_error_iff.trans keyCodeNumber_eq_tooLarge_iff
  case written =>
    intro key plus zeros isPlus
    constructor
    · obtain ⟨all, denoted⟩ := @toDigits_apply 10 (by decide) (by decide) key.toNat
      have spelled := spells_zeros_append (by decide) isPlus Nat.toDigits_ne_nil all denoted zeros
      rw [keyCode_eq_ok_iff, String.toList_ofList]
      exact .decimal spelled
    · intro mark run isMark written
      obtain ⟨given, all, denoted⟩ := toDigits_of_fold (by decide) (by decide) written
      have spelled := spells_zeros_append (by decide) isPlus given all denoted zeros
      rw [keyCode_eq_ok_iff, String.toList_ofList]
      exact .hexadecimal isMark spelled

/-- A mark, a plus, zeros and letters in both cases do not hide the greatest key, and one more is
refused whatever follows it. -/
theorem keyCode_exact_greatest :
    keyCode "0X+0000fF" = .ok 255 ∧
      keyCode "+00256 keys" = .error (.keyCode "+00256 keys" .tooLarge) := by
  have isMark : IsHexMark ['0', 'X'] := .inr rfl
  have isPlus : IsPlus ['+'] := .inr rfl
  have written : fold ['f', 'F'] = Nat.toDigits 16 (255 : UInt8).toNat := by decide
  have spelled : SpellsKey "+00256".toList 256 :=
    .decimal (.mk isPlus (List.cons_ne_nil _ _) (List.all_eq_true.mp (by decide)))
  have front : "+00256".toList <+: "+00256 keys".toList := by decide
  exact ⟨(keyCode_exact.2.2.2 255 ['+'] 4 isPlus).2 ['0', 'X'] ['f', 'F'] isMark written,
    (keyCode_exact.2.2.1 "+00256 keys").mpr ⟨_, 256, front, spelled, by decide⟩⟩

end BoardSupervisor.Value
