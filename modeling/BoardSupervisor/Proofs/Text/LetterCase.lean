import BoardSupervisor.Text.Basic
import Mathlib.Data.List.Forall2

/-!
# Characters and tokens in either case

Only twenty-six characters are changed when a text is folded, each into its small letter. So
whatever does not tell these pairs apart does not depend on letter case, and that is checked letter
by letter. Blanks are no letters; hence folding a line folds its tokens and nothing else happens to
them.
-/

namespace BoardSupervisor.Text

/-- A text with each ASCII capital replaced by its small letter. -/
def fold (text : List Char) : List Char := text.map Char.toLower

/-- A text is folded character by character. -/
theorem fold_cons (c : Char) (rest : List Char) : fold (c :: rest) = c.toLower :: fold rest := rfl

/-- The folded characters of a text are its characters, folded. -/
theorem folded_eq (s : String) : folded s = fold s.toList := rfl

/-- What does not change when a text is folded is the same for texts that differ in letter case
alone. -/
theorem congr_of_folded {α : Type} {f : String → α}
    (stable : ∀ s, f (String.ofList (folded s)) = f s) {s t : String}
    (same : folded s = folded t) : f s = f t := by
  rw [← stable s, same, stable t]

/-- A character is kept when a text is folded, or it is a capital and gives way to its small
letter. -/
theorem toLower_cases (c : Char) :
    c.toLower = c ∨ ∃ n : Fin 26, c = Char.ofNat (65 + n) ∧ c.toLower = Char.ofNat (97 + n) := by
  by_cases capital : c.val ≥ 'A'.val ∧ c.val ≤ 'Z'.val
  · right
    have above : 65 ≤ c.toNat := capital.1
    have below : c.toNat ≤ 90 := capital.2
    have named : c = Char.ofNat (65 + (c.toNat - 65)) := by
      rw [Nat.add_sub_cancel' above, Char.ofNat_toNat]
    have small : ∀ n : Fin 26, (Char.ofNat (65 + n)).toLower = Char.ofNat (97 + n) := by decide
    have folded := small ⟨c.toNat - 65, by omega⟩
    dsimp only at folded
    rw [← named] at folded
    exact ⟨⟨c.toNat - 65, by omega⟩, named, folded⟩
  · left
    unfold Char.toLower
    rw [dif_neg capital]

/-- What is the same for each letter and its capital does not depend on letter case. -/
theorem apply_toLower {α : Type} {f : Char → α}
    (letters : ∀ n : Fin 26, f (Char.ofNat (97 + n)) = f (Char.ofNat (65 + n))) (c : Char) :
    f c.toLower = f c := by
  rcases toLower_cases c with same | ⟨n, named, folded⟩
  · rw [same]
  · rw [folded, letters n, ← named]

/-- A character that is no letter is met in a folded text where it is met in the text. -/
theorem toLower_eq {d : Char}
    (plain : ∀ n : Fin 26, (Char.ofNat (97 + n) = d) = (Char.ofNat (65 + n) = d)) (c : Char) :
    (c.toLower = d) = (c = d) :=
  apply_toLower (f := fun c => c = d) plain c

/-- A letter is met in a folded text, in one of its two cases, where it is met in the text. -/
theorem toLower_eq_or_eq {small capital : Char}
    (letter : ∀ n : Fin 26, (Char.ofNat (97 + n) = small ∨ Char.ofNat (97 + n) = capital) =
      (Char.ofNat (65 + n) = small ∨ Char.ofNat (65 + n) = capital)) (c : Char) :
    (c.toLower = small ∨ c.toLower = capital) = (c = small ∨ c = capital) :=
  apply_toLower (f := fun c => c = small ∨ c = capital) letter c

/-- A folded character is folded. -/
theorem toLower_toLower (c : Char) : c.toLower.toLower = c.toLower :=
  apply_toLower (by decide) c

/-- Two characters are the same, or they are the two cases of one ASCII letter. -/
def SameLetter (c d : Char) : Prop :=
  c = d ∨ ∃ n : Fin 26,
    (c = Char.ofNat (65 + n) ∧ d = Char.ofNat (97 + n)) ∨
      (c = Char.ofNat (97 + n) ∧ d = Char.ofNat (65 + n))

/-- Characters are folded into the same one exactly when they are the same but for letter case. -/
theorem toLower_eq_toLower_iff {c d : Char} : c.toLower = d.toLower ↔ SameLetter c d := by
  constructor
  · intro same
    rcases toLower_cases c with kept | ⟨n, capital, small⟩ <;>
      rcases toLower_cases d with kept' | ⟨k, capital', small'⟩
    · exact .inl (by rw [← kept, same, kept'])
    · exact .inr ⟨k, .inr ⟨by rw [← kept, same, small'], capital'⟩⟩
    · exact .inr ⟨n, .inl ⟨capital, by rw [← kept', ← same, small]⟩⟩
    · have distinct : ∀ n k : Fin 26, Char.ofNat (97 + n) = Char.ofNat (97 + k) → n = k := by decide
      have letter : n = k := distinct n k (by rw [← small, same, small'])
      exact .inl (by rw [capital, capital', letter])
  · have letters : ∀ n : Fin 26,
        (Char.ofNat (65 + n)).toLower = (Char.ofNat (97 + n)).toLower := by decide
    rintro (rfl | ⟨n, ⟨rfl, rfl⟩ | ⟨rfl, rfl⟩⟩)
    · rfl
    · exact letters n
    · exact (letters n).symm

/-- Two texts that are the same, character by character, but for the case of ASCII letters. -/
abbrev SameUpToCase (s t : String) : Prop := List.Forall₂ SameLetter s.toList t.toList

/-- Texts are alike when they are the same but for the case of ASCII letters. -/
theorem alike_iff_sameUpToCase {s t : String} : alike s t = true ↔ SameUpToCase s t := by
  rw [alike_iff, folded, folded, ← List.forall₂_eq_eq_eq, List.forall₂_map_left_iff,
    List.forall₂_map_right_iff]
  simp only [toLower_eq_toLower_iff]

instance (s t : String) : Decidable (SameUpToCase s t) :=
  decidable_of_iff (alike s t = true) alike_iff_sameUpToCase

/-- Under a name that is typed, the entry is found whose own name is the same but for letter case,
if no two entries have names that are the same in that sense. -/
theorem find?_alike_eq_some_iff {α : Type} {entries : List α} {nameOf : α → String}
    (apart : ∀ one ∈ entries, ∀ other ∈ entries,
      folded (nameOf one) = folded (nameOf other) → one = other) {typed : String} {entry : α} :
    (entries.find? fun entry => alike (nameOf entry) typed) = some entry ↔
      entry ∈ entries ∧ SameUpToCase typed (nameOf entry) := by
  have likeIff (entry : α) :
      alike (nameOf entry) typed = true ↔ SameUpToCase typed (nameOf entry) := by
    rw [← alike_iff_sameUpToCase, alike_iff, alike_iff, eq_comm]
  constructor
  · intro found
    have like : alike (nameOf entry) typed = true := by simpa using List.find?_some found
    exact ⟨List.mem_of_find?_eq_some found, (likeIff entry).mp like⟩
  · rintro ⟨listed, same⟩
    have someLike : ∃ entry ∈ entries, alike (nameOf entry) typed = true :=
      ⟨entry, listed, (likeIff entry).mpr same⟩
    obtain ⟨first, found⟩ := Option.isSome_iff_exists.mp (List.find?_isSome.mpr someLike)
    have like : alike (nameOf first) typed = true := by simpa using List.find?_some found
    have folded_eq : folded (nameOf first) = folded (nameOf entry) := by
      rw [alike_iff.mp like, ← alike_iff.mp ((likeIff entry).mpr same)]
    rw [found, apart first (List.mem_of_find?_eq_some found) entry listed folded_eq]

/-- Whether a character is a blank does not depend on letter case. -/
theorem isBlank_toLower (c : Char) : isBlank c.toLower = isBlank c :=
  apply_toLower (by decide) c

/-- A list that is mapped is cut in the same places. -/
theorem splitOnP_map {α β : Type} (f : α → β) (cut : β → Bool) (l : List α) :
    (l.map f).splitOnP cut = (l.splitOnP (cut ∘ f)).map (List.map f) := by
  induction l with
  | nil => rfl
  | cons x rest ih =>
    rw [List.map_cons, List.splitOnP_cons_eq_if_modifyHead, List.splitOnP_cons_eq_if_modifyHead, ih,
      Function.comp_apply]
    cases cut (f x) with
    | true => rfl
    | false =>
      rw [if_neg Bool.false_ne_true, if_neg Bool.false_ne_true]
      cases rest.splitOnP (cut ∘ f) <;> rfl

/-- The words of a folded line are its words, folded. -/
theorem words_fold (line : List Char) : words (fold line) = (words line).map fold := by
  have blank : isBlank ∘ Char.toLower = isBlank := funext isBlank_toLower
  have empty : (fun piece : List Char => !piece.isEmpty) ∘ List.map Char.toLower =
      fun piece => !piece.isEmpty := by
    funext piece
    cases piece <;> rfl
  unfold words fold
  rw [splitOnP_map, blank, List.filter_map, empty]

/-- Lines that differ in letter case alone have tokens that differ in letter case alone. -/
theorem tokens_folded {first second : String} (same : folded first = folded second) :
    (tokens first).map folded = (tokens second).map folded := by
  have told (line : String) :
      (tokens line).map folded = (words (folded line)).take maxTokens := by
    have folded_ofList : folded ∘ String.ofList = fold := by
      funext word
      unfold folded fold
      rw [Function.comp_apply, String.toList_ofList]
    unfold tokens
    rw [List.map_map, folded_ofList, List.map_take, ← words_fold]
    rfl
  rw [told, told, same]

end BoardSupervisor.Text
