import BoardSupervisor.Text.Basic
import Mathlib.Data.List.Basic

/-!
# Lines laid out as words and gaps

A line can be taken apart into words and the gaps around them, and in one way only. The tokenizer
finds these words. That is said twice: the words are the runs of a line that blanks or its ends stop
on both sides, in order, none left out; and a line that is put together from words and gaps comes
apart into the same words. Both are read off one relation between words and the lines they can be
laid out in.
-/

namespace BoardSupervisor.Text

/-- The characters that separate tokens: the space, the tab, the line feed, the vertical tab, the
form feed and the carriage return. -/
def blanks : List Char := [' ', '\t', '\n', '\x0b', '\x0c', '\r']

/-- The characters that separate tokens are the listed ones. -/
theorem isBlank_iff {c : Char} : isBlank c = true ↔ c ∈ blanks := by
  simp [isBlank, blanks, or_assoc]

/-- A character that is not listed separates no tokens. -/
theorem isBlank_eq_false_iff {c : Char} : isBlank c = false ↔ c ∉ blanks := by
  rw [← isBlank_iff, Bool.not_eq_true]

/-- A gap has blanks only; it may be empty. -/
def IsGap (gap : List Char) : Prop := ∀ c ∈ gap, c ∈ blanks

/-- A word has one or more characters, none of them a blank. -/
structure IsWord (word : List Char) : Prop where
  /-- It is not empty. -/
  given : word ≠ []
  /-- It has no blank. -/
  solid : ∀ c ∈ word, c ∉ blanks

instance (gap : List Char) : Decidable (IsGap gap) :=
  decidable_of_iff (gap.all isBlank = true) (by simp only [List.all_eq_true, isBlank_iff, IsGap])

instance (word : List Char) : Decidable (IsWord word) :=
  decidable_of_iff (word ≠ [] ∧ word.all (fun c => !isBlank c) = true) (by
    simp only [List.all_eq_true, Bool.not_eq_true', isBlank_eq_false_iff]
    exact ⟨fun ⟨given, solid⟩ => ⟨given, solid⟩, fun solid => ⟨solid.given, solid.solid⟩⟩)

/-- What stands behind a word does not go on with it: it is empty or begins with a blank. -/
def Breaks (rest : List Char) : Prop := ∀ c ∈ rest.head?, c ∈ blanks

/-- Words laid out in a line, with gaps around them. -/
inductive LaidOut : List (List Char) → List Char → Prop
  /-- A gap has no words. -/
  | gap {gap : List Char} (blank : IsGap gap) : LaidOut [] gap
  /-- A word may have a gap in front of it. -/
  | word {gap word rest : List Char} {words : List (List Char)} (blank : IsGap gap)
      (solid : IsWord word) (breaks : Breaks rest) (behind : LaidOut words rest) :
      LaidOut (word :: words) (gap ++ (word ++ rest))

/-- A gap without its first blank is a gap. -/
theorem IsGap.tail {c : Char} {gap : List Char} (blank : IsGap (c :: gap)) : IsGap gap :=
  fun d member => blank d (List.mem_cons_of_mem c member)

/-- A gap breaks off a word. -/
theorem IsGap.breaks {gap : List Char} (blank : IsGap gap) : Breaks gap :=
  fun c first => blank c (List.mem_of_mem_head? first)

/-- A gap with a blank in it breaks off a word whatever follows. -/
theorem IsGap.breaks_append {gap : List Char} (blank : IsGap gap) (given : gap ≠ [])
    (rest : List Char) : Breaks (gap ++ rest) := by
  unfold Breaks
  rw [List.head?_append_of_ne_nil gap given]
  exact blank.breaks

/-- What follows a word does not break it off if a word follows. -/
theorem IsWord.not_breaks {word : List Char} (solid : IsWord word) (rest : List Char) :
    ¬ Breaks (word ++ rest) := by
  intro breaks
  cases word with
  | nil => exact solid.given rfl
  | cons c word => exact solid.solid c List.mem_cons_self (breaks c rfl)

section Words

variable {gap word rest line : List Char} {parts : List (List Char)}

/-- A blank belongs to no word. -/
theorem words_cons_of_mem {c : Char} (blank : c ∈ blanks) (line : List Char) :
    words (c :: line) = words line := by
  unfold words
  rw [List.splitOnP_cons_eq_if_modifyHead, if_pos (isBlank_iff.mpr blank)]
  rfl

/-- A gap belongs to no word. -/
theorem words_gap_append (blank : IsGap gap) (line : List Char) :
    words (gap ++ line) = words line := by
  induction gap with
  | nil => rfl
  | cons c gap ih =>
    rw [List.cons_append, words_cons_of_mem (blank c List.mem_cons_self), ih blank.tail]

/-- A gap has no words. -/
theorem words_gap (blank : IsGap gap) : words gap = [] := by
  have nothing := words_gap_append blank []
  rw [List.append_nil] at nothing
  exact nothing

/-- A word alone is its only word. -/
theorem words_word (solid : IsWord word) : words word = [word] := by
  unfold words
  rw [List.splitOnP_eq_singleton fun c member => isBlank_eq_false_iff.mpr (solid.solid c member)]
  simpa using solid.given

/-- A word that is broken off is the first of the words. -/
theorem words_word_append (solid : IsWord word) (breaks : Breaks rest) :
    words (word ++ rest) = word :: words rest := by
  cases rest with
  | nil =>
    rw [List.append_nil, words_word solid]
    rfl
  | cons c rest =>
    have blank : c ∈ blanks := breaks c rfl
    have cut : words (word ++ c :: rest) = words word ++ words rest := by
      unfold words
      rw [List.splitOnP_append_cons word rest (isBlank_iff.mpr blank), List.filter_append]
    rw [cut, words_word solid, words_cons_of_mem blank, List.singleton_append]

/-- Words that are laid out in a line are its words. -/
theorem words_of_laidOut (laid : LaidOut parts line) : words line = parts := by
  induction laid with
  | gap blank => exact words_gap blank
  | word blank solid breaks behind ih =>
    rw [words_gap_append blank, words_word_append solid breaks, ih]

/-- A blank in front of a line makes the first gap longer. -/
theorem LaidOut.cons_blank {c : Char} (blank : c ∈ blanks) (laid : LaidOut parts line) :
    LaidOut parts (c :: line) := by
  have longer {gap : List Char} (rest : IsGap gap) : IsGap (c :: gap) :=
    List.forall_mem_cons.mpr ⟨blank, rest⟩
  cases laid with
  | gap rest => exact .gap (longer rest)
  | word rest solid breaks behind => exact .word (longer rest) solid breaks behind

/-- A character that is no blank, in front of a line, makes the first word longer or is a word of
its own. -/
theorem LaidOut.cons_letter {c : Char} (letter : c ∉ blanks) (laid : LaidOut parts line) :
    ∃ longer, LaidOut longer (c :: line) := by
  have empty : IsGap [] := nofun
  have alone : IsWord [c] := ⟨List.cons_ne_nil c [], by simpa using letter⟩
  cases laid with
  | gap blank => exact ⟨[[c]], .word empty alone blank.breaks (.gap blank)⟩
  | @word gap word rest words blank solid breaks behind =>
    cases gap with
    | nil =>
      have joined : IsWord (c :: word) :=
        ⟨List.cons_ne_nil c word, List.forall_mem_cons.mpr ⟨letter, solid.solid⟩⟩
      exact ⟨(c :: word) :: words, .word empty joined breaks behind⟩
    | cons first front =>
      have apart : Breaks (first :: front ++ (word ++ rest)) :=
        blank.breaks_append (List.cons_ne_nil first front) (word ++ rest)
      exact ⟨[c] :: word :: words, .word empty alone apart (.word blank solid breaks behind)⟩

/-- Every line has its words laid out in it. -/
theorem laidOut_words (line : List Char) : LaidOut (words line) line := by
  have found : ∃ parts, LaidOut parts line := by
    induction line with
    | nil => exact ⟨[], .gap nofun⟩
    | cons c line ih =>
      obtain ⟨parts, laid⟩ := ih
      by_cases blank : c ∈ blanks
      · exact ⟨parts, laid.cons_blank blank⟩
      · exact laid.cons_letter blank
  obtain ⟨parts, laid⟩ := found
  rw [words_of_laidOut laid]
  exact laid

end Words

/-- A run of a line, behind a given part of it, that cannot be longer: it is a word, and on either
side a blank or the end of the line stops it. -/
structure IsMaximalRun (line before run : List Char) : Prop where
  /-- It is a word. -/
  solid : IsWord run
  /-- It goes back as far as it can. -/
  starts : ∀ c ∈ before.getLast?, c ∈ blanks
  /-- It goes on as far as it can. -/
  ends : ∃ rest, line = before ++ (run ++ rest) ∧ Breaks rest

/-- The maximal runs of a line, each with what stands before it, from left to right. -/
structure AreMaximalRuns (line : List Char) (runs : List (List Char × List Char)) : Prop where
  /-- They are maximal runs, and none is left out. -/
  complete : ∀ before run, (before, run) ∈ runs ↔ IsMaximalRun line before run
  /-- Each stands further right than those before it. -/
  ordered : runs.Pairwise fun first second => first.1.length < second.1.length

section Runs

variable {gap word rest before run : List Char}

/-- Two words that are broken off and begin in the same place are the same. -/
theorem IsWord.eq_of_append_eq {tail : List Char} (solid : IsWord word) (other : IsWord run)
    (breaks : Breaks rest) (ends : Breaks tail) (same : word ++ rest = run ++ tail) :
    word = run := by
  have first := words_word_append solid breaks
  rw [same, words_word_append other ends] at first
  exact (List.cons.inj first).1.symm

/-- A gap has no maximal run. -/
theorem not_isMaximalRun_gap (blank : IsGap gap) : ¬ IsMaximalRun gap before run := by
  intro maximal
  obtain ⟨rest, line_eq, -⟩ := maximal.ends
  obtain ⟨c, member⟩ := List.exists_mem_of_ne_nil run maximal.solid.given
  refine maximal.solid.solid c member (blank c ?_)
  rw [line_eq]
  exact List.mem_append_right before (List.mem_append_left rest member)

/-- The first word of a line is a maximal run. -/
theorem isMaximalRun_word (blank : IsGap gap) (solid : IsWord word) (breaks : Breaks rest) :
    IsMaximalRun (gap ++ (word ++ rest)) gap word where
  solid := solid
  starts := fun c last => blank c (List.mem_of_getLast? last)
  ends := ⟨rest, rfl, breaks⟩

/-- A maximal run of what stands behind the first word is a maximal run of the line. -/
theorem IsMaximalRun.behind {within : List Char} (maximal : IsMaximalRun rest within run)
    (breaks : Breaks rest) (gap word : List Char) :
    IsMaximalRun (gap ++ (word ++ rest)) (gap ++ (word ++ within)) run := by
  obtain ⟨tail, rfl, ends⟩ := maximal.ends
  cases within with
  | nil => exact absurd breaks (maximal.solid.not_breaks tail)
  | cons c within =>
    refine ⟨maximal.solid, ?_, tail, by simp only [List.append_assoc], ends⟩
    have last : (gap ++ (word ++ c :: within)).getLast? = (c :: within).getLast? := by
      rw [← List.append_assoc, List.getLast?_append_of_ne_nil _ (List.cons_ne_nil c within)]
    rw [last]
    exact maximal.starts

/-- A maximal run of a line that begins with a gap and a word is this word, or it stands behind the
word and is a maximal run there. It does not begin inside the gap, and inside the word it can begin
at its front only. -/
theorem IsMaximalRun.cases (blank : IsGap gap) (solid : IsWord word) (breaks : Breaks rest)
    (maximal : IsMaximalRun (gap ++ (word ++ rest)) before run) :
    (before = gap ∧ run = word) ∨
      ∃ within, before = gap ++ (word ++ within) ∧ IsMaximalRun rest within run := by
  obtain ⟨tail, line_eq, ends⟩ := maximal.ends
  rcases List.append_eq_append_iff.mp line_eq with ⟨behind, rfl, cut⟩ | ⟨front, rfl, cut⟩
  · rcases List.append_eq_append_iff.mp cut with ⟨within, rfl, rest_eq⟩ | ⟨back, rfl, same⟩
    · refine .inr ⟨within, rfl, maximal.solid, fun c last => ?_, tail, rest_eq, ends⟩
      refine maximal.starts c ?_
      rw [List.getLast?_append, List.getLast?_append, last]
      rfl
    · rcases List.eq_nil_or_concat behind with rfl | ⟨front, c, rfl⟩
      · rw [List.append_nil]
        exact .inl ⟨rfl, maximal.solid.eq_of_append_eq solid ends breaks same⟩
      · have last : c ∈ (gap ++ front.concat c).getLast? := by
          rw [List.concat_eq_append, List.getLast?_append, List.getLast?_concat]
          rfl
        exact absurd (maximal.starts c last) (solid.solid c (by simp))
  · cases front with
    | nil =>
      rw [List.append_nil]
      exact .inl ⟨rfl, maximal.solid.eq_of_append_eq solid ends breaks cut⟩
    | cons c front =>
      have starts : Breaks (run ++ tail) := by
        rw [cut]
        intro d first
        rw [List.cons_append, List.head?_cons, Option.mem_some_iff] at first
        exact blank d (by simp [first])
      exact absurd starts (maximal.solid.not_breaks tail)

/-- The maximal runs of a line are its first word and those of what stands behind it. -/
theorem AreMaximalRuns.behind {runs : List (List Char × List Char)}
    (maximal : AreMaximalRuns rest runs) (blank : IsGap gap) (solid : IsWord word)
    (breaks : Breaks rest) :
    AreMaximalRuns (gap ++ (word ++ rest))
      ((gap, word) :: runs.map fun later => (gap ++ (word ++ later.1), later.2)) where
  complete := by
    intro before run
    rw [List.mem_cons, List.mem_map]
    constructor
    · rintro (first | ⟨later, member, shifted⟩)
      · obtain ⟨rfl, rfl⟩ := Prod.mk.inj first
        exact isMaximalRun_word blank solid breaks
      · obtain ⟨rfl, rfl⟩ := Prod.mk.inj shifted
        exact ((maximal.complete later.1 later.2).mp member).behind breaks gap word
    · intro found
      rcases found.cases blank solid breaks with ⟨rfl, rfl⟩ | ⟨within, rfl, later⟩
      · exact .inl rfl
      · exact .inr ⟨(within, run), (maximal.complete within run).mpr later, rfl⟩
  ordered := by
    have positive := List.length_pos_iff.mpr solid.given
    refine List.pairwise_cons.mpr ⟨?_, List.pairwise_map.mpr (maximal.ordered.imp ?_)⟩
    · intro shifted member
      obtain ⟨later, -, rfl⟩ := List.mem_map.mp member
      simp only [List.length_append]
      omega
    · intro first second further
      simp only [List.length_append]
      omega

/-- Words that are laid out in a line are its maximal runs. -/
theorem LaidOut.exists_runs {line : List Char} {parts : List (List Char)}
    (laid : LaidOut parts line) :
    ∃ runs, AreMaximalRuns line runs ∧ runs.map Prod.snd = parts := by
  induction laid with
  | gap blank =>
    refine ⟨[], ⟨fun before run => ?_, .nil⟩, rfl⟩
    exact iff_of_false List.not_mem_nil (not_isMaximalRun_gap blank)
  | @word gap word rest parts blank solid breaks behind ih =>
    obtain ⟨runs, maximal, parts_eq⟩ := ih
    refine ⟨_, maximal.behind blank solid breaks, ?_⟩
    rw [List.map_cons, List.map_map, ← parts_eq]
    rfl

end Runs

/-- A line put together from tokens, each behind a gap of its own, and a last gap. -/
def layOut (pieces : List (String × String)) (last : String) : String :=
  String.join (pieces.map fun (gap, token) => gap ++ token) ++ last

/-- Gaps and tokens that stay apart when they are laid out: the gaps have blanks only and the tokens
none, no token is empty, and no gap but the first. -/
structure StayApart (pieces : List (String × String)) : Prop where
  /-- The gaps have blanks only. -/
  gaps : ∀ piece ∈ pieces, IsGap piece.1.toList
  /-- The tokens are words. -/
  tokens : ∀ piece ∈ pieces, IsWord piece.2.toList
  /-- There is a gap between any two tokens. -/
  between : ∀ piece ∈ pieces.tail, piece.1 ≠ ""

/-- The characters of a line without tokens. -/
theorem toList_layOut_nil (last : String) : (layOut [] last).toList = last.toList := by
  simp [layOut]

/-- The characters of a line whose first token stands behind a gap. -/
theorem toList_layOut_cons (gap token : String) (pieces : List (String × String)) (last : String) :
    (layOut ((gap, token) :: pieces) last).toList =
      gap.toList ++ (token.toList ++ (layOut pieces last).toList) := by
  unfold layOut
  simp [String.toList_append, String.toList_join]

/-- Tokens that stay apart are laid out in their line. -/
theorem StayApart.laidOut {pieces : List (String × String)} (apart : StayApart pieces)
    {last : String} (blank : IsGap last.toList) :
    LaidOut (pieces.map fun piece => piece.2.toList) (layOut pieces last).toList := by
  induction pieces with
  | nil =>
    rw [toList_layOut_nil]
    exact .gap blank
  | cons piece pieces ih =>
    obtain ⟨gap, token⟩ := piece
    obtain ⟨first_gap, gaps⟩ := List.forall_mem_cons.mp apart.gaps
    obtain ⟨first_token, tokens⟩ := List.forall_mem_cons.mp apart.tokens
    have later : StayApart pieces :=
      ⟨gaps, tokens, fun piece member => apart.between piece (List.mem_of_mem_tail member)⟩
    have breaks : Breaks (layOut pieces last).toList := by
      cases pieces with
      | nil =>
        rw [toList_layOut_nil]
        exact blank.breaks
      | cons next pieces =>
        have given : next.1.toList ≠ [] :=
          fun empty => apart.between next List.mem_cons_self (String.toList_eq_nil_iff.mp empty)
        rw [toList_layOut_cons]
        exact (gaps next List.mem_cons_self).breaks_append given _
    rw [toList_layOut_cons]
    exact .word first_gap first_token breaks (ih later)

/-- The tokens of a line are the words laid out in it, as many as are kept. -/
theorem tokens_of_laidOut {line : String} {parts : List (List Char)}
    (laid : LaidOut parts line.toList) :
    tokens line = (parts.take maxTokens).map String.ofList := by
  unfold tokens
  rw [words_of_laidOut laid]

/-- The first token of a line: what stands between a gap at the front and the next blank or the
end. -/
def FirstToken (line token : String) : Prop :=
  ∃ gap rest : String, line = gap ++ token ++ rest ∧ IsGap gap.toList ∧ IsWord token.toList ∧
    Breaks rest.toList

/-- A line has no tokens exactly when it has blanks only. -/
theorem tokens_eq_nil_iff {line : String} : tokens line = [] ↔ IsGap line.toList := by
  constructor
  · intro none_found
    have laid := laidOut_words line.toList
    have no_words : words line.toList = [] := by
      simpa [tokens, maxTokens] using none_found
    rw [no_words] at laid
    cases laid with
    | gap blank => exact blank
  · intro blank
    rw [tokens_of_laidOut (.gap blank)]
    rfl

/-- The first token of a line is the first that the tokenizer finds. -/
theorem firstToken_iff {line token : String} :
    FirstToken line token ↔ (tokens line).head? = some token := by
  constructor
  · rintro ⟨gap, rest, rfl, blank, solid, breaks⟩
    have laid : LaidOut (token.toList :: words rest.toList) (gap ++ token ++ rest).toList := by
      rw [String.toList_append, String.toList_append, List.append_assoc]
      exact .word blank solid breaks (laidOut_words rest.toList)
    rw [tokens_of_laidOut laid]
    exact congrArg some String.ofList_toList
  · intro first
    have laid := laidOut_words line.toList
    unfold tokens at first
    generalize words line.toList = parts at laid first
    generalize chars_eq : line.toList = chars at laid
    cases laid with
    | gap blank => cases first
    | @word gap word rest parts blank solid breaks behind =>
      have token_eq : String.ofList word = token := Option.some.inj first
      refine ⟨String.ofList gap, String.ofList rest, ?_, ?_, ?_, ?_⟩
      · rw [← token_eq, ← String.toList_inj, chars_eq]
        simp only [String.toList_append, String.toList_ofList, List.append_assoc]
      · rw [String.toList_ofList]
        exact blank
      · rw [← token_eq, String.toList_ofList]
        exact solid
      · rw [String.toList_ofList]
        exact breaks

/-- The tokenizer splits exactly. The tokens of a line are its first ten maximal runs of characters
that are no blanks, in order; each of them has one character or more and no blank, while other
spaces of Unicode stay inside tokens. And at most ten tokens that are laid out with blanks between
them, and any before and after, come apart into themselves. -/
theorem tokens_exact :
    (∀ line : String,
      (∃ runs, AreMaximalRuns line.toList runs ∧
        tokens line = (runs.take 10).map fun run => String.ofList run.2) ∧
      ∀ token ∈ tokens line, IsWord token.toList) ∧
    ('\u0085' ∉ blanks ∧ '\u00a0' ∉ blanks) ∧
    ∀ pieces last, StayApart pieces → IsGap last.toList → pieces.length ≤ 10 →
      tokens (layOut pieces last) = pieces.map Prod.snd := by
  refine ⟨fun line => ?_, by decide, ?_⟩
  · have laid := laidOut_words line.toList
    obtain ⟨runs, maximal, words_eq⟩ := laid.exists_runs
    have tokens_eq : tokens line = (runs.take 10).map fun run => String.ofList run.2 := by
      rw [tokens_of_laidOut laid, ← words_eq, ← List.map_take, List.map_map]
      rfl
    refine ⟨⟨runs, maximal, tokens_eq⟩, fun token member => ?_⟩
    rw [tokens_eq] at member
    obtain ⟨run, kept, rfl⟩ := List.mem_map.mp member
    rw [String.toList_ofList]
    exact ((maximal.complete run.1 run.2).mp (List.mem_of_mem_take kept)).solid
  · intro pieces last apart blank few
    have kept : (pieces.map fun piece => piece.2.toList).take maxTokens =
        pieces.map fun piece => piece.2.toList :=
      List.take_of_length_le (by rw [List.length_map]; exact few)
    rw [tokens_of_laidOut (apart.laidOut blank), kept, List.map_map]
    refine List.map_congr_left fun piece _ => ?_
    exact String.ofList_toList

/-- Ten tokens with every kind of blank between them and other spaces inside them. -/
theorem tokens_exact_ten :
    let pieces : List (String × String) :=
      [(" \t", "loadfile"), ("\n", "A\u00a0B"), ("\x0b", "\u0085"), ("\x0c", "100"), ("\r\n", "5"),
        (" ", "6"), ("\t\t", "7"), (" ", "8"), (" \x0b ", "9"), (" ", "10")]
    let last := " \r\n"
    (StayApart pieces ∧ IsGap last.toList ∧ pieces.length ≤ 10) ∧
      tokens (layOut pieces last) = pieces.map Prod.snd := by
  intro pieces last
  have apart : StayApart pieces := ⟨by decide, by decide, by decide⟩
  have blank : IsGap last.toList := by decide
  have few : pieces.length ≤ 10 := by decide
  exact ⟨⟨apart, blank, few⟩, tokens_exact.2.2 pieces last apart blank few⟩

end BoardSupervisor.Text
