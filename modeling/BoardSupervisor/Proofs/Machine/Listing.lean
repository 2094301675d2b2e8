import BoardSupervisor.Proofs.Command.Effect
import BoardSupervisor.Proofs.Number.DigitRuns
import BoardSupervisor.Proofs.Text.Transparency

/-!
# Reading the registers back

The registers are shown as values behind their names. A reader that finds each value by its name and
takes its digits for a number has all the registers back, so that the two lines lose nothing. The
flags are shown once more on their own; they spell the low byte of the accumulator pair in the same
lines.
-/

namespace BoardSupervisor

open Text

namespace Text

/-- A character that is shown as it is: it is a byte and no blank. -/
def IsPlain (c : Char) : Prop := c ∉ blanks ∧ c.toNat ≤ 0xff

instance (c : Char) : Decidable (IsPlain c) := inferInstanceAs (Decidable (_ ∧ _))

/-- A text of plain characters only. -/
def AllPlain (s : String) : Prop := ∀ c ∈ s.toList, IsPlain c

/-- A plain text without an equals sign. -/
def IsName (s : String) : Prop := ∀ c ∈ s.toList, IsPlain c ∧ c ≠ '='

instance (s : String) : Decidable (AllPlain s) :=
  decidable_of_iff (s.toList.all (fun c => IsPlain c) = true) (by
    simp only [List.all_eq_true, decide_eq_true_eq, AllPlain])

instance (s : String) : Decidable (IsName s) :=
  decidable_of_iff (s.toList.all (fun c => IsPlain c ∧ c ≠ '=') = true) (by
    simp only [List.all_eq_true, decide_eq_true_eq, IsName])

/-- A plain character is read back from the byte that is sent for it. -/
theorem charOf_byteOf {c : Char} (plain : IsPlain c) : Latin1.charOf (Latin1.byteOf c) = c := by
  rw [← Char.toNat_inj, Latin1.toNat_charOf, (Latin1.stands_byteOf c).1 plain.2]

end Text

/-- A value behind its name. -/
structure IsField (field : String × String) : Prop where
  /-- The name can stand before an equals sign. -/
  name : IsName field.1
  /-- The value is plain. -/
  value : AllPlain field.2

namespace Listing

/-- The name and the value in a word, which the first equals sign separates. -/
def cut (word : List Char) : String × String :=
  (String.ofList (word.takeWhile (· != '=')), String.ofList (word.dropWhile (· != '=')).tail)

/-- The names with their values that are shown in bytes. -/
def read (bytes : List UInt8) : List (String × String) := (words (bytes.map Latin1.charOf)).map cut

/-- The word that shows a value behind its name. -/
def word (field : String × String) : String := field.1 ++ "=" ++ field.2

section Words

variable {field : String × String} (plain : IsField field)

include plain

/-- A value behind its name is cut into both. -/
theorem cut_word : cut (word field).toList = field := by
  have named : ∀ c ∈ field.1.toList, (c != '=') = true :=
    fun c member => bne_iff_ne.mpr (plain.name c member).2
  unfold cut word
  rw [String.toList_append, String.toList_append, List.append_assoc,
    List.takeWhile_append_of_pos named, List.dropWhile_append_of_pos named]
  simp

/-- The characters of a word are plain. -/
theorem isPlain_of_mem_word {c : Char} (member : c ∈ (word field).toList) : IsPlain c := by
  unfold word at member
  rw [String.toList_append, String.toList_append, List.mem_append, List.mem_append] at member
  rcases member with (inName | sign) | inValue
  · exact (plain.name c inName).1
  · obtain rfl : c = '=' := by simpa using sign
    decide
  · exact plain.value c inValue

/-- A value behind its name is a word. -/
theorem isWord_word : IsWord (word field).toList where
  given := by
    unfold word
    simp
  solid := fun _ member => (isPlain_of_mem_word plain member).1

/-- The characters of a word are read back from the bytes that are sent for it. -/
theorem charOf_encode_word :
    (Latin1.encode (word field)).map Latin1.charOf = (word field).toList := by
  unfold Latin1.encode
  rw [List.map_map]
  exact (List.map_congr_left fun c member => charOf_byteOf (isPlain_of_mem_word plain member)).trans
    (List.map_id _)

end Words

/-- The words of fields that are sent in one line. A space stands between two of them, and the last
is broken off by what follows the line. -/
theorem words_fields {shown : List (String × String)} (plain : ∀ field ∈ shown, IsField field)
    {rest : List Char} (breaks : Breaks rest) :
    words ((Latin1.encode (Registers.fields shown)).map Latin1.charOf ++ rest) =
      shown.map (fun field => (word field).toList) ++ words rest := by
  induction shown with
  | nil => rfl
  | cons field shown ih =>
    obtain ⟨first, later⟩ := List.forall_mem_cons.mp plain
    cases shown with
    | nil =>
      have single : Registers.fields [field] = word field := String.intercalate_singleton
      rw [single, charOf_encode_word first, words_word_append (isWord_word first) breaks]
      rfl
    | cons next shown =>
      have apart : Registers.fields (field :: next :: shown) =
          word field ++ " " ++ Registers.fields (next :: shown) := String.intercalate_cons_cons
      have space : (Latin1.encode " ").map Latin1.charOf = [' '] := by decide
      have blank : ' ' ∈ blanks := by decide
      have breaks_space (line : List Char) : Breaks (' ' :: line) := by
        intro c head
        obtain rfl : ' ' = c := Option.some.inj head
        exact blank
      rw [apart, Latin1.encode_append, Latin1.encode_append, List.map_append, List.map_append,
        space, charOf_encode_word first, List.append_assoc, List.append_assoc,
        List.singleton_append, words_word_append (isWord_word first) (breaks_space _),
        words_cons_of_mem blank, ih later]
      rfl

/-- A line of fields is read back, and then what stands behind it. -/
theorem read_line {shown : List (String × String)} (plain : ∀ field ∈ shown, IsField field)
    (rest : List UInt8) :
    read (Latin1.encode (Registers.fields shown ++ "\r\n") ++ rest) = shown ++ read rest := by
  have ends : (Latin1.encode "\r\n").map Latin1.charOf = ['\r', '\n'] := by decide
  have gap : IsGap ['\r', '\n'] := by decide
  have breaks : Breaks (['\r', '\n'] ++ rest.map Latin1.charOf) :=
    gap.breaks_append (List.cons_ne_nil _ _) _
  have fields_eq : (shown.map fun field => (word field).toList).map cut = shown := by
    rw [List.map_map]
    exact (List.map_congr_left fun field member => cut_word (plain field member)).trans
      (List.map_id _)
  unfold read
  rw [Latin1.encode_append, List.map_append, List.map_append, List.append_assoc, ends,
    words_fields plain breaks, words_gap_append gap, List.map_append, fields_eq]

/-- The number that the digits of a value stand for. -/
def number (digits : String) : Nat :=
  Number.ofDigits 16 (Number.digitValues 16 digits.toList)

/-- A word is read back from its digits. -/
theorem number_hexWord (w : UInt16) : number (Number.hexWord w) = w.toNat := by
  have small : w.toNat < 16 ^ 4 := w.toNat_lt
  unfold number Number.hexWord
  rw [String.toList_ofList, Number.digitValues_lastHexDigits, Number.ofDigits_placeDigits,
     Nat.mod_eq_of_lt small]

/-- A byte is read back from its digits. -/
theorem number_hexByte (b : UInt8) : number (Number.hexByte b) = b.toNat := by
  have small : b.toNat < 16 ^ 2 := b.toNat_lt
  unfold number Number.hexByte
  rw [String.toList_ofList, Number.digitValues_lastHexDigits, Number.ofDigits_placeDigits,
     Nat.mod_eq_of_lt small]

/-- Hexadecimal digits are plain. -/
theorem isPlain_of_mem_lastHexDigits {c : Char} {width n : Nat}
    (member : c ∈ Number.lastHexDigits width n) : IsPlain c := by
  obtain ⟨d, rfl⟩ := Number.exists_digitChar_of_mem member
  have checked : ∀ d : Fin 16, IsPlain (Nat.digitChar d) := by decide
  exact checked d

/-- The digits of a word are plain. -/
theorem allPlain_hexWord (w : UInt16) : AllPlain (Number.hexWord w) := by
  intro c member
  rw [Number.hexWord, String.toList_ofList] at member
  exact isPlain_of_mem_lastHexDigits member

/-- The digits of a byte are plain. -/
theorem allPlain_hexByte (b : UInt8) : AllPlain (Number.hexByte b) := by
  intro c member
  rw [Number.hexByte, String.toList_ofList] at member
  exact isPlain_of_mem_lastHexDigits member

/-- The digit of a flip-flop is plain. -/
theorem allPlain_flipFlop (on : Bool) : AllPlain (Registers.flipFlop on) := by
  cases on <;> decide

/-- The marks of the flags are plain. -/
theorem allPlain_flags (flags : UInt8) : AllPlain (Flags.text flags) := by
  intro c member
  rw [Flags.text, String.toList_ofList, List.mem_map] at member
  obtain ⟨⟨mark, bit⟩, listed, rfl⟩ := member
  have marked : ∀ entry ∈ Flags.marks, IsPlain entry.1 := by decide
  have dash : IsPlain '-' := by decide
  dsimp only
  split
  · exact marked (mark, bit) listed
  · exact dash

end Listing

namespace Flags

/-- Marks that denote the low byte of a number: eight of them, from the most significant bit down,
each set bit as its mark and each clear one as a dash. -/
structure Denotes (shown : String) (n : Nat) : Prop where
  /-- There is a mark for each bit. -/
  length : shown.toList.length = 8
  /-- A mark tells its bit. -/
  mark (place : Fin 8) : shown.toList[place.val]? =
    if n.testBit (7 - place) then "SZ5H3PNC".toList[place.val]? else some '-'

/-- The number that marks stand for in binary, a dash for zero and all else for one. -/
def value (shown : String) : Nat :=
  Number.ofDigits 2 (shown.toList.map fun c => if c = '-' then 0 else 1)

/-- Each of the eight places has a mark other than the dash. -/
theorem exists_mark (place : Fin 8) : ∃ mark, "SZ5H3PNC".toList[place.val]? = some mark ∧
    marks[place.val]? = some (mark, 7 - place.val) ∧ mark ≠ '-' := by
  have listed : ∀ place : Fin 8, ("SZ5H3PNC".toList[place.val]?).isSome ∧
      marks[place.val]? = ("SZ5H3PNC".toList[place.val]?).map (·, 7 - place.val) ∧
      "SZ5H3PNC".toList[place.val]? ≠ some '-' := by decide
  obtain ⟨given, here, other⟩ := listed place
  obtain ⟨mark, letter⟩ := Option.isSome_iff_exists.mp given
  rw [letter] at here other
  exact ⟨mark, letter, here, fun dash => other (congrArg some dash)⟩

/-- The flags are shown by marks that denote them. -/
theorem denotes_text (flags : UInt8) : Denotes (text flags) flags.toNat where
  length := by
    rw [text, String.toList_ofList, List.length_map]
    rfl
  mark place := by
    obtain ⟨mark, letter, here, -⟩ := exists_mark place
    rw [letter, text, String.toList_ofList, List.getElem?_map, here, Option.map_some,
      apply_ite some]

/-- Marks that denote a number denote all numbers with the same low byte. -/
theorem Denotes.congr {shown : String} {n k : Nat} (denotes : Denotes shown n)
    (same : n % 256 = k % 256) : Denotes shown k where
  length := denotes.length
  mark place := by
    have inside : 7 - place.val < 8 := by omega
    have bits (number : Nat) :
        number.testBit (7 - place) = (number % 2 ^ 8).testBit (7 - place) := by
      rw [Nat.testBit_mod_two_pow, decide_eq_true inside, Bool.true_and]
    have low : n % 2 ^ 8 = k % 2 ^ 8 := same
    rw [denotes.mark place, bits n, bits k, low]

/-- A mark stands for its bit. -/
theorem Denotes.digit {shown : String} {n : Nat} (denotes : Denotes shown n) (place : Fin 8) :
    (shown.toList.map fun c => if c = '-' then 0 else 1)[place.val]? =
      some (n / 2 ^ (7 - place.val) % 2) := by
  obtain ⟨mark, letter, -, other⟩ := exists_mark place
  rw [List.getElem?_map, denotes.mark place, letter, ← Nat.toNat_testBit]
  cases n.testBit (7 - place.val) with
  | false => rfl
  | true => exact congrArg some (if_neg other)

/-- The number that marks stand for is the byte that they denote, since the eight marks are known by
their places. -/
theorem Denotes.value_eq {shown : String} {n : Nat} (denotes : Denotes shown n) :
    value shown = n % 256 := by
  have digits :
      (shown.toList.map fun c => if c = '-' then 0 else 1) = Number.placeDigits 2 8 n := by
    have places : ∀ place : Fin 8, (List.range 8).reverse[place.val]? = some (7 - place.val) := by
      decide
    refine List.ext_getElem? fun place => ?_
    by_cases inside : place < 8
    · rw [denotes.digit ⟨place, inside⟩, Number.placeDigits, List.getElem?_map,
        places ⟨place, inside⟩, Option.map_some]
    · have outside : 8 ≤ place := Nat.le_of_not_lt inside
      rw [List.getElem?_eq_none (by simpa [denotes.length] using outside),
        List.getElem?_eq_none (by simpa [Number.placeDigits] using outside)]
  rw [value, digits]
  exact Number.ofDigits_placeDigits 2 8 n

example : value "-Z-----C" = 0x41 := by decide

end Flags

namespace Registers

/-- The names with their values in the first line. -/
def mainFields (r : Registers) : List (String × String) :=
  [("PC", Number.hexWord r.pc), ("SP", Number.hexWord r.sp), ("AF", Number.hexWord r.af),
    ("BC", Number.hexWord r.bc), ("DE", Number.hexWord r.de), ("HL", Number.hexWord r.hl),
    ("IX", Number.hexWord r.ix), ("IY", Number.hexWord r.iy)]

/-- The names with their values in the second line. -/
def alternateFields (r : Registers) : List (String × String) :=
  [("AF\x27", Number.hexWord r.afAlternate), ("BC\x27", Number.hexWord r.bcAlternate),
    ("DE\x27", Number.hexWord r.deAlternate), ("HL\x27", Number.hexWord r.hlAlternate),
    ("I", Number.hexByte r.i), ("R", Number.hexByte r.r), ("IFF1", flipFlop r.iff1),
    ("IFF2", flipFlop r.iff2), ("F", Flags.text r.flags)]

/-- The bytes in which the registers are shown. -/
def listing (r : Registers) : List UInt8 := r.dump.flatMap Latin1.encode

/-- What is shown of the registers are values behind their names. -/
theorem isField (r : Registers) : ∀ field ∈ r.mainFields ++ r.alternateFields, IsField field := by
  have named : ∀ field ∈ r.mainFields ++ r.alternateFields, IsName field.1 := by
    simp only [mainFields, alternateFields, List.cons_append, List.nil_append,
      List.forall_mem_cons, List.not_mem_nil, false_imp_iff, implies_true, and_true]
    decide
  have values : ∀ field ∈ r.mainFields ++ r.alternateFields, AllPlain field.2 := by
    simp only [mainFields, alternateFields, List.cons_append, List.nil_append,
      List.forall_mem_cons, List.not_mem_nil, false_imp_iff, implies_true, and_true,
      Listing.allPlain_hexWord, Listing.allPlain_hexByte, Listing.allPlain_flipFlop,
      Listing.allPlain_flags]
  exact fun field member => ⟨named field member, values field member⟩

/-- The names with their values are read back from the bytes in which the registers are shown. -/
theorem read_listing_append (r : Registers) (rest : List UInt8) :
    Listing.read (r.listing ++ rest) =
      r.mainFields ++ (r.alternateFields ++ Listing.read rest) := by
  have lines : r.listing ++ rest =
      Latin1.encode (fields r.mainFields ++ "\r\n") ++
        (Latin1.encode (fields r.alternateFields ++ "\r\n") ++ rest) := by
    rw [listing, dump, List.flatMap_cons, List.flatMap_cons, List.flatMap_nil, List.append_nil,
      List.append_assoc]
    rfl
  have plain := List.forall_mem_append.mp r.isField
  rw [lines, Listing.read_line plain.1, Listing.read_line plain.2]

/-- The registers among names with their values, each one found by its name. -/
def ofFields? (fields : List (String × String)) : Option Registers := do
  let number := fun name => (fields.lookup name).map Listing.number
  let word := fun name => (number name).map UInt16.ofNat
  let byte := fun name => (number name).map UInt8.ofNat
  let isSet := fun name => (fields.lookup name).map (· == "1")
  return {
    af := ← word "AF"
    bc := ← word "BC"
    de := ← word "DE"
    hl := ← word "HL"
    afAlternate := ← word "AF\x27"
    bcAlternate := ← word "BC\x27"
    deAlternate := ← word "DE\x27"
    hlAlternate := ← word "HL\x27"
    ix := ← word "IX"
    iy := ← word "IY"
    sp := ← word "SP"
    pc := ← word "PC"
    i := ← byte "I"
    r := ← byte "R"
    iff1 := ← isSet "IFF1"
    iff2 := ← isSet "IFF2" }

/-- The registers that are shown in bytes. -/
def ofListing? (bytes : List UInt8) : Option Registers := ofFields? (Listing.read bytes)

/-- A flip-flop is read back from its digit. -/
theorem flipFlop_beq_one (on : Bool) : (flipFlop on == "1") = on := by
  cases on <;> decide

/-- The registers are found among what is shown of them, whatever comes after. -/
theorem ofFields?_append (r : Registers) (rest : List (String × String)) :
    ofFields? (r.mainFields ++ (r.alternateFields ++ rest)) = some r := by
  simp [ofFields?, mainFields, alternateFields, List.lookup_cons, Listing.number_hexWord,
    Listing.number_hexByte, flipFlop_beq_one]

/-- The registers are read back from the bytes in which they are shown, whatever comes after. -/
theorem ofListing?_append (r : Registers) (rest : List UInt8) :
    ofListing? (r.listing ++ rest) = some r := by
  rw [ofListing?, read_listing_append, ofFields?_append]

section Written

variable (around : Bench) (m : Machine)

/-- What is written when the lines of the registers are sent. -/
theorem written_dump (r : Registers) :
    Event.written (r.dump.forM Act.report around m).events = r.listing :=
  Act.written_forM_report around m r.dump

/-- The registers are read back from what is written when their lines are sent. -/
theorem ofListing?_written_dump (r : Registers) :
    ofListing? (Event.written (r.dump.forM Act.report around m).events) = some r := by
  rw [written_dump, ← List.append_nil r.listing, ofListing?_append]

/-- The command that shows the registers writes the count of cycles behind them; they are read back
from its answer all the same. -/
theorem ofListing?_written_showRegisters :
    ofListing? (Event.written (Act.showRegisters around m).events) = some m.registers := by
  have answer : m.listing = m.registers.listing ++
      Latin1.encode ("T=" ++ Number.decimal m.cycles ++ "\r\n") := by
    rw [Machine.listing, listing, dump, List.flatMap_cons, List.flatMap_cons, List.flatMap_nil,
      List.append_nil, Latin1.encode_append m.registers.mainLine,
      Latin1.encode_append m.registers.alternateLine, List.append_assoc]
  rw [Act.written_showRegisters, answer, ofListing?_append]

/-- The accumulator pair and the flags are found in what is written by their names, and the marks of
the flags denote the low byte of the pair. -/
theorem denotes_written_dump (r : Registers) : ∃ pair flags : String,
    (Listing.read (Event.written (r.dump.forM Act.report around m).events)).lookup "AF" =
        some pair ∧
      (Listing.read (Event.written (r.dump.forM Act.report around m).events)).lookup "F" =
        some flags ∧
      Flags.Denotes flags (Listing.number pair) := by
  have fields := r.read_listing_append []
  rw [List.append_nil] at fields
  refine ⟨Number.hexWord r.af, Flags.text r.flags, ?_, ?_, ?_⟩
  · rw [written_dump, fields]
    rfl
  · rw [written_dump, fields]
    rfl
  · rw [Listing.number_hexWord]
    exact (Flags.denotes_text r.flags).congr (by simp [flags])

end Written

/-- The listing of the registers loses nothing. One reader has all of them back from what is written
when their lines are sent, so that the lines of two register files are the same only if the register
files are. The marks of the flags denote the low byte of the accumulator pair that is shown with
them, each bit by its own mark or a dash, the most significant bit first. -/
theorem listing_loses_nothing :
    (∀ (r : Registers) (around : Bench) (m : Machine),
      ofListing? (Event.written (r.dump.forM Act.report around m).events) = some r) ∧
    (∀ (r other : Registers) (around around' : Bench) (m m' : Machine),
      Event.written (r.dump.forM Act.report around m).events =
        Event.written (other.dump.forM Act.report around' m').events ↔ r = other) ∧
    ∀ (r : Registers) (around : Bench) (m : Machine), ∃ pair flags : String,
      (Listing.read (Event.written (r.dump.forM Act.report around m).events)).lookup "AF" =
          some pair ∧
        (Listing.read (Event.written (r.dump.forM Act.report around m).events)).lookup "F" =
          some flags ∧
        Flags.Denotes flags (Listing.number pair) ∧
        Flags.value flags = Listing.number pair % 256 := by
  refine ⟨fun r around m => ofListing?_written_dump around m r,
    fun r other around around' m m' => ⟨fun same => ?_, ?_⟩, fun r around m => ?_⟩
  · have back := ofListing?_written_dump around m r
    rw [same, ofListing?_written_dump] at back
    exact (Option.some.inj back).symm
  · rintro rfl
    rw [written_dump, written_dump]
  · obtain ⟨pair, flags, found, marked, denotes⟩ := denotes_written_dump around m r
    exact ⟨pair, flags, found, marked, denotes, denotes.value_eq⟩

end Registers

end BoardSupervisor
