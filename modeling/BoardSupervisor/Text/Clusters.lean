import BoardSupervisor.Text.CodeTables

/-!
# Clusters and drafts

Text is divided into clusters, the units that a reader takes for one character. What a character
does in a cluster is told by its class: it begins one, extends one, links letters, or stands alone.
The text is read from its beginning; with the class of the last character the reader keeps in mind
what the last few may still become together: a conjunct of consonants, a picture joined from
pictographs, or a flag. A Korean syllable is one character or a row of letters.

A line of text may hold backspaces, each of which takes back the cluster before it. A draft is such
a line as far as it has been read: what is left of it, and how wide each cluster is. Widths are
counted in bytes and kept in one byte, so that of a cluster of 256 bytes nothing is taken back, and
of a longer one only the end. When that end would begin inside a character, the draft is torn.
-/

namespace BoardSupervisor.Text

namespace Hangul

/-- A letter of a syllable, or a syllable. -/
inductive Part where
  /-- An initial consonant. -/
  | initial
  /-- A vowel. -/
  | vowel
  /-- A final consonant. -/
  | final
  /-- A syllable that ends in its vowel. -/
  | openSyllable
  /-- A syllable that ends in a final consonant. -/
  | closedSyllable
  deriving DecidableEq, Repr

/-- Initial consonants. -/
def initials : CodeTable := [
  (0x1100, 0x115f), (0xa960, 0xa97c)]

/-- Vowels, those of Kirat Rai among them, which are joined in the same way. -/
def vowels : CodeTable := [
  (0x1160, 0x11a7), (0xd7b0, 0xd7c6), (0x16d63, 0x16d63), (0x16d67, 0x16d6a)]

/-- Final consonants. -/
def finals : CodeTable := [
  (0x11a8, 0x11ff), (0xd7cb, 0xd7fb)]

/-- The syllables. -/
def syllables : CodeTable := [(0xac00, 0xd7a3)]

/-- What a character is in a syllable. The syllables are in order, each open one followed by the
twenty-seven that close it. -/
def Part.of? (c : Char) : Option Part :=
  if initials.has c then some .initial
  else if vowels.has c then some .vowel
  else if finals.has c then some .final
  else if syllables.has c then
    some (if (c.toNat - 0xac00) % 28 = 0 then .openSyllable else .closedSyllable)
  else none

/-- Whether two characters in a row belong to the same syllable. -/
def Part.joins : Part → Part → Bool
  | .initial, next => next != .final
  | .openSyllable, next | .vowel, next => next == .vowel || next == .final
  | .closedSyllable, next | .final, next => next == .final

end Hangul

/-- What a character does in a cluster. -/
inductive ClusterClass where
  /-- A carriage return. -/
  | carriageReturn
  /-- A line feed. -/
  | lineFeed
  /-- Any other control. -/
  | control
  /-- A mark that extends what is before it. -/
  | extending
  /-- A mark that extends what is before it and links consonants. -/
  | linker
  /-- The sign that extends what is before it and keeps letters apart. -/
  | nonJoiner
  /-- The sign that extends what is before it and joins pictographs. -/
  | joiner
  /-- A mark that takes up space of its own. -/
  | spacing
  /-- A sign that belongs to what is after it. -/
  | prepended
  /-- A consonant that can be linked. -/
  | consonant
  /-- A pictograph. -/
  | pictograph
  /-- One of the two letters of a flag. -/
  | regional
  /-- A Korean syllable or a part of one. -/
  | hangul (part : Hangul.Part)
  /-- Anything else. -/
  | other
  deriving DecidableEq, Repr

namespace ClusterClass

/-- The class of a character. -/
def of (c : Char) : ClusterClass :=
  if c = '\r' then .carriageReturn
  else if c = '\n' then .lineFeed
  else if c = '\u200c' then .nonJoiner
  else if c = '\u200d' then .joiner
  else if Controls.table.has c then .control
  else if Conjuncts.linkers.has c then .linker
  else if ExtendingMarks.table.has c || Pictographs.skinTones.has c then .extending
  else if SpacingMarks.table.has c then .spacing
  else if Conjuncts.prepended.has c then .prepended
  else if Conjuncts.consonants.has c then .consonant
  else if Pictographs.table.has c then .pictograph
  else if Pictographs.regionalLetters.has c then .regional
  else (Hangul.Part.of? c).elim .other .hangul

/-- Whether a character is never part of a longer cluster, the end of a line apart. -/
def standsAlone : ClusterClass → Bool
  | .carriageReturn | .lineFeed | .control => true
  | _ => false

/-- Whether a character extends whatever is before it. -/
def extendsCluster : ClusterClass → Bool
  | .extending | .linker | .nonJoiner | .joiner => true
  | _ => false

end ClusterClass

/-- What the last few characters may still become with the one after them. -/
inductive Prospect where
  /-- Nothing in particular. -/
  | nothing
  /-- A conjunct: a consonant and what extends it, with or without a link. -/
  | conjunct (linked : Bool)
  /-- A picture: a pictograph and what extends it, with or without a joiner at the end. -/
  | picture (joined : Bool)
  /-- A flag, of which one letter is there. -/
  | flag
  deriving DecidableEq, Repr

/-- What is in prospect after one more character. -/
def Prospect.after (before : Prospect) (kind : ClusterClass) : Prospect :=
  match before, kind with
  | _, .consonant => .conjunct false
  | _, .pictograph => .picture false
  | .flag, .regional => .nothing
  | _, .regional => .flag
  | .conjunct _, .linker => .conjunct true
  | .conjunct linked, .extending | .conjunct linked, .joiner => .conjunct linked
  | .picture false, .joiner => .picture true
  | .picture false, .extending | .picture false, .linker | .picture false, .nonJoiner =>
    .picture false
  | _, _ => .nothing

/-- Where the reading of a text stands. -/
structure ReadingPlace where
  /-- The class of the last character. -/
  last : ClusterClass
  /-- What is in prospect. -/
  prospect : Prospect
  deriving DecidableEq, Repr

namespace ReadingPlace

/-- The place after the first character of a text. -/
def first (kind : ClusterClass) : ReadingPlace := ⟨kind, Prospect.nothing.after kind⟩

/-- The place after one more character. -/
def after (place : ReadingPlace) (kind : ClusterClass) : ReadingPlace :=
  ⟨kind, place.prospect.after kind⟩

/-- Whether a character completes what is in prospect, or a syllable. -/
def completes (place : ReadingPlace) (next : ClusterClass) : Bool :=
  match next, place.prospect, place.last with
  | .consonant, .conjunct true, _ => true
  | .pictograph, .picture true, _ => true
  | .regional, .flag, _ => true
  | .hangul part, _, .hangul before => before.joins part
  | _, _, _ => false

/-- Whether the next character stays in the cluster of the last one. -/
def joins (place : ReadingPlace) (next : ClusterClass) : Bool :=
  if place.last = .carriageReturn ∧ next = .lineFeed then true
  else if place.last.standsAlone || next.standsAlone then false
  else next.extendsCluster || next == .spacing || place.last == .prepended || place.completes next

end ReadingPlace

/-- The rest of the cluster that is being read, and the clusters after it. -/
def clustersAfter (place : ReadingPlace) : List Char → List Char × List (List Char)
  | [] => ([], [])
  | c :: rest =>
    let (current, later) := clustersAfter (place.after (.of c)) rest
    if place.joins (.of c) then (c :: current, later) else ([], (c :: current) :: later)

/-- The clusters of a text. -/
def clusters : List Char → List (List Char)
  | [] => []
  | c :: rest =>
    let (current, later) := clustersAfter (.first (.of c)) rest
    (c :: current) :: later

/-- A text that is being typed. -/
structure Draft where
  /-- The characters, the latest first. -/
  latest : List Char
  /-- The widths of the clusters, the latest first. -/
  widths : List Nat
  deriving DecidableEq, Repr

namespace Draft

/-- The character that takes back the cluster before it. -/
def backspace : Char := '\x08'

/-- The draft of an empty line. -/
def blank : Draft := ⟨[], []⟩

/-- The number of bytes that characters take. -/
def byteCount : List Char → Nat
  | [] => 0
  | c :: cs => c.utf8Size + byteCount cs

/-- The width of a cluster: the number of its bytes, as far as one byte can hold it. -/
def width (cluster : List Char) : Nat := byteCount cluster % 256

/-- Characters without a number of bytes at the front, if no character is cut in two. -/
def dropBytes? : List Char → Nat → Option (List Char)
  | cs, 0 => some cs
  | [], _ + 1 => none
  | c :: cs, n + 1 => if c.utf8Size ≤ n + 1 then dropBytes? cs (n + 1 - c.utf8Size) else none

/-- Take back the latest cluster, if there is one. The result is nothing if the draft is torn. -/
def takeBack? (draft : Draft) : Option Draft :=
  match draft.widths with
  | [] => some draft
  | width :: widths => (dropBytes? draft.latest width).map fun latest => ⟨latest, widths⟩

/-- Type a cluster. -/
def type (draft : Draft) (cluster : List Char) : Draft :=
  ⟨cluster.reverse ++ draft.latest, width cluster :: draft.widths⟩

/-- Read one more cluster: a backspace takes back, anything else is typed. -/
def read? (draft : Draft) (cluster : List Char) : Option Draft :=
  if cluster = [backspace] then draft.takeBack? else some (draft.type cluster)

/-- The characters that a draft consists of, in order. -/
def toList (draft : Draft) : List Char := draft.latest.reverse

/-- The text that a line comes to when its backspaces have taken effect, unless it is torn. -/
def settle? (line : String) : Option String :=
  ((clusters line.toList).foldlM read? blank).map fun draft => String.ofList draft.toList

end Draft

end BoardSupervisor.Text
