/-!
# The text of commands and answers

A command line is cut at blanks into tokens, of which the first ten are kept. Six characters are
blank; other spaces of Unicode are ordinary characters. Tokens may be typed in either case: only the
twenty-six ASCII letters have two forms, and every other character is equal to itself alone.

The serial line carries bytes. A byte stands for the character of the same number, so that no typed
byte is lost in a command line; a character beyond the range of a byte is sent as a question mark. A
message to the operator is either at hand in the program as it stands or put together when it is
needed. One that is at hand and has ASCII characters only is sent as the bytes that it is kept in;
every other is turned into bytes character by character.
-/

namespace BoardSupervisor.Text

/-- The characters of a text with each ASCII capital replaced by its small letter. -/
def folded (s : String) : List Char := s.toList.map Char.toLower

/-- Two texts are alike when they differ in nothing but the case of ASCII letters. -/
def alike (s t : String) : Bool := folded s == folded t

/-- Being alike is having the same folded characters. -/
theorem alike_iff {s t : String} : alike s t = true ↔ folded s = folded t := by
  simp [alike]

/-- The characters that separate tokens. -/
def isBlank (c : Char) : Bool :=
  c == ' ' || c == '\t' || c == '\n' || c == '\x0b' || c == '\x0c' || c == '\r'

/-- The words of a line: its pieces between blanks, empty pieces left out. -/
def words (line : List Char) : List (List Char) :=
  (line.splitOnP isBlank).filter fun piece => !piece.isEmpty

/-- The most tokens that are kept of a line. -/
def maxTokens : Nat := 10

/-- The tokens of a command line. -/
def tokens (line : String) : List String :=
  ((words line.toList).take maxTokens).map String.ofList

namespace Latin1

/-- The byte sent for one character. -/
def byteOf (c : Char) : UInt8 := if c.toNat < 256 then UInt8.ofNat c.toNat else 63

/-- The bytes sent for a text, one for each character. -/
def encode (s : String) : List UInt8 := s.toList.map byteOf

/-- The character that a byte stands for. -/
def charOf (b : UInt8) : Char := Char.ofUInt8 b

/-- The text that a row of bytes stands for. -/
def decode (bytes : List UInt8) : String := String.ofList (bytes.map charOf)

/-- A byte's character has the byte's number. -/
theorem toNat_charOf (b : UInt8) : (charOf b).toNat = b.toNat := by
  change b.toUInt32.toNat = b.toNat
  exact UInt8.toNat_toUInt32 b

/-- A byte's character is sent as that byte. -/
theorem byteOf_charOf (b : UInt8) : byteOf (charOf b) = b := by
  have h : b.toNat < 256 := b.toNat_lt
  simp [byteOf, toNat_charOf, h]

/-- Reading bytes as characters and sending those characters gives the same bytes back. -/
theorem encode_decode (bytes : List UInt8) : encode (decode bytes) = bytes := by
  have h : byteOf ∘ charOf = id := funext byteOf_charOf
  simp [encode, decode, h]

/-- The bytes of two texts joined are the bytes of the first and then those of the second. -/
theorem encode_append (s t : String) : encode (s ++ t) = encode s ++ encode t := by
  simp [encode]

end Latin1

/-- A text for the operator. -/
inductive Message where
  /-- A text that is at hand as it stands. -/
  | literal (text : String)
  /-- A text that was put together from parts. -/
  | composed (text : String)
  deriving DecidableEq, Repr

/-- Whether a text has ASCII characters only. -/
def isAscii (s : String) : Bool := s.toList.all fun c => c.toNat < 128

/-- The bytes in which a text is kept. -/
def keptBytes (s : String) : List UInt8 := s.toUTF8.data.toList

namespace Message

/-- What a message says. -/
def text : Message → String
  | .literal text => text
  | .composed text => text

/-- The bytes in which a message is sent. -/
def bytes : Message → List UInt8
  | .literal text => if isAscii text then keptBytes text else Latin1.encode text
  | .composed text => Latin1.encode text

end Message

/-- An ASCII character is kept in one byte, which is the byte that is sent for it. -/
theorem utf8EncodeChar_of_ascii {c : Char} (plain : c.toNat < 128) :
    String.utf8EncodeChar c = [Latin1.byteOf c] := by
  have single : c.utf8Size = 1 := by
    rw [Char.utf8Size_eq_one_iff, UInt32.le_iff_toNat_le]
    have bound : (127 : UInt32).toNat = 127 := rfl
    change c.toNat ≤ _
    omega
  rw [String.utf8EncodeChar_eq_singleton single, Latin1.byteOf, if_pos (by omega)]
  rfl

/-- A text is kept character by character. -/
theorem keptBytes_eq (s : String) : keptBytes s = s.toList.flatMap String.utf8EncodeChar := by
  unfold keptBytes
  rw [String.toUTF8_eq_toByteArray, ← String.utf8Encode_toList, List.utf8Encode,
    List.data_toByteArray]

/-- An ASCII text is kept in the bytes that are sent for it. -/
theorem keptBytes_of_isAscii {s : String} (plain : isAscii s = true) :
    keptBytes s = Latin1.encode s := by
  rw [keptBytes_eq, Latin1.encode]
  unfold isAscii at plain
  generalize s.toList = chars at plain ⊢
  induction chars with
  | nil => rfl
  | cons c rest ih =>
    rw [List.all_cons, Bool.and_eq_true_iff, decide_eq_true_eq] at plain
    rw [List.flatMap_cons, utf8EncodeChar_of_ascii plain.1, ih plain.2, List.map_cons,
      List.singleton_append]

/-- Every message is sent as the bytes of what it says, whichever way it is sent. -/
theorem Message.bytes_eq (message : Message) : message.bytes = Latin1.encode message.text := by
  cases message with
  | composed text => rfl
  | literal text =>
    dsimp only [bytes, Message.text]
    cases plain : isAscii text with
    | true => rw [if_pos rfl, keptBytes_of_isAscii plain]
    | false => rw [if_neg Bool.false_ne_true]

end BoardSupervisor.Text
