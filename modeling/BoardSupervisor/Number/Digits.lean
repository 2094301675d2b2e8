/-!
# Digits

Reading and writing whole numbers in a base up to sixteen. Reading takes digits from the front of a
text and hands back what follows them; writing gives either as many digits as the number needs or a
fixed count of them.

Trace levels and addresses are read from the front of a token, whatever follows them. A token
without digits reads as zero. A level is read as a word of 64 bits, and is then brought within the
range of a 32-bit integer; where the word does not hold it, the sign tells on which side it lies. An
address is shifted together digit by digit in sixteen bits, so that it keeps its low ones.
-/

namespace BoardSupervisor.Number

/-- The value of a hexadecimal digit in either case. -/
def hexDigit? (c : Char) : Option Nat :=
  if '0' ≤ c ∧ c ≤ '9' then some (c.toNat - 48)
  else if 'a' ≤ c ∧ c ≤ 'f' then some (c.toNat - 87)
  else if 'A' ≤ c ∧ c ≤ 'F' then some (c.toNat - 55)
  else none

/-- The value of a digit in the given base. -/
def digit? (base : Nat) (c : Char) : Option Nat := (hexDigit? c).filter (· < base)

/-- Whether a character is a digit in the given base. -/
def isDigit (base : Nat) (c : Char) : Bool := (digit? base c).isSome

/-- The values of the digits in a text. -/
def digitValues (base : Nat) (text : List Char) : List Nat := text.filterMap (digit? base)

/-- The longest run of digits at the front of a text, as their values, and the text after it. -/
def leadingDigits (base : Nat) (text : List Char) : List Nat × List Char :=
  (digitValues base (text.takeWhile (isDigit base)), text.dropWhile (isDigit base))

/-- The number that digits stand for, the most significant first. -/
def ofDigits (base : Nat) (digits : List Nat) : Nat := digits.foldl (fun n d => n * base + d) 0

/-- A sign at the front of a text, true for a minus, and the text after it. -/
def leadingSign : List Char → Bool × List Char
  | '+' :: rest => (false, rest)
  | '-' :: rest => (true, rest)
  | rest => (false, rest)

/-- The text after a hexadecimal mark, if a text begins with one. -/
def afterHexMark? : List Char → Option (List Char)
  | '0' :: 'x' :: rest => some rest
  | '0' :: 'X' :: rest => some rest
  | _ => none

/-- A whole number with the sign that was read before it. -/
def withSign (negative : Bool) (n : Nat) : Int := if negative then -(n : Int) else n

/-- An optional sign and one or more decimal digits at the front of a text, as the number they stand
for, and the text after them. -/
def leadingInteger? (text : List Char) : Option (Int × List Char) :=
  let (negative, body) := leadingSign text
  match leadingDigits 10 body with
  | ([], _) => none
  | (digits, rest) => some (withSign negative (ofDigits 10 digits), rest)

/-- The decimal digits of a number. -/
def decimal (n : Nat) : String := String.ofList (Nat.toDigits 10 n)

/-- The decimal digits of an integer, after a minus if it is negative. -/
def signedDecimal (n : Int) : String :=
  if n < 0 then "-" ++ decimal n.natAbs else decimal n.natAbs

/-- The hexadecimal digits of a number, in small letters. -/
def hexadecimal (n : Nat) : String := String.ofList (Nat.toDigits 16 n)

/-- The last digits of a number in hexadecimal, as many as are asked for, zeros in front. -/
def lastHexDigits : Nat → Nat → List Char
  | 0, _ => []
  | width + 1, n => lastHexDigits width (n / 16) ++ [Nat.digitChar (n % 16)]

/-- A byte as two hexadecimal digits. -/
def hexByte (b : UInt8) : String := String.ofList (lastHexDigits 2 b.toNat)

/-- A word as four hexadecimal digits. -/
def hexWord (w : UInt16) : String := String.ofList (lastHexDigits 4 w.toNat)

/-- In a run of digits every character has a value. -/
theorem length_digitValues {base : Nat} {text : List Char}
    (digits : ∀ c ∈ text, isDigit base c = true) :
    (digitValues base text).length = text.length := by
  induction text with
  | nil => rfl
  | cons c rest ih =>
    obtain ⟨value, found⟩ := Option.isSome_iff_exists.1 (digits c List.mem_cons_self)
    have tail := ih fun d member => digits d (List.mem_cons_of_mem c member)
    rw [digitValues, List.filterMap_cons_some found, List.length_cons, List.length_cons]
    exact congrArg (· + 1) tail

/-- Fixed-width digits have their width. -/
theorem length_lastHexDigits (width n : Nat) : (lastHexDigits width n).length = width := by
  induction width generalizing n with
  | zero => rfl
  | succ width ih => simp [lastHexDigits, ih]

/-- A number read from digits with one more digit behind them. -/
theorem ofDigits_concat (base : Nat) (digits : List Nat) (d : Nat) :
    ofDigits base (digits ++ [d]) = ofDigits base digits * base + d := by
  simp [ofDigits]

/-- The least 32-bit integer. -/
def minLevel : Int := -2147483648

/-- The greatest 32-bit integer. -/
def maxLevel : Int := 2147483647

/-- The nearest integer between the least and the greatest level. -/
def clampLevel (n : Int) : Int := max minLevel (min n maxLevel)

/-- The least 64-bit integer. -/
def minWord : Int := -9223372036854775808

/-- The greatest 64-bit integer. -/
def maxWord : Int := 9223372036854775807

/-- An integer, if it is within the range of 64 bits. -/
def inWord? (n : Int) : Option Int := if minWord ≤ n ∧ n ≤ maxWord then some n else none

/-- An integer with one more digit behind it, counted away from zero, if the range of 64 bits is not
left on the way. -/
def withDigit? (negative : Bool) (n : Int) (d : Nat) : Option Int := do
  let tenfold ← inWord? (n * 10)
  inWord? (if negative then tenfold - d else tenfold + d)

/-- The 64-bit integer that digits stand for behind a sign, if they stand for one. -/
def wordOfDigits? (negative : Bool) (digits : List Nat) : Option Int :=
  digits.foldlM (withDigit? negative) 0

/-- The level at the front of a token. -/
def leadingLevel (token : String) : Int :=
  let (negative, body) := leadingSign token.toList
  match (leadingDigits 10 body).1 with
  | [] => 0
  | digits =>
    match wordOfDigits? negative digits with
    | some n => clampLevel n
    | none => if negative then minLevel else maxLevel

/-- A text without the hexadecimal mark that it may begin with. -/
def dropHexMark (text : List Char) : List Char := (afterHexMark? text).getD text

/-- Sixteen bits with a hexadecimal digit shifted in behind them. -/
def shiftIn (w : UInt16) (d : Nat) : UInt16 := w <<< 4 ||| UInt16.ofNat d

/-- The address at the front of a token. -/
def leadingAddress (token : String) : UInt16 :=
  (leadingDigits 16 (dropHexMark token.toList)).1.foldl shiftIn 0

end BoardSupervisor.Number
