import BoardSupervisor.Number.Decimal
import BoardSupervisor.Number.Shown
import BoardSupervisor.Text.Basic

/-!
# Frequencies

A frequency is a double that counts hertz. An operator types it as a numeral with an optional unit
letter, of which only the first character after the numeral is looked at. It is shown with three
places in the unit that keeps the figure near or above one.

The numeral may be written in hexadecimal, in decimal or as one of the words `nan` and `inf`. It is
read as far as it goes and the text after it is handed back. The forms are tried in that order. A
hexadecimal numeral whose mark is not followed by a digit is read again as the decimal zero. A
decimal numeral with an exponent mark but no exponent is no numeral at all, and then the words are
not tried either.
-/

namespace BoardSupervisor.Frequency

open Number

/-- The mantissa of a hexadecimal numeral, summed in doubles from the first digit to the last. -/
def hexMantissa (whole fraction : List Nat) : Float :=
  let start : Float := whole.foldl (fun sum d => sum * 16 + Float.ofNat d) 0
  (fraction.foldl (fun (sum, place) d => (sum + Float.ofNat d * place, place / 16))
    (start, 1 / 16)).1

/-- A hexadecimal numeral: an optional sign, the mark, digits with an optional point, and an
optional power of two. An exponent mark without a complete exponent is left to the rest. -/
def leadingHexadecimal? (text : List Char) : Option (Float × List Char) := do
  let (negative, body) := leadingSign text
  let (whole, fraction, rest) ← leadingMantissa? 16 (← afterHexMark? body)
  let (exponent, rest) :=
    match leadingExponent 'p' 'P' rest with
    | .complete exponent after => (exponent, after)
    | _ => (0, rest)
  let magnitude := hexMantissa whole fraction * Binary64.powerOfTwoSigned exponent
  some (Binary64.withSign negative magnitude, rest)

/-- How a text begins. -/
inductive Beginning where
  /-- With no numeral. -/
  | nothing
  /-- With a decimal whose exponent mark is not followed by an exponent. -/
  | brokenExponent
  /-- With a number, followed by the given text. -/
  | number (value : Float) (rest : List Char)

/-- A decimal numeral: an optional sign, digits with an optional point, and an optional power of
ten. -/
def leadingDecimal (text : List Char) : Beginning :=
  let (negative, body) := leadingSign text
  match leadingMantissa? 10 body with
  | none => .nothing
  | some (whole, fraction, rest) =>
    match leadingExponent 'e' 'E' rest with
    | .absent => .number (Mantissa.toDecimal negative whole fraction 0).toFloat rest
    | .incomplete => .brokenExponent
    | .complete exponent after =>
      .number (Mantissa.toDecimal negative whole fraction exponent).toFloat after

/-- One of the two words that stand for a number, in either case. -/
def leadingWord? (text : List Char) : Option (Float × List Char) :=
  let word := (text.take 3).map Char.toLower
  if word = ['n', 'a', 'n'] then some (Binary64.notANumber, text.drop 3)
  else if word = ['i', 'n', 'f'] then some (Binary64.infinity, text.drop 3)
  else none

/-- The number at the front of a text, and the text after it. -/
def leadingNumber? (text : List Char) : Option (Float × List Char) :=
  match leadingHexadecimal? text with
  | some found => some found
  | none =>
    match leadingDecimal text with
    | .number value rest => some (value, rest)
    | .brokenExponent => none
    | .nothing => leadingWord? text

/-- Why a token is no frequency. -/
inductive Fault where
  /-- The token does not begin with a number. -/
  | noNumber
  /-- The number is followed by something other than a unit letter. -/
  | unknownUnit
  deriving DecidableEq, Repr

/-- What the operator is told about a token that is no frequency. -/
def Fault.message : Fault → String
  | .noNumber => "error: bad frequency"
  | .unknownUnit => "error: unrecognised unit suffix?"

/-- What a unit letter multiplies by. -/
def unitFactor? : Char → Option Float
  | 'k' | 'K' => some 1e3
  | 'm' | 'M' => some 1e6
  | 'g' | 'G' => some 1e9
  | _ => none

/-- The frequency that a token stands for. -/
def ofToken (token : String) : Except Fault Float :=
  match leadingNumber? token.toList with
  | none => .error .noNumber
  | some (number, []) => .ok number
  | some (number, unit :: _) =>
    match unitFactor? unit with
    | some factor => .ok (number * factor)
    | none => .error .unknownUnit

/-- The number of decimal places of a shown frequency. -/
def shownPlaces : Nat := 3

/-- A frequency as it is shown to the operator. -/
def display (hz : Float) : String :=
  if hz ≥ 950000 then (Binary64.read (hz / 1e6)).toPlaces shownPlaces ++ "MHz"
  else if hz > 950 then (Binary64.read (hz / 1e3)).toPlaces shownPlaces ++ "kHz"
  else (Binary64.read hz).toPlaces shownPlaces ++ "Hz"

end BoardSupervisor.Frequency
