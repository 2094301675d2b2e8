import BoardSupervisor.Log
import BoardSupervisor.Number.Decimal
import BoardSupervisor.Text.Basic
import BoardSupervisor.Text.Quoted

/-!
# Values of options

A number, key code or level given as the value of an option has to be well formed from beginning to
end, unlike a number typed into a command.
-/

namespace BoardSupervisor

/-- Why a text is no whole number. -/
inductive IntegerFault where
  /-- There is nothing to read. -/
  | empty
  /-- A character is no digit. -/
  | invalidDigit
  /-- The digits so far already stand for too large a number. -/
  | tooLarge
  deriving DecidableEq, Repr

/-- A faulty whole number in words. -/
def IntegerFault.message : IntegerFault → String
  | .empty => "cannot parse integer from empty string"
  | .invalidDigit => "invalid digit found in string"
  | .tooLarge => "number too large to fit in target type"

/-- Why a text is no value of an option. -/
inductive ValueFault where
  /-- A number is expected and there is nothing to read. -/
  | emptyNumber
  /-- A number is expected and the text is none. -/
  | invalidNumber
  /-- A whole number is expected. -/
  | integer (fault : IntegerFault)
  /-- A key code is expected, and the text is none for the given reason. -/
  | keyCode (text : String) (fault : IntegerFault)
  /-- A log level is expected. -/
  | unknownLevel
  deriving DecidableEq, Repr

/-- A faulty value in words. -/
def ValueFault.message : ValueFault → String
  | .emptyNumber => "cannot parse float from empty string"
  | .invalidNumber => "invalid float literal"
  | .integer fault => fault.message
  | .keyCode text fault => "bad keycode " ++ Text.Quoted.quote text ++ ": " ++ fault.message
  | .unknownLevel => "attempted to convert a string that doesn\x27t match an existing log level"

namespace Value

open Number

/-- Digits in a base that stand for at most a given number, after the digits before them. The first
character at fault decides what is wrong. -/
def digits (base greatest : Nat) : Nat → List Char → Except IntegerFault Nat
  | before, [] => .ok before
  | before, c :: rest =>
    match digit? base c with
    | none => .error .invalidDigit
    | some d =>
      if before * base + d > greatest then .error .tooLarge
      else digits base greatest (before * base + d) rest

/-- A whole number of at most a given size: an optional plus and one or more digits. -/
def wholeNumber (base greatest : Nat) (text : List Char) : Except IntegerFault Nat :=
  match text with
  | [] => .error .empty
  | ['+'] => .error .invalidDigit
  | '+' :: rest => digits base greatest 0 rest
  | text => digits base greatest 0 text

/-- The greatest whole number of 64 bits. -/
def maxWord : Nat := 0xffffffffffffffff

/-- A whole number of 64 bits. -/
def word (text : String) : Except ValueFault Nat :=
  (wholeNumber 10 maxWord text.toList).mapError .integer

/-- The code of a key: a whole number of eight bits, in hexadecimal after a hexadecimal mark. -/
def keyCodeNumber (text : List Char) : Except IntegerFault Nat :=
  match afterHexMark? text with
  | some rest => wholeNumber 16 255 rest
  | none => wholeNumber 10 255 text

/-- The key of a code. -/
def keyCode (text : String) : Except ValueFault UInt8 :=
  match keyCodeNumber text.toList with
  | .ok code => .ok (UInt8.ofNat code)
  | .error fault => .error (.keyCode text fault)

/-- A word that stands for a number, in either case. -/
def numberWord? (text : List Char) : Option Float :=
  let word := text.map Char.toLower
  if word = "inf".toList || word = "infinity".toList then some Binary64.infinity
  else if word = "nan".toList then some Binary64.notANumber
  else none

/-- A decimal without a sign: digits with an optional point, and an optional power of ten. -/
def unsignedDecimal? (text : List Char) : Option Decimal :=
  match leadingMantissa? 10 text with
  | none => none
  | some (whole, fraction, rest) =>
    match rest, leadingExponent 'e' 'E' rest with
    | [], _ => some (Mantissa.toDecimal false whole fraction 0)
    | _, .complete exponent [] => some (Mantissa.toDecimal false whole fraction exponent)
    | _, _ => none

/-- A number: an optional sign, and a word or a decimal. -/
def number (text : String) : Except ValueFault Float :=
  let (negative, body) := leadingSign text.toList
  if text.isEmpty then .error .emptyNumber
  else match numberWord? body with
    | some value => .ok (Binary64.withSign negative value)
    | none =>
      match unsignedDecimal? body with
      | some decimal => .ok (Binary64.withSign negative decimal.toFloat)
      | none => .error .invalidNumber

/-- A filter for the log, by its name in either case. -/
def logFilter (text : String) : Except ValueFault Log.Filter :=
  match Log.Filter.all.find? fun filter => Text.alike filter.name text with
  | some filter => .ok filter
  | none => .error .unknownLevel

end Value

end BoardSupervisor
