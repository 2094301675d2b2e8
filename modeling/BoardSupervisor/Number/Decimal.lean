import BoardSupervisor.Number.Binary64
import BoardSupervisor.Number.Digits

/-!
# Decimal numerals

A decimal numeral stands for a whole number times a power of ten. Its double is the one nearest to
that value, infinite beyond the range of doubles. Numerals with far-off exponents are decided by
their size alone, so that no huge power is ever formed.
-/

namespace BoardSupervisor

/-- The number `digits * 10 ^ exponent`, negated if `negative`. -/
structure Decimal where
  /-- Whether a minus stands in front. -/
  negative : Bool
  /-- The digits of the numeral, the point left out. -/
  digits : Nat
  /-- The power of ten of the last digit. -/
  exponent : Int
  deriving DecidableEq, Repr

namespace Decimal

/-- The power of ten that the number stays below. -/
def size (d : Decimal) : Int := (Nat.toDigits 10 d.digits).length + d.exponent

/-- The double nearest to the number without its sign. -/
def magnitude (d : Decimal) : Float :=
  if d.digits = 0 then 0
  else if d.size > 310 then Binary64.infinity
  else if d.size < -330 then 0
  else match d.exponent with
    | .ofNat zeros => Float.ofScientific d.digits false zeros
    | .negSucc places => Float.ofScientific d.digits true (places + 1)

/-- The double nearest to the number. -/
def toFloat (d : Decimal) : Float := Binary64.withSign d.negative d.magnitude

end Decimal

namespace Number

/-- Digits with an optional point, at least one of them in all, at the front of a text: the digits
before and after the point, and the text after them. -/
def leadingMantissa? (base : Nat) (text : List Char) : Option (List Nat × List Nat × List Char) :=
  let (whole, rest) := leadingDigits base text
  let (fraction, rest) :=
    match rest with
    | '.' :: after => leadingDigits base after
    | rest => ([], rest)
  if whole.isEmpty && fraction.isEmpty then none else some (whole, fraction, rest)

/-- The decimal that a mantissa and an exponent stand for. -/
def Mantissa.toDecimal (negative : Bool) (whole fraction : List Nat) (exponent : Int) :
    Decimal where
  negative := negative
  digits := ofDigits 10 (whole ++ fraction)
  exponent := exponent - fraction.length

/-- How the text after a mantissa goes on. -/
inductive ExponentPart where
  /-- No exponent mark follows. -/
  | absent
  /-- An exponent mark follows without a complete exponent. -/
  | incomplete
  /-- A complete exponent, and the text after it. -/
  | complete (exponent : Int) (rest : List Char)

/-- The exponent after a mark of the given two letters. -/
def leadingExponent (small capital : Char) : List Char → ExponentPart
  | [] => .absent
  | mark :: rest =>
    if mark = small ∨ mark = capital then
      match leadingInteger? rest with
      | some (exponent, rest) => .complete exponent rest
      | none => .incomplete
    else .absent

end Number

end BoardSupervisor
