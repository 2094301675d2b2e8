import BoardSupervisor.Number.Binary64
import BoardSupervisor.Number.Digits

/-!
# Doubles as they are shown

The exact value of a double is rounded to a given number of decimal places, a half going to the even
neighbour, and is written in full, however large it is. The log writes a double with the fewest
digits that read back as the same double, and of several such decimals the nearest; between two that
are equally near it takes the larger. The decimal is written in full, without an exponent and
without a point where no digits follow it.

All the reals that round to the double `m * 2 ^ q` lie between the midpoints to its neighbours; the
midpoints belong to them when `m` is even. Below a power of two the neighbour is half as far away.
The coarsest decimal grid with a point among those reals has the fewest digits, and one of the two
grid points around the double itself is then among them.
-/

namespace BoardSupervisor

namespace Number

/-- A quotient rounded to the nearest whole number, a half to the even neighbour. -/
def roundHalfEven (numerator denominator : Nat) : Nat :=
  let quotient := numerator / denominator
  let twice := 2 * (numerator % denominator)
  if twice > denominator ∨ (twice = denominator ∧ quotient % 2 = 1) then quotient + 1 else quotient

/-- The whole number nearest to `significand * 2 ^ exponent`, a half to the even neighbour. -/
def nearestWhole (significand : Nat) (exponent : Int) : Nat :=
  match exponent with
  | .ofNat shift => significand * Nat.pow 2 shift
  | .negSucc places => roundHalfEven significand (Nat.pow 2 (places + 1))

/-- A sign before a text, if it is a minus. -/
def signText (negative : Bool) : String := if negative then "-" else ""

/-- A number of units of the last place, written with its point. -/
def pointed (places units : Nat) : String :=
  let fraction := (decimal (units % Nat.pow 10 places)).toList
  decimal (units / Nat.pow 10 places) ++ "." ++
    String.ofList (List.replicate (places - fraction.length) '0' ++ fraction)

end Number

/-- A double written with a fixed number of decimal places. -/
def Reading.toPlaces (places : Nat) : Reading → String
  | .nan => "NaN"
  | .infinite negative => Number.signText negative ++ "inf"
  | .finite negative significand exponent =>
    Number.signText negative ++
      Number.pointed places (Number.nearestWhole (significand * Nat.pow 10 places) exponent)

namespace Number

/-- The reals that round to one double, in units of some power of two that the caller keeps. -/
structure RoundingInterval where
  /-- The lower midpoint. -/
  low : Nat
  /-- The double itself. -/
  value : Nat
  /-- The upper midpoint. -/
  high : Nat
  /-- Whether the midpoints belong to the interval. -/
  closed : Bool

/-- The interval of `significand * 2 ^ exponent`, in units of a quarter of `2 ^ exponent`. -/
def RoundingInterval.of (significand : Nat) (exponent : Int) : RoundingInterval where
  low :=
    if significand = Binary64.hiddenOne ∧ exponent ≠ Binary64.leastExponent then 4 * significand - 1
    else 4 * significand - 2
  value := 4 * significand
  high := 4 * significand + 2
  closed := significand % 2 == 0

/-- All three points multiplied by a number. -/
def RoundingInterval.scale (r : RoundingInterval) (factor : Nat) : RoundingInterval :=
  { r with low := r.low * factor, value := r.value * factor, high := r.high * factor }

/-- Whether a point lies in the interval. -/
def RoundingInterval.contains (r : RoundingInterval) (point : Nat) : Bool :=
  if r.closed then r.low ≤ point && point ≤ r.high else r.low < point && point < r.high

/-- The multiple of `unit` in the interval that is nearest to the value, as the number of units; of
two equally near the larger. -/
def RoundingInterval.nearestMultiple? (r : RoundingInterval) (unit : Nat) : Option Nat :=
  let below := r.value / unit
  let above := below + 1
  match r.contains (below * unit), r.contains (above * unit) with
  | true, true =>
    if r.value - below * unit < above * unit - r.value then some below else some above
  | true, false => some below
  | false, true => some above
  | false, false => none

/-- A number of units of a power of ten that reads back as the double, if there is one. -/
def unitsAt? (significand : Nat) (exponent power : Int) : Option Nat :=
  let quarter := exponent - 2
  let ofUnits := Nat.pow 2 quarter.toNat * Nat.pow 10 (-power).toNat
  let unit := Nat.pow 2 (-quarter).toNat * Nat.pow 10 power.toNat
  ((RoundingInterval.of significand exponent).scale ofUnits).nearestMultiple? unit

/-- The coarsest power of ten at or below a given one that has a multiple which reads back as the
double, with the number of its units. -/
def coarsest? (significand : Nat) (exponent : Int) : Nat → Int → Option (Nat × Int)
  | 0, _ => none
  | steps + 1, power =>
    match unitsAt? significand exponent power with
    | some units => some (units, power)
    | none => coarsest? significand exponent steps (power - 1)

/-- A number of units of a power of ten, written in full. -/
def inFull (units : Nat) : Int → String
  | .ofNat zeros => decimal (units * Nat.pow 10 zeros)
  | .negSucc places => pointed (places + 1) units

/-- No double reaches ten to this power. -/
def greatestPower : Int := 309

/-- From the greatest power of ten down to the one whose multiples are all the doubles. -/
def powerCount : Nat := 1400

end Number

/-- A double written with the fewest digits that read back. -/
def Reading.toShortest : Reading → String
  | .nan => "NaN"
  | .infinite negative => Number.signText negative ++ "inf"
  | .finite negative significand exponent =>
    Number.signText negative ++
      if significand = 0 then "0"
      else match Number.coarsest? significand exponent Number.powerCount Number.greatestPower with
        | some (units, power) => Number.inFull units power
        | none => "0"

end BoardSupervisor
