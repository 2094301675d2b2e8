/-!
# Double-precision numbers read exactly

A finite double is a sign, a natural number and a power of two. Reading it that way lets rounding
and printing work in exact integer arithmetic. The module also holds the largest whole number not
above a double, the count that a double stands for, and powers of two.
-/

namespace BoardSupervisor

/-- What a double stands for. -/
inductive Reading where
  /-- Not a number. -/
  | nan
  /-- An infinity, negative or positive. -/
  | infinite (negative : Bool)
  /-- The number `significand * 2 ^ exponent`, negated if `negative`. -/
  | finite (negative : Bool) (significand : Nat) (exponent : Int)
  deriving DecidableEq, Repr

namespace Binary64

/-- The positive infinity. -/
def infinity : Float := Float.ofBits 0x7ff0000000000000

/-- A double that is not a number. -/
def notANumber : Float := Float.ofBits 0x7ff8000000000000

/-- The bit above the fraction, which a pattern leaves out. -/
def hiddenOne : Nat := 0x10000000000000

/-- The exponent of the least double above zero. -/
def leastExponent : Int := -1074

/-- What a bit pattern stands for: one bit of sign, eleven of exponent, fifty-two of fraction. The
least exponent has no hidden leading one, the greatest is kept for infinities and non-numbers. -/
def ofPattern (bits : Nat) : Reading :=
  let negative := bits / 0x8000000000000000 % 2 == 1
  let scale := bits / hiddenOne % 2048
  let fraction := bits % hiddenOne
  if scale = 2047 then
    if fraction = 0 then .infinite negative else .nan
  else if scale = 0 then .finite negative fraction leastExponent
  else .finite negative (hiddenOne + fraction) ((scale : Int) - 1075)

/-- What a double stands for. -/
def read (x : Float) : Reading := ofPattern x.toBits.toNat

/-- A magnitude with a sign before it. -/
def withSign (negative : Bool) (magnitude : Float) : Float :=
  if negative then -magnitude else magnitude

/-- The largest whole number that is not above a double. Non-numbers, infinities and whole numbers,
the negative zero among them, are left as they are. -/
def floor (x : Float) : Float :=
  match read x with
  | .finite negative significand (.negSucc places) =>
    let unit := Nat.pow 2 (places + 1)
    if significand % unit = 0 then x
    else if negative then -(Float.ofNat (significand / unit + 1))
    else Float.ofNat (significand / unit)
  | _ => x

/-- The greatest number that a 64-bit counter holds. -/
def maxCount : Nat := 0xffffffffffffffff

/-- The count that a double stands for: its whole part, nothing below zero or for a non-number, and
never more than a 64-bit counter holds. -/
def count (x : Float) : Nat :=
  match read x with
  | .nan => 0
  | .infinite negative => if negative then 0 else maxCount
  | .finite true _ _ => 0
  | .finite false significand (.ofNat shift) => min maxCount (significand * Nat.pow 2 shift)
  | .finite false significand (.negSucc places) =>
    min maxCount (significand / Nat.pow 2 (places + 1))

/-- The double `2 ^ n`, infinite when that is out of range. -/
def powerOfTwo (n : Nat) : Float := if n < 1024 then Float.ofNat (Nat.pow 2 n) else infinity

/-- The double `2 ^ n` for a signed exponent; a negative one gives the reciprocal of the positive
power, so that it is zero once the positive power is out of range. -/
def powerOfTwoSigned (n : Int) : Float :=
  match n with
  | .ofNat n => powerOfTwo n
  | .negSucc n => 1 / powerOfTwo (n + 1)

end Binary64

end BoardSupervisor
