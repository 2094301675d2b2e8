import BoardSupervisor.Number.Binary64
import Mathlib

/-!
# Doubles taken apart

Arithmetic takes doubles apart into a sign, a significand and an exponent, works on these, and puts
the result together again. What is taken apart is always in one form: a full significand, or a
shorter one with the least exponent. A result in this form is put together without loss, unless its
exponent is too great; it is then infinite. The exact reading of a double says the same as its
parts.
-/

namespace BoardSupervisor.Binary64

open Float.Model Float.Model.UnpackedFloat

/-- A double, taken apart. -/
def parts (x : Float) : UnpackedFloat := x.toModel.unpack

/-- The double that is put together from parts. -/
def ofParts (u : UnpackedFloat) : Float := .ofModel (.pack u)

/-- The form of a significand and its exponent that each double has only one of. -/
structure Canonical (m : Nat) (e : Int) : Prop where
  /-- The significand has no more bits than there is room for. -/
  short : m < 2 ^ 53
  /-- The exponent is in range at its lower end. -/
  least : leastExponent ≤ e
  /-- The significand is full, unless the exponent cannot be less. -/
  full : 2 ^ 52 ≤ m ∨ e = leastExponent

/-- The greatest exponent of a finite double. -/
def greatestExponent : Int := 971

section Fields

variable (b : BitVec Format.binary64.numBits)

/-- The fraction is held in the low bits. -/
theorem toNat_unpackMantissa : (unpackMantissa b).toNat = b.toNat % 2 ^ 52 := by
  rw [unpackMantissa_def, BitVec.extractLsb'_toNat, Nat.shiftRight_zero]

/-- The scale is held in eleven bits above the fraction. -/
theorem toNat_unpackExponent : (unpackExponent b).toNat = b.toNat / 2 ^ 52 % 2 ^ 11 := by
  rw [unpackExponent_def, BitVec.extractLsb'_toNat, Nat.shiftRight_eq_div_pow]

/-- The sign is held in the top bit. -/
theorem toNat_unpackSign : (unpackSign b).toNat = b.toNat / 2 ^ 63 % 2 ^ 1 := by
  rw [unpackSign_def, BitVec.extractLsb'_toNat, Nat.shiftRight_eq_div_pow]
  rfl

/-- A significand is its fraction with the leading one before it. -/
theorem toNat_leadingOne (fraction : BitVec 52) :
    ((1#1 : BitVec 1) ++ fraction).toNat = 2 ^ 52 + fraction.toNat := by
  rw [BitVec.toNat_append, ← Nat.shiftLeft_add_eq_or_of_lt fraction.isLt]
  rfl

end Fields

/-- Whether a sign is a minus. -/
def isNegative : Sign → Bool
  | .negative => true
  | .positive => false

/-- What parts stand for. -/
def readingOf : UnpackedFloat → Reading
  | .notANumber => .nan
  | .infinity s => .infinite (isNegative s)
  | .zero s => .finite (isNegative s) 0 leastExponent
  | .finite s m e _ => .finite (isNegative s) m e

/-- How a bit pattern is taken apart. -/
inductive TakenApart (bits : Nat) (s : Sign) : UnpackedFloat → Prop
  /-- An infinity has the greatest scale and no fraction. -/
  | infinite (scale : bits / 2 ^ 52 % 2 ^ 11 = 2047) (fraction : bits % 2 ^ 52 = 0) :
    TakenApart bits s (.infinity s)
  /-- All other patterns of the greatest scale are non-numbers. -/
  | nan (scale : bits / 2 ^ 52 % 2 ^ 11 = 2047) (fraction : bits % 2 ^ 52 ≠ 0) :
    TakenApart bits s .notANumber
  /-- A zero has neither a scale nor a fraction. -/
  | zero (scale : bits / 2 ^ 52 % 2 ^ 11 = 0) (fraction : bits % 2 ^ 52 = 0) :
    TakenApart bits s (.zero s)
  /-- Without a scale the fraction is the significand, at the least exponent. -/
  | subnormal (scale : bits / 2 ^ 52 % 2 ^ 11 = 0) (pos : 0 < bits % 2 ^ 52) :
    TakenApart bits s (.finite s (bits % 2 ^ 52) leastExponent pos)
  /-- With a scale the significand has a leading one before the fraction. -/
  | normal (low : bits / 2 ^ 52 % 2 ^ 11 ≠ 0) (high : bits / 2 ^ 52 % 2 ^ 11 ≠ 2047)
    (pos : 0 < 2 ^ 52 + bits % 2 ^ 52) :
    TakenApart bits s
      (.finite s (2 ^ 52 + bits % 2 ^ 52) ((bits / 2 ^ 52 % 2 ^ 11 : Nat) - 1075 : Int) pos)

/-- Finite parts are given by a sign, a significand and an exponent. -/
theorem finite_congr {s : Sign} {m n : Nat} {e f : Int} (significand : m = n) (exponent : e = f)
    (pos : 0 < m) (pos' : 0 < n) :
    UnpackedFloat.finite s m e pos = .finite s n f pos' := by
  subst significand exponent
  rfl

/-- A bit pattern is taken apart by its fields. -/
theorem takenApart_unpack (b : BitVec Format.binary64.numBits) :
    TakenApart b.toNat (Sign.ofBitVec (unpackSign b)) (UnpackedFloat.unpack .binary64 b) := by
  have mantissa := toNat_unpackMantissa b
  have exponent := toNat_unpackExponent b
  have noFraction : unpackMantissa b = 0#52 ↔ b.toNat % 2 ^ 52 = 0 := by
    rw [← mantissa, ← BitVec.toNat_inj, BitVec.toNat_zero]
  have noScale : unpackExponent b = 0#11 ↔ b.toNat / 2 ^ 52 % 2 ^ 11 = 0 := by
    rw [← exponent, ← BitVec.toNat_inj, BitVec.toNat_zero]
  have fullScale : unpackExponent b = -1#11 ↔ b.toNat / 2 ^ 52 % 2 ^ 11 = 2047 := by
    rw [← exponent, ← BitVec.toNat_inj]
    rfl
  unfold UnpackedFloat.unpack
  dsimp only
  split
  · next greatest =>
    have scale := fullScale.mp greatest
    split
    · next none => exact .infinite scale (noFraction.mp none)
    · next some => exact .nan scale (mt noFraction.mpr some)
  · next notGreatest =>
    split
    · next least =>
      have scale := noScale.mp least
      split
      · next none => exact .zero scale (noFraction.mp none)
      · next some =>
        have pos : 0 < b.toNat % 2 ^ 52 := Nat.pos_of_ne_zero (mt noFraction.mpr some)
        have place : ((unpackExponent b).toNat : Int) -
            (Format.binary64.exponentBias + Format.binary64.mantissaBitsWithoutImplicit) + 1 =
              leastExponent := by
          rw [exponent, scale]
          rfl
        rw [finite_congr mantissa place _ pos]
        exact .subnormal scale pos
    · next notLeast =>
      have significand : ((1#1 : BitVec 1) ++ unpackMantissa b).toNat =
          2 ^ 52 + b.toNat % 2 ^ 52 := by
        rw [toNat_leadingOne, mantissa]
      have pos : 0 < 2 ^ 52 + b.toNat % 2 ^ 52 := by omega
      have place : ((unpackExponent b).toNat : Int) -
          (Format.binary64.exponentBias + Format.binary64.mantissaBitsWithoutImplicit) =
            (b.toNat / 2 ^ 52 % 2 ^ 11 : Nat) - 1075 := by
        rw [exponent]
        rfl
      rw [finite_congr significand place _ pos]
      exact .normal (mt noScale.mpr notLeast) (mt fullScale.mpr notGreatest) pos

/-- The parts of a double are those of its bit pattern. -/
theorem takenApart_parts (x : Float) :
    ∃ s, isNegative s = (x.toBits.toNat / 2 ^ 63 % 2 == 1) ∧
      TakenApart x.toBits.toNat s (parts x) := by
  have sign := toNat_unpackSign x.toModel.toBits.toBitVec
  refine ⟨_, ?_, takenApart_unpack x.toModel.toBits.toBitVec⟩
  change _ = (x.toModel.toBits.toBitVec.toNat / 2 ^ 63 % 2 ^ 1 == 1)
  rw [← sign]
  generalize unpackSign _ = top
  revert top
  decide

/-- A bit pattern is read by its fields. -/
theorem ofPattern_eq (bits : Nat) :
    ofPattern bits =
      if bits / 2 ^ 52 % 2 ^ 11 = 2047 then
        if bits % 2 ^ 52 = 0 then .infinite (bits / 2 ^ 63 % 2 == 1) else .nan
      else if bits / 2 ^ 52 % 2 ^ 11 = 0 then
        .finite (bits / 2 ^ 63 % 2 == 1) (bits % 2 ^ 52) leastExponent
      else
        .finite (bits / 2 ^ 63 % 2 == 1) (2 ^ 52 + bits % 2 ^ 52)
          ((bits / 2 ^ 52 % 2 ^ 11 : Nat) - 1075) := rfl

/-- The exact reading of a double is what its parts stand for. -/
theorem read_eq (x : Float) : read x = readingOf (parts x) := by
  obtain ⟨s, sign, taken⟩ := takenApart_parts x
  rw [read, ofPattern_eq]
  generalize x.toBits.toNat = bits at sign taken
  generalize parts x = u at taken
  cases taken with
  | infinite scale fraction =>
    rw [if_pos scale, if_pos fraction, ← sign]
    rfl
  | nan scale fraction =>
    rw [if_pos scale, if_neg fraction]
    rfl
  | zero scale fraction =>
    rw [if_neg (by omega), if_pos scale, fraction, ← sign]
    rfl
  | subnormal scale pos =>
    rw [if_neg (by omega), if_pos scale, ← sign]
    rfl
  | normal low high pos =>
    rw [if_neg high, if_neg low, ← sign]
    rfl

/-- A finite double is taken apart into the one form. -/
theorem canonical_of_parts {x : Float} {s : Sign} {m : Nat} {e : Int} {pos : 0 < m}
    (found : parts x = .finite s m e pos) : Canonical m e ∧ e ≤ greatestExponent := by
  obtain ⟨s', -, taken⟩ := takenApart_parts x
  rw [found] at taken
  cases taken with
  | subnormal scale pos =>
    refine ⟨⟨?_, Int.le_refl _, .inr rfl⟩, by decide⟩
    omega
  | normal low high pos =>
    unfold greatestExponent
    refine ⟨⟨?_, ?_, .inl ?_⟩, ?_⟩
    · omega
    · unfold leastExponent
      omega
    · omega
    · omega

section Together

/-- What is put together is packed into bits and unpacked again. -/
theorem parts_ofParts (u : UnpackedFloat) :
    parts (ofParts u) = UnpackedFloat.unpack .binary64 (UnpackedFloat.pack .binary64 u) := rfl

/-- A significand with a leading one is not zero. -/
theorem leadingOne_pos (fraction : BitVec 52) : 0 < ((1#1 : BitVec 1) ++ fraction).toNat := by
  rw [toNat_leadingOne]
  omega

/-- Packed fields are unpacked by their scale. -/
theorem unpack_packComponents (s : Sign) (scale : BitVec 11) (fraction : BitVec 52) :
    UnpackedFloat.unpack .binary64 (packComponents .binary64 s scale fraction) =
      if scale = -1#11 then
        if fraction = 0#52 then .infinity s else .notANumber
      else if scale = 0#11 then
        if pos : fraction = 0#52 then .zero s
        else .finite s fraction.toNat leastExponent
          (by simpa [BitVec.toNat_pos, BitVec.pos_iff_ne_zero])
      else .finite s ((1#1 : BitVec 1) ++ fraction).toNat (scale.toNat - 1075 : Int)
        (leadingOne_pos fraction) := by
  generalize packed_eq : packComponents .binary64 s scale fraction = b
  have sign : Sign.ofBitVec (unpackSign b) = s := by
    rw [← packed_eq, unpackSign_packComponents, Sign.ofBitVec_toBitVec]
  have exponent : unpackExponent b = scale := by
    rw [← packed_eq, unpackExponent_packComponents]
  have mantissa : unpackMantissa b = fraction := by
    rw [← packed_eq, unpackMantissa_packComponents]
  unfold UnpackedFloat.unpack
  dsimp only
  simp only [sign, exponent, mantissa]
  by_cases greatest : scale = -1#11
  · rw [if_pos greatest, if_pos greatest]
  · rw [if_neg greatest, if_neg greatest]
    by_cases least : scale = 0#11
    · rw [if_pos least, if_pos least]
      by_cases none : fraction = 0#52
      · rw [dif_pos none, dif_pos none]
      · rw [dif_neg none, dif_neg none]
        refine finite_congr rfl ?_ _ _
        rw [least]
        rfl
    · rw [if_neg least, if_neg least]
      rfl

/-- A number that has room is held in other bits than a different number. -/
theorem ofNat_ne {width k : Nat} {b : BitVec width} (room : k < 2 ^ width) (other : k ≠ b.toNat) :
    BitVec.ofNat width k ≠ b := by
  intro same
  have value := congrArg BitVec.toNat same
  rw [BitVec.toNat_ofNat, Nat.mod_eq_of_lt room] at value
  exact other value

variable (s : Sign)

/-- A non-number stays one when it is put together. -/
@[simp] theorem parts_ofParts_nan : parts (ofParts .notANumber) = .notANumber := by
  rw [parts_ofParts]
  exact unpack_packedNaN

/-- A zero stays one when it is put together. -/
@[simp] theorem parts_ofParts_zero : parts (ofParts (.zero s)) = .zero s := by
  rw [parts_ofParts]
  exact unpack_packedZero

/-- An infinity stays one when it is put together. -/
@[simp] theorem parts_ofParts_infinity : parts (ofParts (.infinity s)) = .infinity s := by
  rw [parts_ofParts]
  exact unpack_packComponents s (-1#11) 0#52

variable {m : Nat} {e : Int} (pos : 0 < m)

/-- What fields are put together for finite parts. -/
theorem pack_finite :
    UnpackedFloat.pack .binary64 (.finite s m e pos) =
      if 2 ^ 11 ≤ (e + 1075).toNat + 1 then packedInfinity .binary64 s
      else if m.log2 + 1 = 53 then
        packComponents .binary64 s (BitVec.ofNat 11 (e + 1075).toNat) (BitVec.ofNat 52 m)
      else packComponents .binary64 s 0#11 (BitVec.ofNat 52 m) := by
  have place : e + (Format.binary64.exponentBias : Int) +
      (Format.binary64.mantissaBitsWithoutImplicit : Int) = e + 1075 := by
    change e + 1023 + 52 = e + 1075
    omega
  unfold UnpackedFloat.pack
  dsimp only
  rw [place]
  rfl

/-- Where the exponent is too great, an infinity is put together. -/
theorem parts_ofParts_overflow (great : greatestExponent < e) :
    parts (ofParts (.finite s m e pos)) = .infinity s := by
  have beyond : 2 ^ 11 ≤ (e + 1075).toNat + 1 := by
    unfold greatestExponent at great
    omega
  rw [parts_ofParts, pack_finite, if_pos beyond]
  exact unpack_packComponents s (-1#11) 0#52

variable {s pos}

/-- Parts in the one form are put together without loss. -/
theorem parts_ofParts_finite (canonical : Canonical m e) (small : e ≤ greatestExponent) :
    parts (ofParts (.finite s m e pos)) = .finite s m e pos := by
  obtain ⟨short, least, full⟩ := canonical
  unfold leastExponent at least full
  unfold greatestExponent at small
  have given : m ≠ 0 := Nat.ne_of_gt pos
  rw [parts_ofParts, pack_finite, if_neg (by omega)]
  by_cases long : 2 ^ 52 ≤ m
  · have width : m.log2 = 52 := (Nat.log2_eq_iff given).mpr ⟨long, short⟩
    have scale : (BitVec.ofNat 11 (e + 1075).toNat).toNat = (e + 1075).toNat := by
      rw [BitVec.toNat_ofNat, Nat.mod_eq_of_lt (by omega)]
    have notGreatest : BitVec.ofNat 11 (e + 1075).toNat ≠ -1#11 := by
      refine ofNat_ne (by omega) ?_
      change (e + 1075).toNat ≠ 2047
      omega
    have notLeast : BitVec.ofNat 11 (e + 1075).toNat ≠ 0#11 := by
      refine ofNat_ne (by omega) ?_
      change (e + 1075).toNat ≠ 0
      omega
    rw [if_pos (by omega), unpack_packComponents, if_neg notGreatest, if_neg notLeast]
    refine finite_congr ?_ ?_ _ _
    · rw [toNat_leadingOne, BitVec.toNat_ofNat]
      omega
    · rw [scale]
      omega
  · have width : m.log2 < 52 := (Nat.log2_lt given).mpr (by omega)
    have fraction : (BitVec.ofNat 52 m).toNat = m := by
      rw [BitVec.toNat_ofNat, Nat.mod_eq_of_lt (by omega)]
    have some : BitVec.ofNat 52 m ≠ 0#52 := ofNat_ne (by omega) given
    rw [if_neg (by omega), unpack_packComponents, if_neg (by decide), if_pos rfl, dif_neg some]
    exact finite_congr fraction (full.resolve_left long).symm _ _

end Together

end BoardSupervisor.Binary64
