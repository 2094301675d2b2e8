import BoardSupervisor.Proofs.Number.Unpacking

/-!
# Rounding

A result of arithmetic is an exact significand with an exponent, and is shifted to the exponent at
which it just has room. What is shifted out decides whether the significand is rounded up by one; if
less than half is lost it is not. A significand that is rounded up may need one more bit, so that
its exponent grows by one. What can come out is then a zero, parts in the one form, or an infinity.
-/

namespace BoardSupervisor.Binary64

open Float.Model Float.Model.UnpackedFloat

/-- The exponent at which a significand just has room, not below the least one. -/
def place (m : Nat) (e : Int) : Int := max (m.log2 + e - 52) leastExponent

/-- The exponent that is aimed at is the one at which there just is room. -/
theorem targetExponent_eq (m : Nat) (e : Int) :
    Format.binary64.targetExponent (totalExponent m e) = place m e := by
  have width : (Format.binary64.mantissaBits : Int) = 53 := rfl
  have least : Format.binary64.minExponent = leastExponent := rfl
  unfold Format.targetExponent totalExponent place
  rw [width, least]
  omega

/-- The significand after some places have been shifted out of it and it has been rounded. -/
def rounded (m places : Nat) (accuracy : Accuracy) : Nat :=
  (ExtendedMantissa.ofMantissaAndAccuracy m accuracy >>> places).roundedMantissa

section Shifting

variable (m places : Nat) (accuracy : Accuracy)

/-- One more place is shifted out behind the others. -/
theorem shiftRight_succ (em : ExtendedMantissa) :
    em >>> (places + 1) = (em >>> places).shiftRightOne := rfl

/-- What is kept after places have been shifted out. -/
theorem shiftRight_mantissa (em : ExtendedMantissa) :
    (em >>> places).mantissa = em.mantissa / 2 ^ places := by
  induction places with
  | zero => exact (Nat.div_one _).symm
  | succ places ih =>
    rw [shiftRight_succ, ExtendedMantissa.shiftRightOne, ih, Nat.div_div_eq_div_mul, Nat.pow_succ]

/-- Nothing is shifted out of a significand at first. -/
theorem ofMantissaAndAccuracy_mantissa :
    (ExtendedMantissa.ofMantissaAndAccuracy m accuracy).mantissa = m := by
  cases accuracy with
  | exact => rfl
  | inexact side => cases side <;> rfl

/-- Rounding keeps a significand or adds one to it. -/
theorem roundedMantissa_cases (em : ExtendedMantissa) :
    em.roundedMantissa = em.mantissa ∨ em.roundedMantissa = em.mantissa + 1 := by
  obtain ⟨kept, half, rest⟩ := em
  cases half <;> cases rest
  · exact .inl rfl
  · exact .inl rfl
  · rcases Nat.mod_two_eq_zero_or_one kept with even | odd
    · exact .inl (congrArg (kept + ·) even)
    · exact .inr (congrArg (kept + ·) odd)
  · exact .inr rfl

/-- Rounding keeps a significand if less than half of its last place is lost. -/
theorem roundedMantissa_of_low {em : ExtendedMantissa} (low : em.roundBit = false) :
    em.roundedMantissa = em.mantissa := by
  obtain ⟨kept, half, rest⟩ := em
  obtain rfl : half = false := low
  cases rest <;> rfl

/-- A rounded significand is what is kept, or one more. -/
theorem rounded_cases :
    rounded m places accuracy = m / 2 ^ places ∨
      rounded m places accuracy = m / 2 ^ places + 1 := by
  have kept := roundedMantissa_cases
    (ExtendedMantissa.ofMantissaAndAccuracy m accuracy >>> places)
  rw [shiftRight_mantissa, ofMantissaAndAccuracy_mantissa] at kept
  exact kept

/-- Nothing is added where less than half of the last place is lost. -/
theorem rounded_of_low (low : 2 * (m % 2 ^ places) < 2 ^ places) :
    rounded m places .exact = m / 2 ^ places := by
  have bit : (ExtendedMantissa.ofMantissaAndAccuracy m .exact >>> places).roundBit = false := by
    cases places with
    | zero => rfl
    | succ places =>
      rw [shiftRight_succ, ExtendedMantissa.shiftRightOne, shiftRight_mantissa,
        ofMantissaAndAccuracy_mantissa]
      have even : m / 2 ^ places % 2 = 0 := by
        rw [Nat.pow_succ] at low
        have small : m % (2 ^ places * 2) < 2 ^ places := by omega
        rw [Nat.mod_mul] at small
        by_contra odd
        have one : m / 2 ^ places % 2 = 1 := by omega
        rw [one, Nat.mul_one] at small
        omega
      rw [even]
      rfl
  rw [rounded, roundedMantissa_of_low bit, shiftRight_mantissa, ofMantissaAndAccuracy_mantissa]

/-- Nothing is added where nothing is shifted out. -/
theorem rounded_none : rounded m 0 .exact = m := by
  rw [rounded_of_low m 0 (by omega), Nat.pow_zero, Nat.div_one]

end Shifting

/-- Parts with a significand that may be zero. -/
def normal (s : Sign) (m : Nat) (e : Int) : UnpackedFloat :=
  if none : m = 0 then .zero s else .finite s m e (Nat.pos_of_ne_zero none)

/-- The parts of a rounded significand: as it is where it has room, and else half of it with the
next exponent. -/
def roundedParts (s : Sign) (r : Nat) (e : Int) : UnpackedFloat :=
  if r < 2 ^ 53 then normal s r e else normal s (2 ^ 52) (e + 1)

section Rounding

variable (s : Sign) (m : Nat) (e : Int) (accuracy : Accuracy)

/-- What is kept of a significand has room at the exponent that is aimed at. -/
theorem kept_lt : m / 2 ^ (place m e - e).toNat < 2 ^ 53 := by
  rw [Nat.div_lt_iff_lt_mul (Nat.two_pow_pos _), ← Nat.pow_add]
  have wide : m < 2 ^ (m.log2 + 1) := Nat.lt_log2_self
  have room : m.log2 + 1 ≤ 53 + (place m e - e).toNat := by
    unfold place
    omega
  exact Nat.lt_of_lt_of_le wide (Nat.pow_le_pow_right (by decide) room)

/-- A significand that is rounded at the exponent that is aimed at grows by one bit at most. -/
theorem rounded_le : rounded m (place m e - e).toNat accuracy ≤ 2 ^ 53 := by
  have kept := kept_lt m e
  have cases := rounded_cases m (place m e - e).toNat accuracy
  omega

/-- A significand that has room is not shifted again. -/
theorem place_of_lt {r : Nat} {t : Int} (short : r < 2 ^ 53) (least : leastExponent ≤ t) :
    (place r t - t).toNat = 0 := by
  have width : r.log2 ≤ 52 := by
    rcases Nat.eq_zero_or_pos r with rfl | pos
    · decide
    · exact Nat.le_of_lt_succ ((Nat.log2_lt (Nat.ne_of_gt pos)).mpr short)
  unfold place
  omega

/-- A significand that has grown by a bit is shifted by one place. -/
theorem place_of_eq {t : Int} (least : leastExponent ≤ t) : (place (2 ^ 53) t - t).toNat = 1 := by
  unfold place
  rw [Nat.log2_two_pow]
  omega

/-- A significand is shifted with its exponent. -/
theorem shiftToTargetExponent_eq :
    (shiftToTargetExponent .binary64 m e accuracy).1 =
        ExtendedMantissa.ofMantissaAndAccuracy m accuracy >>> (place m e - e).toNat ∧
      (shiftToTargetExponent .binary64 m e accuracy).2 = e + (place m e - e).toNat := by
  unfold shiftToTargetExponent shiftToExponent
  dsimp only
  rw [targetExponent_eq]
  exact ⟨rfl, rfl⟩

/-- A rounded significand is shifted once more if it has grown by a bit. -/
theorem normal_shifted {r : Nat} {t : Int} (bounded : r ≤ 2 ^ 53) (least : leastExponent ≤ t) :
    normal s (shiftToTargetExponent .binary64 r t .exact).1.mantissa
        (shiftToTargetExponent .binary64 r t .exact).2 = roundedParts s r t := by
  obtain ⟨significand, exponent⟩ := shiftToTargetExponent_eq r t .exact
  rw [significand, exponent, shiftRight_mantissa, ofMantissaAndAccuracy_mantissa, roundedParts]
  by_cases short : r < 2 ^ 53
  · rw [place_of_lt short least, if_pos short, Nat.pow_zero, Nat.div_one, Int.natCast_zero,
      Int.add_zero]
  · obtain rfl : r = 2 ^ 53 := by omega
    rw [place_of_eq least, if_neg short]
    rfl

/-- Rounding shifts to the exponent that is aimed at and rounds there. -/
theorem roundWithAccuracy_eq (inPlace : e ≤ place m e) :
    roundWithAccuracy .binary64 s m e accuracy =
      roundedParts s (rounded m (place m e - e).toNat accuracy) (place m e) := by
  have least : leastExponent ≤ place m e := Int.le_max_right _ _
  have there : e + ((place m e - e).toNat : Int) = place m e := by omega
  obtain ⟨significand, exponent⟩ := shiftToTargetExponent_eq m e accuracy
  rw [there] at exponent
  rw [← normal_shifted s (rounded_le m e accuracy) least]
  unfold roundWithAccuracy
  dsimp only
  rw [significand, exponent]
  rfl

/-- What is kept of a significand is full, unless it is kept at the least exponent. -/
theorem rounded_full (pos : 0 < m) (inPlace : e ≤ place m e) :
    2 ^ 52 ≤ rounded m (place m e - e).toNat accuracy ∨ place m e = leastExponent := by
  by_cases least : place m e = leastExponent
  · exact .inr least
  · left
    have there : place m e = m.log2 + e - 52 := by
      unfold place at least ⊢
      omega
    have wide : 2 ^ m.log2 ≤ m := Nat.log2_self_le (Nat.ne_of_gt pos)
    have room : 2 ^ 52 * 2 ^ (place m e - e).toNat = 2 ^ m.log2 := by
      rw [← Nat.pow_add]
      congr 1
      omega
    have kept : 2 ^ 52 ≤ m / 2 ^ (place m e - e).toNat := by
      rw [Nat.le_div_iff_mul_le (Nat.two_pow_pos _), room]
      exact wide
    have cases := rounded_cases m (place m e - e).toNat accuracy
    omega

end Rounding

/-- What a rounded significand and its exponent are put together to. -/
inductive Outcome (s : Sign) (r : Nat) (t : Int) : UnpackedFloat → Prop
  /-- A zero, if nothing is left of the significand. -/
  | zero (none : r = 0) : Outcome s r t (.zero s)
  /-- Finite parts in the one form; unless the significand has grown by a bit, they are as they
  were rounded. -/
  | finite {m : Nat} {e : Int} {pos : 0 < m} (some : r ≠ 0) (canonical : Canonical m e)
    (small : e ≤ greatestExponent) (above : t ≤ e) (kept : r < 2 ^ 53 → m = r ∧ e = t) :
    Outcome s r t (.finite s m e pos)
  /-- An infinity, if the exponent is too great. -/
  | infinite (some : r ≠ 0) (great : greatestExponent ≤ t)
    (kept : r < 2 ^ 53 → greatestExponent < t) : Outcome s r t (.infinity s)

section Outcomes

variable (s : Sign) {m r : Nat} {e t : Int}

/-- A rounded significand is put together to one of three outcomes. -/
theorem outcome_roundedParts (bounded : r ≤ 2 ^ 53) (least : leastExponent ≤ t)
    (full : 2 ^ 52 ≤ r ∨ t = leastExponent) :
    Outcome s r t (parts (ofParts (roundedParts s r t))) := by
  unfold roundedParts normal
  by_cases short : r < 2 ^ 53
  · rw [if_pos short]
    by_cases none : r = 0
    · rw [dif_pos none, parts_ofParts_zero]
      exact .zero none
    · rw [dif_neg none]
      by_cases small : t ≤ greatestExponent
      · rw [parts_ofParts_finite ⟨short, least, full⟩ small]
        exact .finite none ⟨short, least, full⟩ small (Int.le_refl t) fun _ => ⟨rfl, rfl⟩
      · rw [parts_ofParts_overflow _ _ (by omega)]
        exact .infinite none (by omega) fun _ => by omega
  · have canonical : Canonical (2 ^ 52) (t + 1) := ⟨by decide, by omega, .inl (Nat.le_refl _)⟩
    rw [if_neg short, dif_neg (by decide)]
    by_cases small : t + 1 ≤ greatestExponent
    · rw [parts_ofParts_finite canonical small]
      exact .finite (by omega) canonical small (by omega) fun lt => absurd lt short
    · rw [parts_ofParts_overflow _ _ (by omega)]
      exact .infinite (by omega) (by omega) fun lt => absurd lt short

/-- Rounding has one of three outcomes. -/
theorem outcome_roundWithAccuracy (accuracy : Accuracy) (pos : 0 < m) (inPlace : e ≤ place m e) :
    Outcome s (rounded m (place m e - e).toNat accuracy) (place m e)
      (parts (ofParts (roundWithAccuracy .binary64 s m e accuracy))) := by
  rw [roundWithAccuracy_eq s m e accuracy inPlace]
  exact outcome_roundedParts s (rounded_le m e accuracy) (Int.le_max_right _ _)
    (rounded_full m e accuracy pos inPlace)

end Outcomes

section Lowering

variable (s : Sign) {m : Nat} (e : Int)

/-- What is kept of a significand at an exponent that may be below its own. -/
def significandAt (m : Nat) (e t : Int) : Nat :=
  rounded (m * 2 ^ (e - t).toNat) (t - e).toNat .exact

/-- A lower exponent takes a significand without loss. -/
theorem significandAt_of_le {t : Int} (lower : t ≤ e) :
    significandAt m e t = m * 2 ^ (e - t).toNat := by
  have nothing : (t - e).toNat = 0 := by omega
  rw [significandAt, nothing, rounded_none]

/-- A higher exponent takes a significand without rounding it up if less than half is lost. -/
theorem significandAt_of_low {t : Int} (higher : e ≤ t)
    (low : 2 * (m % 2 ^ (t - e).toNat) < 2 ^ (t - e).toNat) :
    significandAt m e t = m / 2 ^ (t - e).toNat := by
  have nothing : (e - t).toNat = 0 := by omega
  rw [significandAt, nothing, Nat.pow_zero, Nat.mul_one, rounded_of_low _ _ low]

/-- A significand is first moved down to the exponent that is aimed at, if it is below its own, and
then rounded. -/
theorem round_eq :
    UnpackedFloat.round .binary64 s m e =
      roundWithAccuracy .binary64 s (m * 2 ^ (e - place m e).toNat)
        (e - (e - place m e).toNat) .exact := by
  unfold UnpackedFloat.round decreaseExponent
  dsimp only
  rw [targetExponent_eq, Nat.shiftLeft_eq]

variable (pos : 0 < m)

include pos

/-- Places that are moved into a significand make it longer. -/
theorem log2_mul_two_pow (places : Nat) : (m * 2 ^ places).log2 = m.log2 + places := by
  induction places with
  | zero => rw [Nat.pow_zero, Nat.mul_one, Nat.add_zero]
  | succ places ih =>
    have given : m * 2 ^ places ≠ 0 := Nat.ne_of_gt (Nat.mul_pos pos (Nat.two_pow_pos places))
    rw [Nat.pow_succ', Nat.mul_left_comm, Nat.log2_two_mul given, ih, Nat.add_assoc]

/-- A significand that is moved to a lower exponent has room where it had room before. -/
theorem place_mul_two_pow (places : Nat) :
    place (m * 2 ^ places) (e - places) = place m e := by
  unfold place
  rw [log2_mul_two_pow pos]
  omega

/-- What is kept of a significand at the exponent that is aimed at is what rounding keeps of it once
it has been moved down. -/
theorem significandAt_place :
    significandAt m e (place m e) =
      rounded (m * 2 ^ (e - place m e).toNat)
        (place (m * 2 ^ (e - place m e).toNat) (e - (e - place m e).toNat) -
          (e - (e - place m e).toNat)).toNat .exact := by
  have places : (place m e - (e - (e - place m e).toNat)).toNat = (place m e - e).toNat := by omega
  rw [place_mul_two_pow e pos, places]
  rfl

/-- After it has been moved down a significand is in place to be rounded. -/
theorem moved_inPlace :
    e - (e - place m e).toNat ≤
      place (m * 2 ^ (e - place m e).toNat) (e - (e - place m e).toNat) := by
  rw [place_mul_two_pow e pos]
  omega

/-- What is kept of a significand is full, unless it is kept at the least exponent. -/
theorem significandAt_full :
    2 ^ 52 ≤ significandAt m e (place m e) ∨ place m e = leastExponent := by
  have longer : 0 < m * 2 ^ (e - place m e).toNat := Nat.mul_pos pos (Nat.two_pow_pos _)
  have full := rounded_full _ _ .exact longer (moved_inPlace e pos)
  rw [← significandAt_place e pos, place_mul_two_pow e pos] at full
  exact full

/-- A significand with any exponent is rounded to one of three outcomes. -/
theorem outcome_round :
    Outcome s (significandAt m e (place m e)) (place m e)
      (parts (ofParts (UnpackedFloat.round .binary64 s m e))) := by
  have longer : 0 < m * 2 ^ (e - place m e).toNat := Nat.mul_pos pos (Nat.two_pow_pos _)
  have outcome := outcome_roundWithAccuracy s .exact longer (moved_inPlace e pos)
  rw [← significandAt_place e pos, place_mul_two_pow e pos, ← round_eq] at outcome
  exact outcome

end Lowering

end BoardSupervisor.Binary64
