import BoardSupervisor.Proofs.Number.Magnitude

/-!
# Whole numbers and what is left of a double without one

A whole number with at most 53 bits is held exactly, so that the whole part of a double is taken off
it without rounding. What is left of a finite double is then below one, and not negative. A double
that is not below one counts for at least one.
-/

namespace BoardSupervisor.Binary64

open Float.Model Float.Model.UnpackedFloat

section WholeNumbers

variable {n : Nat}

/-- Multiplying by one changes nothing. -/
theorem parts_mul_one {x one : Float} {m : Nat} {e : Int} {pos : 0 < m}
    (finite : parts x = .finite .positive m e pos) (long : m.log2 = 52)
    (unit : parts one = .finite .positive (2 ^ 52) (-52) (by decide)) :
    parts (x * one) = .finite .positive m e pos := by
  obtain ⟨⟨short, least, -⟩, small⟩ := canonical_of_parts finite
  have some : 0 < m * 2 ^ 52 := Nat.mul_pos pos (by decide)
  have there : place (m * 2 ^ 52) (e + -52) = e := by
    have moved := place_mul_two_pow e pos 52
    unfold place at moved ⊢
    rw [long] at moved
    omega
  have inPlace : e + -52 ≤ place (m * 2 ^ 52) (e + -52) := by omega
  have outcome := outcome_roundWithAccuracy .positive .exact some inPlace
  have places : (e - (e + -52)).toNat = 52 := by omega
  have kept : rounded (m * 2 ^ 52) 52 .exact = m := by
    rw [rounded_of_low _ _ (by rw [Nat.mul_mod_left]; decide), Nat.mul_div_cancel _ (by decide)]
  rw [there, places, kept] at outcome
  rw [mul_eq, finite, unit]
  exact outcome.eq_finite pos short small

/-- A whole number that is converted is rounded. -/
theorem parts_toFloat (pos : 0 < n) (short : n < 2 ^ 53) :
    parts n.toUInt64.toFloat =
      parts (ofParts (UnpackedFloat.round .binary64 .positive n 0)) := by
  have value : n.toUInt64.toNat = n := by
    rw [UInt64.toNat_ofNat', Nat.mod_eq_of_lt (by omega)]
  have converted : n.toUInt64.toFloat = ofParts (UnpackedFloat.ofUInt64 .binary64 n.toUInt64) := rfl
  rw [converted, UnpackedFloat.ofUInt64, value, UnpackedFloat.ofNat, UnpackedFloat.ofInt,
    normalize_of_pos pos]

/-- The significand of a short whole number is full once it has been moved down. -/
theorem log2_moved (pos : 0 < n) (short : n < 2 ^ 53) :
    (n * 2 ^ (52 - n.log2)).log2 = 52 := by
  have width : n.log2 < 53 := (Nat.log2_lt (Nat.ne_of_gt pos)).mpr short
  rw [log2_mul_two_pow pos]
  omega

/-- A short whole number is held exactly. -/
theorem parts_ofNat (pos : 0 < n) (short : n < 2 ^ 53) :
    parts (Float.ofNat n) =
      .finite .positive (n * 2 ^ (52 - n.log2)) ((n.log2 : Int) - 52)
        (Nat.mul_pos pos (Nat.two_pow_pos _)) := by
  have some : 0 < n * 2 ^ (52 - n.log2) := Nat.mul_pos pos (Nat.two_pow_pos _)
  have long := log2_moved pos short
  have width : n.log2 < 53 := (Nat.log2_lt (Nat.ne_of_gt pos)).mpr short
  have full : n * 2 ^ (52 - n.log2) < 2 ^ 53 := (Nat.log2_lt (Nat.ne_of_gt some)).mp (by omega)
  have there : place n 0 = n.log2 - 52 := by
    unfold place leastExponent
    omega
  have kept : significandAt n 0 (place n 0) = n * 2 ^ (52 - n.log2) := by
    have places : (0 - place n 0).toNat = 52 - n.log2 := by omega
    rw [significandAt_of_le 0 (by omega), places]
  have outcome := outcome_round .positive 0 pos
  rw [there] at kept outcome
  rw [kept] at outcome
  have small : (n.log2 : Int) - 52 ≤ greatestExponent := by
    unfold greatestExponent
    omega
  have converted := outcome.eq_finite some full small
  rw [← parts_toFloat pos short] at converted
  have unfolded : Float.ofNat n = n.toUInt64.toFloat * Float.ofBits 0x3FF0000000000000 :=
    dif_pos ⟨short, by decide⟩
  rw [unfolded]
  exact parts_mul_one converted long rfl

/-- A long whole number is rounded once. -/
theorem ofNat_of_long (long : 2 ^ 53 ≤ n) :
    Float.ofNat n =
      ofParts (roundWithAccuracy .binary64 .positive (n * 2 ^ 53) (-53) .exact) := by
  have unfolded : Float.ofNat n = ofParts (UnpackedFloat.ofScientific .binary64 n 0) :=
    dif_neg fun fast => absurd fast.1 (Nat.not_lt.mpr long)
  have low : ¬ (0 : Int) < -((2 ^ Format.binary64.exponentBits : Int) + n.log2) := by
    change ¬ (0 : Int) < -(2048 + n.log2)
    omega
  rw [unfolded, UnpackedFloat.ofScientific, dif_neg (by omega), if_neg (by decide), if_neg low,
    if_pos (Int.le_refl 0)]
  change ofParts (roundWithAccuracy .binary64 .positive (n <<< 53 * 1) (-53) .exact) = _
  rw [Nat.shiftLeft_eq, Nat.mul_one]

/-- A long whole number is not below one. -/
theorem fromOne_ofNat_of_long (long : 2 ^ 53 ≤ n) : FromOne (parts (Float.ofNat n)) := by
  have pos : 0 < n := Nat.lt_of_lt_of_le (by decide) long
  have width : 53 ≤ n.log2 := (Nat.le_log2 (Nat.ne_of_gt pos)).mpr long
  have some : 0 < n * 2 ^ 53 := Nat.mul_pos pos (by decide)
  have high : 1 ≤ place (n * 2 ^ 53) (-53) := by
    unfold place
    rw [log2_mul_two_pow pos]
    omega
  have inPlace : -53 ≤ place (n * 2 ^ 53) (-53) := by omega
  have full := (rounded_full _ _ .exact some inPlace).resolve_right (by
    unfold leastExponent
    omega)
  rw [ofNat_of_long long]
  exact (outcome_roundWithAccuracy .positive .exact some inPlace).fromOne (by omega) (by omega)

/-- No whole number but zero is below one. -/
theorem fromOne_ofNat (pos : 0 < n) : FromOne (parts (Float.ofNat n)) := by
  by_cases short : n < 2 ^ 53
  · rw [parts_ofNat pos short]
    exact ⟨rfl, by omega⟩
  · exact fromOne_ofNat_of_long (Nat.le_of_not_lt short)

/-- Whole numbers are not negative. -/
theorem isMagnitude_ofNat (n : Nat) : IsMagnitude (parts (Float.ofNat n)) := by
  rcases Nat.eq_zero_or_pos n with rfl | pos
  · exact trivial
  · exact (fromOne_ofNat pos).isMagnitude

end WholeNumbers

section Remainders

variable {x : Float} {m : Nat} {e : Int} {pos : 0 < m}

/-- The difference of two doubles is the difference of their parts, put together. -/
theorem sub_eq (x y : Float) :
    x - y = ofParts (UnpackedFloat.sub .binary64 (parts x) (parts y)) := rfl

/-- Nothing is left of a finite double without itself. -/
theorem parts_sub_self (finite : IsFiniteMagnitude (parts x)) :
    parts (x - x) = .zero .positive := by
  rw [sub_eq]
  obtain ⟨s, zero⟩ | ⟨m, e, pos, finite⟩ := finiteMagnitude_cases finite
  · rw [zero]
    cases s <;> exact parts_ofParts_zero .positive
  · have none : UnpackedFloat.sub .binary64 (.finite .positive m e pos)
        (.finite .positive m e pos) = .zero .positive := by
      unfold UnpackedFloat.sub
      dsimp only [Sign.apply]
      rw [Int.sub_self]
      rfl
    rw [finite, none, parts_ofParts_zero]

/-- What is left of positive finite parts without less of the same exponent is exact. -/
theorem sub_finite {n : Nat} (pos' : 0 < n) (less : n < m) :
    UnpackedFloat.sub .binary64 (.finite .positive m e pos) (.finite .positive n e pos') =
      UnpackedFloat.round .binary64 .positive (m - n) e := by
  have some : 0 < m - n := Nat.sub_pos_of_lt less
  rw [← normalize_of_pos some e .positive]
  unfold UnpackedFloat.sub decreaseExponent
  dsimp only [Sign.apply]
  rw [Int.min_self, Int.sub_self, Int.toNat_zero, Nat.shiftLeft_zero, Nat.shiftLeft_zero,
    Int.natCast_sub (Nat.le_of_lt less)]

/-- The whole part of finite parts: the double itself if its exponent is not negative or nothing
stands behind the point, and else the whole number before it. -/
theorem floor_cases (finite : parts x = .finite .positive m e pos) :
    floor x = x ∨ ∃ places : Nat, e = -places ∧ 0 < m % 2 ^ places ∧
      floor x = Float.ofNat (m / 2 ^ places) := by
  have read : read x = .finite false m e := by
    rw [read_eq, finite]
    rfl
  unfold floor
  rw [read]
  cases e with
  | ofNat e => exact .inl rfl
  | negSucc places =>
    dsimp only
    split
    · exact .inl rfl
    · next some =>
      refine .inr ⟨places + 1, rfl, Nat.pos_of_ne_zero some, ?_⟩
      rw [if_neg Bool.false_ne_true]
      rfl

/-- Zeros, infinities and non-numbers are their own whole parts. -/
theorem floor_of_not_finite (other : ∀ s m e pos, parts x ≠ .finite s m e pos) : floor x = x := by
  unfold floor
  rw [read_eq]
  cases found : parts x with
  | notANumber => rfl
  | infinity s => rfl
  | zero s =>
    have last : leastExponent = .negSucc 1073 := rfl
    rw [readingOf, last]
    dsimp only
    generalize Nat.pow 2 (1073 + 1) = unit
    rw [Nat.zero_mod, if_pos rfl]
  | finite s m e pos => exact absurd found (other s m e pos)

/-- What stands behind the point of positive finite parts is rounded to something below one. -/
theorem belowOne_round_mod {places : Nat} (canonical : Canonical m (-places))
    (some : 0 < m % 2 ^ places) :
    BelowOne (parts (ofParts
      (UnpackedFloat.round .binary64 .positive (m % 2 ^ places) (-places)))) := by
  obtain ⟨short, least, -⟩ := canonical
  have bits : (m % 2 ^ places).log2 < places :=
    (Nat.log2_lt (Nat.ne_of_gt some)).mpr (Nat.mod_lt m (Nat.two_pow_pos places))
  have width : (m % 2 ^ places).log2 < 53 :=
    (Nat.log2_lt (Nat.ne_of_gt some)).mpr (Nat.lt_of_le_of_lt (Nat.mod_le m _) short)
  have low : place (m % 2 ^ places) (-places) < -52 := by
    unfold place leastExponent
    omega
  have lower : place (m % 2 ^ places) (-places) ≤ -places := by
    unfold place
    omega
  have moved : 0 < (m % 2 ^ places) * 2 ^ (-places - place (m % 2 ^ places) (-places)).toNat :=
    Nat.mul_pos some (Nat.two_pow_pos _)
  have room :
      (m % 2 ^ places) * 2 ^ (-places - place (m % 2 ^ places) (-places)).toNat < 2 ^ 53 := by
    rw [← Nat.log2_lt (Nat.ne_of_gt moved), log2_mul_two_pow some]
    unfold place
    omega
  have outcome := outcome_round .positive (-places) some
  rw [significandAt_of_le _ lower] at outcome
  rw [outcome.eq_finite moved room (by unfold greatestExponent; omega)]
  exact ⟨rfl, low⟩

/-- The whole part of positive finite parts is held with their own exponent. -/
theorem parts_ofNat_div {places : Nat} (canonical : Canonical m (-places))
    (whole : 0 < m / 2 ^ places) :
    parts (Float.ofNat (m / 2 ^ places)) =
      .finite .positive (m / 2 ^ places * 2 ^ places) (-places)
        (Nat.mul_pos whole (Nat.two_pow_pos places)) := by
  obtain ⟨short, -, full⟩ := canonical
  have enough : 2 ^ places ≤ m := (Nat.div_pos_iff.mp whole).2
  have few : places < 53 :=
    (Nat.pow_lt_pow_iff_right (by decide)).mp (Nat.lt_of_le_of_lt enough short)
  have long : 2 ^ 52 ≤ m := full.resolve_right (by unfold leastExponent; omega)
  have width : (m / 2 ^ places).log2 = 52 - places := by
    rw [Nat.log2_eq_iff (Nat.ne_of_gt whole), Nat.le_div_iff_mul_le (Nat.two_pow_pos places),
      Nat.div_lt_iff_lt_mul (Nat.two_pow_pos places), ← Nat.pow_add, ← Nat.pow_add]
    have lower : 52 - places + places = 52 := by omega
    have upper : 52 - places + 1 + places = 53 := by omega
    rw [lower, upper]
    exact ⟨long, short⟩
  have back : 52 - (52 - places) = places := by omega
  rw [parts_ofNat whole (Nat.lt_of_le_of_lt (Nat.div_le_self m _) short)]
  refine finite_congr ?_ ?_ _ _
  · rw [width, back]
  · rw [width]
    omega

/-- What is left of a finite double without its whole part is below one and not negative. That is
all of the double if it has no whole part; else the whole part, moved down, has its exponent. -/
theorem belowOne_sub_floor (magnitude : IsFiniteMagnitude (parts x)) :
    BelowOne (parts (x - floor x)) := by
  have nothing (whole : floor x = x) : BelowOne (parts (x - floor x)) := by
    rw [whole, parts_sub_self magnitude]
    exact trivial
  obtain ⟨s, zero⟩ | ⟨m, e, pos, finite⟩ := finiteMagnitude_cases magnitude
  · refine nothing (floor_of_not_finite ?_)
    rw [zero]
    nofun
  · obtain whole | ⟨places, rfl, some, floor_eq⟩ := floor_cases finite
    · exact nothing whole
    · have canonical := (canonical_of_parts finite).1
      obtain ⟨short, least, full⟩ := canonical
      have zero : parts (Float.ofNat 0) = .zero .positive := parts_zero
      rw [sub_eq, finite, floor_eq]
      rcases Nat.eq_zero_or_pos (m / 2 ^ places) with none | whole
      · have less : m < 2 ^ places := (Nat.div_eq_zero_iff_lt (Nat.two_pow_pos places)).mp none
        rw [none, zero]
        change BelowOne (parts (ofParts (.finite .positive m (-places) pos)))
        rw [← finite, ofParts_parts, finite]
        refine ⟨rfl, ?_⟩
        by_contra high
        have long : 2 ^ 52 ≤ m := full.resolve_right (by unfold leastExponent; omega)
        have few : 2 ^ places ≤ 2 ^ 52 := Nat.pow_le_pow_right (by decide) (by omega)
        omega
      · have rest : m - m / 2 ^ places * 2 ^ places = m % 2 ^ places := by
          rw [Nat.mod_eq_sub_div_mul]
        have less : m / 2 ^ places * 2 ^ places < m := by omega
        rw [parts_ofNat_div ⟨short, least, full⟩ whole, sub_finite _ less, rest]
        exact belowOne_round_mod ⟨short, least, full⟩ some

/-- A sum with a non-number is a non-number. -/
theorem parts_add_of_nan {y : Float} (nan : parts y = .notANumber) :
    parts (x + y) = .notANumber := by
  rw [add_eq, nan]
  cases parts x <;> exact parts_ofParts_nan

/-- Nothing sensible is left of a non-number. -/
theorem parts_sub_floor_of_nan (nan : parts x = .notANumber) :
    parts (x - floor x) = .notANumber := by
  rw [floor_of_not_finite (by rw [nan]; nofun), sub_eq, nan]
  exact parts_ofParts_nan

/-- An infinity is its own whole part, and an infinity without an infinity is a non-number. -/
theorem parts_sub_floor_of_infinite (infinite : parts x = .infinity .positive) :
    parts (x - floor x) = .notANumber := by
  rw [floor_of_not_finite (by rw [infinite]; nofun), sub_eq, infinite]
  exact parts_ofParts_nan

end Remainders

section Counting

variable {x : Float}

/-- The whole part of a double that is not below one is not below one. -/
theorem fromOne_floor (above : FromOne (parts x)) : FromOne (parts (floor x)) := by
  obtain infinite | ⟨m, e, pos, finite, high, long⟩ := fromOne_cases above
  · rw [floor_of_not_finite (by rw [infinite]; nofun)]
    exact above
  · obtain whole | ⟨places, rfl, -, floor_eq⟩ := floor_cases finite
    · rw [whole]
      exact above
    · have enough : 2 ^ places ≤ m :=
        (Nat.le_log2 (Nat.ne_of_gt pos)).mp (by omega)
      rw [floor_eq]
      exact fromOne_ofNat (Nat.div_pos enough (Nat.two_pow_pos places))

/-- A double that is not below one counts for at least one. -/
theorem one_le_count (above : FromOne (parts x)) : 1 ≤ count x := by
  unfold count
  rw [read_eq]
  obtain infinite | ⟨m, e, pos, finite, high, long⟩ := fromOne_cases above
  · rw [infinite]
    decide
  · rw [finite]
    cases e with
    | ofNat e => exact Nat.le_min.mpr ⟨by decide, Nat.mul_pos pos (Nat.two_pow_pos e)⟩
    | negSucc places =>
      have enough : 2 ^ (places + 1) ≤ m := (Nat.le_log2 (Nat.ne_of_gt pos)).mp (by omega)
      exact Nat.le_min.mpr ⟨by decide, Nat.div_pos enough (Nat.two_pow_pos _)⟩

/-- The whole part of a non-number counts for nothing. -/
theorem count_floor_of_nan (nan : parts x = .notANumber) : count (floor x) = 0 := by
  rw [floor_of_not_finite (by rw [nan]; nofun), count, read_eq, nan]
  rfl

end Counting

end BoardSupervisor.Binary64
