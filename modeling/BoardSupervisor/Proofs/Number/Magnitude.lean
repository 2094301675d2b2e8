import BoardSupervisor.Proofs.Number.Rounding

/-!
# Doubles that are not negative

Products and sums of doubles that are not negative are not negative. Whether such a double is below
one is told by its exponent alone, and rounding does not take a result below one if no factor, or
not the first summand, was below it. A finite sum stays finite when something below one is added:
either there is far to go, or too little is added to be seen.
-/

namespace BoardSupervisor.Binary64

open Float.Model Float.Model.UnpackedFloat

/-- Parts of a double that is not negative. -/
def IsMagnitude : UnpackedFloat → Prop
  | .notANumber => False
  | .infinity s => s = .positive
  | .zero _ => True
  | .finite s _ _ _ => s = .positive

/-- Parts of a double that is neither negative nor infinite. -/
def IsFiniteMagnitude : UnpackedFloat → Prop
  | .zero _ => True
  | .finite s _ _ _ => s = .positive
  | _ => False

/-- Parts of a double that is not negative and below one. -/
def BelowOne : UnpackedFloat → Prop
  | .zero _ => True
  | .finite s _ e _ => s = .positive ∧ e < -52
  | _ => False

/-- Parts of a double that is not below one. -/
def FromOne : UnpackedFloat → Prop
  | .infinity s => s = .positive
  | .finite s _ e _ => s = .positive ∧ -52 ≤ e
  | _ => False

section Kinds

variable {u : UnpackedFloat}

/-- What is not negative and no infinity is finite. -/
theorem IsMagnitude.isFinite (magnitude : IsMagnitude u)
    (finite : u ≠ .infinity .positive) : IsFiniteMagnitude u := by
  cases u with
  | notANumber => exact magnitude
  | infinity s =>
    obtain rfl : s = .positive := magnitude
    exact finite rfl
  | zero s => exact trivial
  | finite s m e pos => exact magnitude

/-- The finite doubles that are not negative are among those that are not negative. -/
theorem IsFiniteMagnitude.isMagnitude (magnitude : IsFiniteMagnitude u) : IsMagnitude u := by
  cases u with
  | notANumber => exact magnitude
  | infinity s => exact magnitude.elim
  | zero s => exact trivial
  | finite s m e pos => exact magnitude

/-- What is below one and not negative is finite. -/
theorem BelowOne.isFinite (below : BelowOne u) : IsFiniteMagnitude u := by
  cases u with
  | notANumber => exact below
  | infinity s => exact below
  | zero s => exact trivial
  | finite s m e pos => exact below.1

/-- What is not below one is not negative. -/
theorem FromOne.isMagnitude (above : FromOne u) : IsMagnitude u := by
  cases u with
  | notANumber => exact above
  | infinity s => exact above
  | zero s => exact trivial
  | finite s m e pos => exact above.1

end Kinds

section Order

variable (x : Float)

/-- The order of doubles is that of their parts. -/
theorem le_iff_parts (x y : Float) :
    x ≤ y ↔ ((parts x).compare (parts y)).any Ordering.isLE = true := by
  change decide (x.toModel ≤ y.toModel) = true ↔ _
  exact decide_eq_true_iff

/-- The strict order of doubles is that of their parts. -/
theorem lt_iff_parts (x y : Float) : x < y ↔ ((parts x).compare (parts y) == some .lt) = true := by
  change decide (x.toModel < y.toModel) = true ↔ _
  exact decide_eq_true_iff

/-- The parts of zero. -/
theorem parts_zero : parts 0 = .zero .positive := by
  rfl

/-- The parts of one. -/
theorem parts_one : parts 1 = .finite .positive (2 ^ 52) (-52) (by decide) := by
  rfl

/-- A double is not negative as its parts say. -/
theorem zero_le_iff : 0 ≤ x ↔ IsMagnitude (parts x) := by
  rw [le_iff_parts, parts_zero]
  cases parts x with
  | notANumber => simp [UnpackedFloat.compare, IsMagnitude]
  | infinity s => cases s <;> simp [UnpackedFloat.compare, IsMagnitude]
  | zero s => simp [UnpackedFloat.compare, IsMagnitude]
  | finite s m e pos => cases s <;> simp [UnpackedFloat.compare, IsMagnitude]

/-- The exponent tells how parts in the one form compare with those of one. -/
theorem compare_one {m : Nat} {e : Int} (canonical : Canonical m e) :
    ((compare e (-52)).then (compare m (2 ^ 52)) = .lt ↔ e < -52) ∧
      (((compare (-52) e).then (compare (2 ^ 52) m)).isLE = true ↔ -52 ≤ e) := by
  obtain ⟨-, -, full⟩ := canonical
  unfold leastExponent at full
  rcases Int.lt_trichotomy e (-52) with below | rfl | above
  · rw [compare_lt_iff_lt.mpr below, compare_gt_iff_gt.mpr below]
    simp [below]
  · have long : 2 ^ 52 ≤ m := full.resolve_right (by decide)
    have same : compare (-52 : Int) (-52) = .eq := rfl
    rw [same, Ordering.then, Ordering.then]
    refine ⟨iff_of_false ?_ (Int.lt_irrefl _), iff_of_true ?_ (Int.le_refl _)⟩
    · rw [compare_lt_iff_lt]
      omega
    · rw [Ordering.isLE_iff_ne_gt]
      intro great
      rw [compare_gt_iff_gt] at great
      omega
  · rw [compare_gt_iff_gt.mpr above, compare_lt_iff_lt.mpr above]
    simp [Int.le_of_lt above]

/-- A double is below one, and not negative, as its parts say. -/
theorem belowOne_iff : BelowOne (parts x) ↔ 0 ≤ x ∧ x < 1 := by
  rw [zero_le_iff, lt_iff_parts, parts_one]
  cases found : parts x with
  | notANumber => simp [IsMagnitude, BelowOne]
  | infinity s => cases s <;> simp [UnpackedFloat.compare, IsMagnitude, BelowOne]
  | zero s => simp [UnpackedFloat.compare, IsMagnitude, BelowOne]
  | finite s m e pos =>
    cases s with
    | negative => simp [IsMagnitude, BelowOne]
    | positive =>
      have order := (compare_one (canonical_of_parts found).1).1
      simpa [UnpackedFloat.compare, IsMagnitude, BelowOne] using order.symm

/-- A double is not below one as its parts say. -/
theorem fromOne_iff : FromOne (parts x) ↔ 1 ≤ x := by
  rw [le_iff_parts, parts_one]
  cases found : parts x with
  | notANumber => simp [UnpackedFloat.compare, FromOne]
  | infinity s => cases s <;> simp [UnpackedFloat.compare, FromOne]
  | zero s => simp [UnpackedFloat.compare, FromOne]
  | finite s m e pos =>
    cases s with
    | negative => simp [UnpackedFloat.compare, FromOne]
    | positive =>
      have order := (compare_one (canonical_of_parts found).1).2
      simpa [UnpackedFloat.compare, FromOne] using order.symm

/-- A double is no number as its parts say. -/
theorem isNaN_iff : x.isNaN = true ↔ parts x = .notANumber := by
  change (parts x).isNaN = true ↔ _
  cases parts x <;> simp [UnpackedFloat.isNaN]

/-- A double is finite and above zero as its parts say. -/
theorem finite_positive_iff :
    x.isFinite = true ∧ ¬ x ≤ 0 ↔ ∃ m e pos, parts x = .finite .positive m e pos := by
  rw [le_iff_parts, parts_zero]
  change (parts x).isFinite = true ∧ _ ↔ _
  cases parts x with
  | notANumber => simp [UnpackedFloat.isFinite]
  | infinity s => simp [UnpackedFloat.isFinite]
  | zero s => simp [UnpackedFloat.compare]
  | finite s m e pos => cases s <;> simp [UnpackedFloat.compare, UnpackedFloat.isFinite, pos]

end Order

section Outcomes

variable {u : UnpackedFloat} {r m : Nat} {t e : Int}

/-- A rounded significand that is not zero gives nothing below one from the exponent of one on. -/
theorem Outcome.fromOne (outcome : Outcome .positive r t u) (some : r ≠ 0) (high : -52 ≤ t) :
    FromOne u := by
  cases outcome with
  | zero none => exact absurd none some
  | finite _ _ _ above _ => exact ⟨rfl, Int.le_trans high above⟩
  | infinite => exact rfl

/-- A rounded significand stays finite below the greatest exponent, or at it if it has not grown by
a bit. -/
theorem Outcome.isFinite (outcome : Outcome .positive r t u)
    (room : t < greatestExponent ∨ t ≤ greatestExponent ∧ r < 2 ^ 53) : IsFiniteMagnitude u := by
  cases outcome with
  | zero => exact trivial
  | finite => exact rfl
  | infinite _ great kept =>
    rcases room with low | ⟨low, short⟩
    · omega
    · have := kept short
      omega

/-- A significand that does not grow by a bit is put together as it is. -/
theorem Outcome.eq_finite (outcome : Outcome .positive r t u) (pos : 0 < r) (short : r < 2 ^ 53)
    (small : t ≤ greatestExponent) : u = .finite .positive r t pos := by
  cases outcome with
  | zero none => omega
  | finite _ _ _ _ kept =>
    obtain ⟨significand, exponent⟩ := kept short
    exact finite_congr significand exponent _ pos
  | infinite _ _ kept =>
    have := kept short
    omega

end Outcomes

/-- Rounding something that is not negative gives nothing negative. -/
theorem isMagnitude_roundWithAccuracy (m : Nat) (e : Int) (accuracy : Accuracy) :
    IsMagnitude (roundWithAccuracy .binary64 .positive m e accuracy) := by
  unfold roundWithAccuracy
  dsimp only
  split
  · exact trivial
  · exact rfl

/-- What is put together from parts that are not negative is not negative. -/
theorem isMagnitude_parts_ofParts {u : UnpackedFloat} (magnitude : IsMagnitude u) :
    IsMagnitude (parts (ofParts u)) := by
  cases u with
  | notANumber => exact magnitude.elim
  | infinity s =>
    rw [parts_ofParts_infinity]
    exact magnitude
  | zero s =>
    rw [parts_ofParts_zero]
    exact trivial
  | finite s m e pos =>
    obtain rfl : s = .positive := magnitude
    have components (scale : BitVec 11) (fraction : BitVec 52) (room : scale ≠ -1#11) :
        IsMagnitude
          (UnpackedFloat.unpack .binary64
            (packComponents .binary64 .positive scale fraction)) := by
      rw [unpack_packComponents, if_neg room]
      split
      · split
        · exact trivial
        · exact rfl
      · exact rfl
    rw [parts_ofParts, pack_finite]
    split
    · change IsMagnitude (parts (ofParts (.infinity .positive)))
      rw [parts_ofParts_infinity]
      exact rfl
    · next small =>
      split
      · refine components _ _ (ofNat_ne (by omega) ?_)
        change (e + 1075).toNat ≠ 2047
        omega
      · exact components _ _ (by decide)

/-- An infinity is not below one. -/
theorem fromOne_ofParts_infinity : FromOne (parts (ofParts (.infinity .positive))) := by
  rw [parts_ofParts_infinity]
  exact rfl

section Cases

variable {x : Float}

/-- A double that is not negative is a zero, an infinity, or has positive finite parts. -/
theorem magnitude_cases (magnitude : IsMagnitude (parts x)) :
    (∃ s, parts x = .zero s) ∨ parts x = .infinity .positive ∨
      ∃ m e pos, parts x = .finite .positive m e pos := by
  cases found : parts x with
  | notANumber =>
    rw [found] at magnitude
    exact magnitude.elim
  | infinity s =>
    rw [found] at magnitude
    obtain rfl : s = .positive := magnitude
    exact .inr (.inl rfl)
  | zero s => exact .inl ⟨s, rfl⟩
  | finite s m e pos =>
    rw [found] at magnitude
    obtain rfl : s = .positive := magnitude
    exact .inr (.inr ⟨m, e, pos, rfl⟩)

/-- A finite double that is not negative is a zero or has positive finite parts. -/
theorem finiteMagnitude_cases (magnitude : IsFiniteMagnitude (parts x)) :
    (∃ s, parts x = .zero s) ∨ ∃ m e pos, parts x = .finite .positive m e pos := by
  cases found : parts x with
  | notANumber =>
    rw [found] at magnitude
    exact magnitude.elim
  | infinity s =>
    rw [found] at magnitude
    exact magnitude.elim
  | zero s => exact .inl ⟨s, rfl⟩
  | finite s m e pos =>
    rw [found] at magnitude
    obtain rfl : s = .positive := magnitude
    exact .inr ⟨m, e, pos, rfl⟩

/-- A double below one that is not negative is a zero or has a low exponent. -/
theorem belowOne_cases (below : BelowOne (parts x)) :
    (∃ s, parts x = .zero s) ∨ ∃ m e pos, parts x = .finite .positive m e pos ∧ e < -52 := by
  cases found : parts x with
  | notANumber =>
    rw [found] at below
    exact below.elim
  | infinity s =>
    rw [found] at below
    exact below.elim
  | zero s => exact .inl ⟨s, rfl⟩
  | finite s m e pos =>
    rw [found] at below
    obtain ⟨rfl, low⟩ := below
    exact .inr ⟨m, e, pos, rfl, low⟩

/-- A double that is not below one is an infinity or has a full significand and no low exponent. -/
theorem fromOne_cases (above : FromOne (parts x)) :
    parts x = .infinity .positive ∨
      ∃ m e pos, parts x = .finite .positive m e pos ∧ -52 ≤ e ∧ m.log2 = 52 := by
  cases found : parts x with
  | notANumber =>
    rw [found] at above
    exact above.elim
  | infinity s =>
    rw [found] at above
    obtain rfl : s = .positive := above
    exact .inl rfl
  | zero s =>
    rw [found] at above
    exact above.elim
  | finite s m e pos =>
    rw [found] at above
    obtain ⟨rfl, high⟩ := above
    obtain ⟨⟨short, -, full⟩, -⟩ := canonical_of_parts found
    have long : 2 ^ 52 ≤ m := full.resolve_right (by unfold leastExponent; omega)
    exact .inr ⟨m, e, pos, rfl, high, (Nat.log2_eq_iff (Nat.ne_of_gt pos)).mpr ⟨long, short⟩⟩

/-- A double that is not negative is infinite as its parts say. -/
theorem isInf_iff_of_magnitude (magnitude : IsMagnitude (parts x)) :
    x.isInf = true ↔ parts x = .infinity .positive := by
  change (parts x).isInf = true ↔ _
  obtain ⟨s, zero⟩ | infinite | ⟨n, f, pos, finite⟩ := magnitude_cases magnitude
  · rw [zero]
    simp [UnpackedFloat.isInf]
  · rw [infinite]
    simp [UnpackedFloat.isInf]
  · rw [finite]
    simp [UnpackedFloat.isInf]

/-- A finite double that is not below one is above zero. -/
theorem positive_of_fromOne (above : FromOne (parts x)) (finite : x.isFinite = true) :
    ¬ x ≤ 0 := by
  refine ((finite_positive_iff x).mpr ?_).2
  obtain infinite | ⟨m, e, pos, found, -, -⟩ := fromOne_cases above
  · change (parts x).isFinite = true at finite
    rw [infinite] at finite
    cases finite
  · exact ⟨m, e, pos, found⟩

end Cases

section Products

variable {x y : Float}

/-- The product of two doubles is the product of their parts, put together. -/
theorem mul_eq (x y : Float) :
    x * y = ofParts (UnpackedFloat.mul .binary64 (parts x) (parts y)) := rfl

/-- A product is not negative if one factor is above zero and finite and the other not negative. -/
theorem isMagnitude_mul {m : Nat} {e : Int} {pos : 0 < m}
    (finite : parts x = .finite .positive m e pos) (magnitude : IsMagnitude (parts y)) :
    IsMagnitude (parts (x * y)) := by
  rw [mul_eq, finite]
  refine isMagnitude_parts_ofParts ?_
  obtain ⟨s, zero⟩ | infinite | ⟨n, f, pos', finite'⟩ := magnitude_cases magnitude
  · rw [zero]
    exact trivial
  · rw [infinite]
    exact rfl
  · rw [finite']
    exact isMagnitude_roundWithAccuracy _ _ _

/-- A product of significands has at least the bits of both beyond the leading ones. -/
theorem log2_add_le {m n : Nat} (pos : 0 < m) (pos' : 0 < n) :
    m.log2 + n.log2 ≤ (m * n).log2 := by
  rw [Nat.le_log2 (Nat.ne_of_gt (Nat.mul_pos pos pos')), Nat.pow_add]
  exact Nat.mul_le_mul (Nat.log2_self_le (Nat.ne_of_gt pos)) (Nat.log2_self_le (Nat.ne_of_gt pos'))

/-- Neither factor being below one, the product is not below one. -/
theorem fromOne_mul (first : FromOne (parts x)) (second : FromOne (parts y)) :
    FromOne (parts (x * y)) := by
  have infinity := fromOne_ofParts_infinity
  rw [mul_eq]
  obtain infinite | ⟨m, e, pos, finite, high, long⟩ := fromOne_cases first
  · obtain infinite' | ⟨n, f, pos', finite', -⟩ := fromOne_cases second
    · rw [infinite, infinite']
      exact infinity
    · rw [infinite, finite']
      exact infinity
  · obtain infinite' | ⟨n, f, pos', finite', high', long'⟩ := fromOne_cases second
    · rw [finite, infinite']
      exact infinity
    · rw [finite, finite']
      have bits := log2_add_le pos pos'
      have product : 0 < m * n := Nat.mul_pos pos pos'
      have inPlace : e + f ≤ place (m * n) (e + f) := by
        unfold place
        omega
      have high : -52 ≤ place (m * n) (e + f) := by
        unfold place
        omega
      have full := (rounded_full _ _ .exact product inPlace).resolve_right (by
        unfold leastExponent
        omega)
      exact (outcome_roundWithAccuracy .positive .exact product inPlace).fromOne (by omega) high

end Products

section Quotients

variable {x y : Float}

/-- The quotient of two doubles is the quotient of their parts, put together. -/
theorem div_eq (x y : Float) :
    x / y = ofParts (UnpackedFloat.div .binary64 (parts x) (parts y)) := rfl

/-- A quotient is not negative if the divisor is above zero and finite and the dividend not
negative. -/
theorem isMagnitude_div {n : Nat} {f : Int} {pos : 0 < n} (magnitude : IsMagnitude (parts x))
    (finite : parts y = .finite .positive n f pos) : IsMagnitude (parts (x / y)) := by
  rw [div_eq, finite]
  refine isMagnitude_parts_ofParts ?_
  obtain ⟨s, zero⟩ | infinite | ⟨m, e, pos', finite'⟩ := magnitude_cases magnitude
  · rw [zero]
    exact trivial
  · rw [infinite]
    exact rfl
  · rw [finite']
    exact isMagnitude_roundWithAccuracy _ _ _

end Quotients

section Sums

variable {x y : Float}

/-- The sum of two doubles is the sum of their parts, put together. -/
theorem add_eq (x y : Float) :
    x + y = ofParts (UnpackedFloat.add .binary64 (parts x) (parts y)) := rfl

/-- A double is put together from its parts. -/
@[simp] theorem ofParts_parts (x : Float) : ofParts (parts x) = x :=
  Float.toBits_inj.mp (UInt64.toBitVec_inj.mp (pack_unpack_of_valid x.toModel.valid))

/-- The significand of a sum at the lower of two exponents. -/
def sumSignificand (m : Nat) (e : Int) (n : Nat) (f : Int) : Nat :=
  m * 2 ^ (e - min e f).toNat + n * 2 ^ (f - min e f).toNat

/-- A positive exact result is rounded. -/
theorem normalize_of_pos {k : Nat} (pos : 0 < k) (e : Int) (s : Sign) :
    UnpackedFloat.normalize .binary64 k e s = UnpackedFloat.round .binary64 .positive k e := by
  have sign : compare (k : Int) 0 = .gt := compare_gt_iff_gt.mpr (Int.natCast_pos.mpr pos)
  unfold UnpackedFloat.normalize
  rw [sign]
  rfl

/-- The sum of positive finite parts is their exact sum, rounded. -/
theorem add_finite {m n : Nat} {e f : Int} (pos : 0 < m) (pos' : 0 < n) :
    UnpackedFloat.add .binary64 (.finite .positive m e pos) (.finite .positive n f pos') =
      UnpackedFloat.round .binary64 .positive (sumSignificand m e n f) (min e f) := by
  have some : 0 < sumSignificand m e n f :=
    Nat.add_pos_left (Nat.mul_pos pos (Nat.two_pow_pos _)) _
  rw [← normalize_of_pos some _ .positive]
  unfold UnpackedFloat.add decreaseExponent sumSignificand
  dsimp only [Sign.apply]
  rw [Nat.shiftLeft_eq, Nat.shiftLeft_eq, Int.natCast_add]

/-- A sum of parts that are not negative is not negative. -/
theorem isMagnitude_addParts : ∀ {u v : UnpackedFloat}, IsMagnitude u → IsMagnitude v →
    IsMagnitude (UnpackedFloat.add .binary64 u v)
  | .zero s, .zero s', _, _ => by cases s <;> cases s' <;> exact trivial
  | .zero _, .infinity _, _, second => second
  | .zero _, .finite .., _, second => second
  | .infinity _, .zero _, first, _ => first
  | .infinity _, .infinity _, rfl, rfl => rfl
  | .infinity _, .finite .., first, _ => first
  | .finite .., .zero _, first, _ => first
  | .finite .., .infinity _, _, second => second
  | .finite _ m e pos, .finite _ n f pos', rfl, rfl => by
    rw [add_finite, round_eq]
    exact isMagnitude_roundWithAccuracy _ _ _

/-- A sum is not negative if its summands are not. -/
theorem isMagnitude_add (first : IsMagnitude (parts x)) (second : IsMagnitude (parts y)) :
    IsMagnitude (parts (x + y)) := by
  rw [add_eq]
  exact isMagnitude_parts_ofParts (isMagnitude_addParts first second)

section Significands

variable {m n : Nat} {e f : Int} (pos : 0 < m)

include pos

/-- A sum is longer than its first summand. -/
theorem log2_le_sumSignificand : m.log2 + (e - min e f) ≤ (sumSignificand m e n f).log2 := by
  have longer : m.log2 + (e - min e f).toNat ≤ (sumSignificand m e n f).log2 := by
    have some : 0 < m * 2 ^ (e - min e f).toNat := Nat.mul_pos pos (Nat.two_pow_pos _)
    rw [← log2_mul_two_pow pos, Nat.le_log2 (by unfold sumSignificand; omega)]
    refine Nat.le_trans (Nat.log2_self_le (Nat.ne_of_gt some)) ?_
    exact Nat.le_add_right _ _
  omega

/-- A sum of short significands whose exponents are not positive stays far from the greatest
exponent. -/
theorem place_sumSignificand_le (short : m < 2 ^ 53) (short' : n < 2 ^ 53) (low : e ≤ 0)
    (low' : f ≤ 0) : place (sumSignificand m e n f) (min e f) ≤ 1 := by
  have some : 0 < sumSignificand m e n f :=
    Nat.add_pos_left (Nat.mul_pos pos (Nat.two_pow_pos _)) _
  have summand (k : Nat) (g : Int) (shortK : k < 2 ^ 53) (lowG : g ≤ 0) :
      k * 2 ^ (g - min e f).toNat < 2 ^ 53 * 2 ^ (-min e f).toNat :=
    Nat.mul_lt_mul_of_lt_of_le shortK (Nat.pow_le_pow_right (by decide) (by omega))
      (Nat.two_pow_pos _)
  have bounded : sumSignificand m e n f < 2 ^ (54 + (-min e f).toNat) := by
    have first := summand m e short low
    have second := summand n f short' low'
    rw [Nat.pow_add]
    unfold sumSignificand
    omega
  have width := (Nat.log2_lt (Nat.ne_of_gt some)).mpr bounded
  unfold place leastExponent
  omega

/-- What is added below one to a full significand with a positive exponent is too little to be
seen. -/
theorem sumSignificand_of_high (long : m.log2 = 52) (high : 0 < e) (short' : n < 2 ^ 53)
    (low' : f < -52) :
    place (sumSignificand m e n f) (min e f) = e ∧
      significandAt (sumSignificand m e n f) (min e f) e = m := by
  obtain ⟨places, places_eq⟩ : ∃ places : Nat, e - f = places := ⟨(e - f).toNat, by omega⟩
  have lower : min e f = f := by omega
  have sum : sumSignificand m e n f = m * 2 ^ places + n := by
    unfold sumSignificand
    rw [lower, places_eq, Int.toNat_natCast, Int.sub_self, Int.toNat_zero, Nat.pow_zero,
      Nat.mul_one]
  have little : 2 * n < 2 ^ places := by
    have far : 2 ^ 54 ≤ 2 ^ places := Nat.pow_le_pow_right (by decide) (by omega)
    omega
  have width : (m * 2 ^ places + n).log2 = 52 + places := by
    obtain ⟨least, greatest⟩ := (Nat.log2_eq_iff (Nat.ne_of_gt pos)).mp long
    have some : m * 2 ^ places + n ≠ 0 :=
      Nat.ne_of_gt (Nat.add_pos_left (Nat.mul_pos pos (Nat.two_pow_pos _)) _)
    rw [Nat.log2_eq_iff some, Nat.add_right_comm, Nat.pow_add, Nat.pow_add]
    constructor
    · exact Nat.le_trans (Nat.mul_le_mul_right _ least) (Nat.le_add_right _ _)
    · calc m * 2 ^ places + n
          < m * 2 ^ places + 2 ^ places := by omega
        _ = (m + 1) * 2 ^ places := (Nat.succ_mul _ _).symm
        _ ≤ 2 ^ (52 + 1) * 2 ^ places := Nat.mul_le_mul_right _ greatest
  have there : place (m * 2 ^ places + n) f = e := by
    unfold place leastExponent
    rw [width]
    omega
  rw [sum, lower]
  refine ⟨there, ?_⟩
  have shifted : (e - f).toNat = places := by omega
  have rest : (m * 2 ^ places + n) % 2 ^ places = n := by
    rw [Nat.mul_comm, Nat.mul_add_mod, Nat.mod_eq_of_lt (by omega)]
  have kept : (m * 2 ^ places + n) / 2 ^ places = m := by
    rw [Nat.mul_comm, Nat.mul_add_div (Nat.two_pow_pos _), Nat.div_eq_of_lt (by omega),
      Nat.add_zero]
  rw [significandAt_of_low f (by omega) (by rw [shifted, rest]; exact little), shifted, kept]

end Significands

/-- Whatever is not negative, an infinity with it added stays infinite. -/
theorem parts_infinity_add (infinite : parts x = .infinity .positive)
    (second : IsMagnitude (parts y)) : parts (x + y) = .infinity .positive := by
  have infinity := parts_ofParts_infinity .positive
  rw [add_eq, infinite]
  obtain ⟨s, zero⟩ | infinite' | ⟨n, f, pos, finite⟩ := magnitude_cases second
  · rw [zero]
    exact infinity
  · rw [infinite']
    exact infinity
  · rw [finite]
    exact infinity

/-- Adding a zero to positive finite parts changes nothing. -/
theorem add_of_zero {s : Sign} {m : Nat} {e : Int} {pos : 0 < m}
    (finite : parts x = .finite .positive m e pos) (zero : parts y = .zero s) : x + y = x := by
  rw [add_eq, finite, zero]
  change ofParts (.finite .positive m e pos) = x
  rw [← finite, ofParts_parts]

/-- Adding positive finite parts to a zero gives the same parts. -/
theorem add_to_zero {s : Sign} {n : Nat} {f : Int} {pos : 0 < n} (zero : parts x = .zero s)
    (finite : parts y = .finite .positive n f pos) : x + y = y := by
  rw [add_eq, zero, finite]
  change ofParts (.finite .positive n f pos) = y
  rw [← finite, ofParts_parts]

/-- A first summand that is not below one keeps a sum from being below one. -/
theorem fromOne_add (first : FromOne (parts x)) (second : IsMagnitude (parts y)) :
    FromOne (parts (x + y)) := by
  obtain infinite | ⟨m, e, pos, finite, high, long⟩ := fromOne_cases first
  · rw [parts_infinity_add infinite second]
    exact rfl
  · obtain ⟨s, zero⟩ | infinite' | ⟨n, f, pos', finite'⟩ := magnitude_cases second
    · rw [add_of_zero finite zero]
      exact first
    · rw [add_eq, finite, infinite']
      exact fromOne_ofParts_infinity
    · rw [add_eq, finite, finite', add_finite]
      have some : 0 < sumSignificand m e n f :=
        Nat.add_pos_left (Nat.mul_pos pos (Nat.two_pow_pos _)) _
      have longer : _ ≤ ((sumSignificand m e n f).log2 : Int) :=
        log2_le_sumSignificand pos
      have above : -52 ≤ place (sumSignificand m e n f) (min e f) := by
        unfold place
        omega
      have full := (significandAt_full (min e f) some).resolve_right (by
        unfold leastExponent
        omega)
      exact (outcome_round .positive (min e f) some).fromOne (by omega) above

/-- A finite sum stays finite when something below one is added. -/
theorem isFiniteMagnitude_add (first : IsFiniteMagnitude (parts x))
    (second : BelowOne (parts y)) : IsFiniteMagnitude (parts (x + y)) := by
  obtain ⟨s, zero⟩ | ⟨m, e, pos, finite⟩ := finiteMagnitude_cases first
  · obtain ⟨s', zero'⟩ | ⟨n, f, pos', finite', -⟩ := belowOne_cases second
    · rw [add_eq, zero, zero']
      cases s <;> cases s' <;> exact trivial
    · rw [add_to_zero zero finite']
      exact second.isFinite
  · obtain ⟨s', zero'⟩ | ⟨n, f, pos', finite', low'⟩ := belowOne_cases second
    · rw [add_of_zero finite zero']
      exact first
    · obtain ⟨⟨short, -, full⟩, small⟩ := canonical_of_parts finite
      obtain ⟨⟨short', -, -⟩, -⟩ := canonical_of_parts finite'
      have some : 0 < sumSignificand m e n f :=
        Nat.add_pos_left (Nat.mul_pos pos (Nat.two_pow_pos _)) _
      have outcome := outcome_round .positive (min e f) some
      rw [add_eq, finite, finite', add_finite]
      by_cases high : 0 < e
      · have long : 2 ^ 52 ≤ m := full.resolve_right (by unfold leastExponent; omega)
        have width : m.log2 = 52 := (Nat.log2_eq_iff (Nat.ne_of_gt pos)).mpr ⟨long, short⟩
        obtain ⟨there, kept⟩ := sumSignificand_of_high pos width high short' low'
        rw [there, kept] at outcome
        exact outcome.isFinite (.inr ⟨small, short⟩)
      · have low : e ≤ 0 := Int.not_lt.mp high
        have near := place_sumSignificand_le pos short short' low (by omega : f ≤ 0)
        refine outcome.isFinite (.inl ?_)
        unfold greatestExponent
        omega

end Sums

end BoardSupervisor.Binary64
