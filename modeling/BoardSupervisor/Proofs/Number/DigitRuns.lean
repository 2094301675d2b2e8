import BoardSupervisor.Number.Digits
import BoardSupervisor.Proofs.Number.Grammar
import Mathlib.Algebra.Ring.Nat
import Mathlib.Data.List.Induction

/-!
# Runs of digits

The digits at the front of a text are read as the longest run of them, whatever follows. A number
that is written out is such a run; read again it is the number, and zeros written in front of it
change nothing. A number written with a fixed count of digits shows its last places and nothing of
the higher ones; read again, the digits stand for what is left of the number without these.
-/

namespace BoardSupervisor.Number

/-- A digit is read as the value that it was written for. -/
theorem digit?_digitChar {base d : Nat} (bounded : base ≤ 16) (small : d < base) :
    digit? base (Nat.digitChar d) = some d := by
  have checked : ∀ d : Fin 16, hexDigit? (Nat.digitChar d) = some d.val := by decide
  rw [digit?, checked ⟨d, by omega⟩]
  exact Option.filter_some_pos (decide_eq_true small)

/-- Each of the fixed-width digits is a digit. -/
theorem exists_digitChar_of_mem {c : Char} {width n : Nat} (member : c ∈ lastHexDigits width n) :
    ∃ d : Fin 16, c = Nat.digitChar d := by
  induction width generalizing n with
  | zero => cases member
  | succ width ih =>
    rw [lastHexDigits, List.mem_append, List.mem_singleton] at member
    rcases member with front | rfl
    · exact ih front
    · exact ⟨⟨n % 16, Nat.mod_lt n (by decide)⟩, rfl⟩

/-- The digits of a number in its last places, from the highest of them down. -/
def placeDigits (base width n : Nat) : List Nat :=
  (List.range width).reverse.map fun place => n / base ^ place % base

/-- The digit in the lowest place stands behind the digits of what is left without it. -/
theorem placeDigits_succ (base width n : Nat) :
    placeDigits base (width + 1) n = placeDigits base width (n / base) ++ [n % base] := by
  have shifted (place : Nat) :
      n / base ^ (place + 1) % base = n / base / base ^ place % base := by
    rw [Nat.pow_succ', Nat.div_div_eq_div_mul]
  simp [placeDigits, List.range_succ_eq_map, shifted]

/-- The digits in the last places stand for what is left of the number without the higher places. -/
theorem ofDigits_placeDigits (base width n : Nat) :
    ofDigits base (placeDigits base width n) = n % base ^ width := by
  induction width generalizing n with
  | zero => exact (Nat.mod_one n).symm
  | succ width ih =>
    calc ofDigits base (placeDigits base (width + 1) n)
        = n / base % base ^ width * base + n % base := by rw [placeDigits_succ, ofDigits_concat, ih]
      _ = n % (base * base ^ width) := by rw [Nat.mod_mul, Nat.mul_comm, Nat.add_comm]
      _ = n % base ^ (width + 1) := by rw [Nat.pow_succ, Nat.mul_comm]

/-- Fixed-width digits are those of the last places. -/
theorem digitValues_lastHexDigits (width n : Nat) :
    digitValues 16 (lastHexDigits width n) = placeDigits 16 width n := by
  induction width generalizing n with
  | zero => rfl
  | succ width ih =>
    have last : digit? 16 (Nat.digitChar (n % 16)) = some (n % 16) :=
      digit?_digitChar (Nat.le_refl 16) (Nat.mod_lt n (by decide))
    rw [placeDigits_succ, ← ih]
    simp [digitValues, lastHexDigits, last]

variable {base : Nat}

/-- A text that does not begin with a digit. -/
def EndsDigits (base : Nat) (rest : List Char) : Prop :=
  ∀ c after, rest = c :: after → isDigit base c = false

/-- No digits are read where the text begins with something else. -/
theorem leadingDigits_of_ends {rest : List Char} (ends : EndsDigits base rest) :
    leadingDigits base rest = ([], rest) := by
  cases rest with
  | nil => rfl
  | cons c after => exact leadingDigits_of_not (ends c after rfl) after

/-- Runs of digits are read, and the empty one when there is no other. -/
theorem reads_digits (base : Nat) :
    Reads (AreDigits base) fun text => some (leadingDigits base text).2 := by
  constructor
  · rintro text rest ⟨⟩
    obtain ⟨run, all, text_eq, -⟩ := leadingDigits_sound base text
    exact ⟨run, all, text_eq⟩
  · intro run all rest
    refine ⟨(leadingDigits base rest).2, ?_, length_leadingDigits_le base rest⟩
    rw [leadingDigits_append all]

/-- The digits that are read from a text are those of the longest run in front. -/
theorem leadingDigits_of_longest {text run : List Char}
    (longest : LongestWord (AreDigits base) text run) :
    (leadingDigits base text).1 = digitValues base run := by
  obtain ⟨rest, rfl⟩ := longest.front
  have taken := (reads_digits base).eq_some_iff.mpr ⟨run, longest, rfl⟩
  obtain ⟨digits, -, text_eq, values⟩ := leadingDigits_sound base (run ++ rest)
  rw [Option.some.inj taken] at text_eq
  rw [values, List.append_cancel_right text_eq]

/-- There is always a longest run of digits in front. -/
theorem exists_longest_digits (base : Nat) (text : List Char) :
    ∃ run, LongestWord (AreDigits base) text run := by
  obtain ⟨run, longest, -⟩ := (reads_digits base).eq_some_iff.mp (Eq.refl (some _))
  exact ⟨run, longest⟩

/-- The value of a digit is below the base. -/
theorem lt_of_mem_digitValues {text : List Char} {d : Nat} (member : d ∈ digitValues base text) :
    d < base := by
  obtain ⟨c, -, found⟩ := List.mem_filterMap.mp member
  exact of_decide_eq_true (Option.filter_eq_some_iff.mp found).2

/-- The values of the digits in two texts, one after the other. -/
theorem digitValues_append (base : Nat) (first second : List Char) :
    digitValues base (first ++ second) = digitValues base first ++ digitValues base second :=
  List.filterMap_append

section Zeros

variable (given : 0 < base) (zeros : Nat)

include given

/-- A zero is read as zero. -/
theorem digit?_zero : digit? base '0' = some 0 :=
  Option.filter_some_pos (decide_eq_true given)

/-- Zeros are digits. -/
theorem areDigits_zeros : AreDigits base (List.replicate zeros '0') := by
  intro c member
  rw [List.eq_of_mem_replicate member, isDigit, digit?_zero given, Option.isSome_some]

/-- Zeros in front of digits do not change the number. -/
theorem ofDigits_zeros_append (run : List Char) :
    ofDigits base (digitValues base (List.replicate zeros '0' ++ run)) =
      ofDigits base (digitValues base run) := by
  induction zeros with
  | zero => rfl
  | succ zeros ih =>
    rw [← ih, List.replicate_succ, List.cons_append, digitValues,
      List.filterMap_cons_some (digit?_zero given), ofDigits, List.foldl_cons, Nat.zero_mul]
    rfl

end Zeros

/-- More digits do not make a number less. -/
theorem le_ofDigits_append (given : 0 < base) (digits more : List Nat) :
    ofDigits base digits ≤ ofDigits base (digits ++ more) := by
  induction more using List.reverseRecOn with
  | nil => rw [List.append_nil]
  | append_singleton more d ih =>
    rw [← List.append_assoc, ofDigits_concat]
    calc ofDigits base digits
        ≤ ofDigits base (digits ++ more) := ih
      _ ≤ ofDigits base (digits ++ more) * base := Nat.le_mul_of_pos_right _ given
      _ ≤ ofDigits base (digits ++ more) * base + d := Nat.le_add_right _ _

section Written

variable (several : 1 < base) (bounded : base ≤ 16) (n : Nat)

include several bounded

/-- A number is written in digits, and they stand for it. -/
theorem toDigits_apply :
    AreDigits base (Nat.toDigits base n) ∧
      ofDigits base (digitValues base (Nat.toDigits base n)) = n := by
  have digit {d : Nat} (small : d < base) :
      isDigit base (Nat.digitChar d) = true ∧ digitValues base [Nat.digitChar d] = [d] := by
    simp [isDigit, digitValues, digit?_digitChar bounded small]
  induction n using Nat.strongRecOn with
  | ind n ih =>
    rw [Nat.toDigits_eq_if several]
    split
    · next small =>
      refine ⟨List.forall_mem_singleton.mpr (digit small).1, ?_⟩
      rw [(digit small).2, ofDigits, List.foldl_cons, List.foldl_nil, Nat.zero_mul, Nat.zero_add]
    · next large =>
      have less : n / base < n := Nat.div_lt_self (by omega) several
      have last := digit (Nat.mod_lt n (by omega))
      refine ⟨List.forall_mem_append.mpr ⟨(ih _ less).1, List.forall_mem_singleton.mpr last.1⟩, ?_⟩
      rw [digitValues_append, last.2, ofDigits_concat, (ih _ less).2, Nat.div_add_mod']

end Written

end BoardSupervisor.Number
