import BoardSupervisor.Proofs.Clock.CycleCount
import BoardSupervisor.Proofs.Number.WholePart

/-!
# The part of a cycle that is left over

What the clock has not counted yet is a part of a cycle: a number below one that is not negative. It
stays one when time passes, with every rounding, as long as the cycles of that time are finite. A
finite frequency alone does not see to that. Where its product with the time is infinite, an
infinity is taken off an infinity: what is left over is no number, and whatever time passes from
then on counts for nothing until the clock is set again. So the parts of cycles are kept in a run
exactly as long as no such time passes, and it is by them that a running clock of at least one hertz
counts something in a second.
-/

namespace BoardSupervisor

open Binary64

namespace Duration

variable {time : Duration}

/-- The nanoseconds of an elapsed time, taken as seconds, are not negative. -/
theorem isMagnitude_nanoseconds (time : Duration) :
    IsMagnitude (parts (Float.ofNat time.nanoseconds / 1e9)) := by
  have billion : parts 1e9 = .finite .positive 8388608000000000 (-23) (by decide) := rfl
  exact isMagnitude_div (isMagnitude_ofNat time.nanoseconds) billion

/-- An elapsed time is not negative. -/
theorem isMagnitude_inSeconds (time : Duration) : IsMagnitude (parts time.inSeconds) :=
  isMagnitude_add (isMagnitude_ofNat time.seconds) time.isMagnitude_nanoseconds

/-- An elapsed time with a whole second in it is not below one second. -/
theorem fromOne_inSeconds (long : 1 ≤ time.seconds) : FromOne (parts time.inSeconds) :=
  fromOne_add (fromOne_ofNat long) time.isMagnitude_nanoseconds

end Duration

namespace Clock

/-- What is left over is a part of a cycle: a number, not negative and below one. -/
def KeepsPart (clock : Clock) : Prop :=
  clock.remainder.isNaN = false ∧ 0 ≤ clock.remainder ∧ clock.remainder < 1

/-- What is left over is no number. -/
def LostPart (clock : Clock) : Prop := clock.remainder.isNaN = true

/-- The clock counts, and the cycles of an elapsed time are more than a double holds. -/
def Overflows (clock : Clock) (elapsed : Duration) : Prop :=
  clock.counts = true ∧ (clock.hz * elapsed.inSeconds).isInf = true

variable {clock : Clock} {elapsed : Duration}

/-- What is left over is no number as its parts say. -/
theorem lostPart_iff : clock.LostPart ↔ parts clock.remainder = .notANumber :=
  isNaN_iff clock.remainder

/-- What is left over is a part of a cycle as its parts say. -/
theorem keepsPart_iff : clock.KeepsPart ↔ BelowOne (parts clock.remainder) := by
  unfold KeepsPart
  rw [← belowOne_iff, and_iff_right_iff_imp]
  intro below
  rw [Bool.eq_false_iff, ne_eq, isNaN_iff]
  intro nan
  rw [nan] at below
  exact below

/-- Nothing is left over when the clock has just been set, which is a part of a cycle. -/
theorem keepsPart_of_zero (zero : clock.remainder = 0) : clock.KeepsPart := by
  rw [keepsPart_iff, zero, parts_zero]
  exact trivial

/-- The frequency of a clock that counts is finite and above zero. -/
theorem finite_of_counts (counting : clock.counts = true) :
    ∃ m e pos, parts clock.hz = .finite .positive m e pos := by
  unfold counts at counting
  rw [Bool.and_eq_true, Bool.and_eq_true, Bool.not_eq_true', decide_eq_false_iff_not] at counting
  exact (finite_positive_iff clock.hz).mp ⟨counting.1.2, counting.2⟩

/-- A clock of at least one hertz that is not stopped counts. -/
theorem counts_of_fast (running : clock.mode ≠ .stopped) (finite : clock.hz.isFinite = true)
    (fast : 1 ≤ clock.hz) : clock.counts = true := by
  have above := positive_of_fromOne ((fromOne_iff clock.hz).mpr fast) finite
  unfold counts
  rw [Bool.and_eq_true, Bool.and_eq_true, Bool.not_eq_true', decide_eq_false_iff_not, bne_iff_ne]
  exact ⟨⟨running, finite⟩, above⟩

/-- A clock that counts gives the whole cycles that have accrued and keeps the rest. -/
theorem advance_of_counts (counting : clock.counts = true) (elapsed : Duration) :
    clock.advance elapsed =
      (count (floor (clock.accrued elapsed)),
        { clock with remainder := clock.accrued elapsed - floor (clock.accrued elapsed) }) := by
  unfold advance
  rw [if_pos counting]

/-- A clock that does not count stays as it is. -/
theorem advance_of_not_counts (idle : clock.counts = false) (elapsed : Duration) :
    clock.advance elapsed = (0, clock) := by
  unfold advance
  rw [idle, if_neg Bool.false_ne_true]

/-- The cycles of an elapsed time are not negative. -/
theorem isMagnitude_cycles (counting : clock.counts = true) (elapsed : Duration) :
    IsMagnitude (parts (clock.hz * elapsed.inSeconds)) := by
  obtain ⟨m, e, pos, finite⟩ := finite_of_counts counting
  exact isMagnitude_mul finite elapsed.isMagnitude_inSeconds

namespace KeepsPart

/-- The part of a cycle is lost when more cycles accrue than a double holds. -/
theorem lostPart (keeps : clock.KeepsPart) (overflow : clock.Overflows elapsed) :
    (clock.advance elapsed).2.LostPart := by
  obtain ⟨counting, infinite⟩ := overflow
  rw [isInf_iff_of_magnitude (isMagnitude_cycles counting elapsed)] at infinite
  have accrued : parts (clock.accrued elapsed) = .infinity .positive :=
    parts_infinity_add infinite (keepsPart_iff.mp keeps).isFinite.isMagnitude
  rw [lostPart_iff, advance_of_counts counting]
  exact parts_sub_floor_of_infinite accrued

/-- A part of a cycle is left over whenever the cycles of the time are finite, since adding less
than one to them does not change that. -/
theorem advance (keeps : clock.KeepsPart) (within : ¬ clock.Overflows elapsed) :
    (clock.advance elapsed).2.KeepsPart := by
  cases counting : clock.counts with
  | false =>
    rw [advance_of_not_counts counting]
    exact keeps
  | true =>
    have magnitude := isMagnitude_cycles counting elapsed
    have finite : IsFiniteMagnitude (parts (clock.hz * elapsed.inSeconds)) := by
      refine magnitude.isFinite ?_
      intro infinite
      exact within ⟨counting, (isInf_iff_of_magnitude magnitude).mpr infinite⟩
    have accrued : IsFiniteMagnitude (parts (clock.accrued elapsed)) :=
      isFiniteMagnitude_add finite (keepsPart_iff.mp keeps)
    rw [keepsPart_iff, advance_of_counts counting]
    exact belowOne_sub_floor accrued

/-- What is left over is not both a part of a cycle and no number. -/
theorem not_lostPart (keeps : clock.KeepsPart) : ¬ clock.LostPart := by
  unfold LostPart
  rw [keeps.1]
  exact Bool.false_ne_true

/-- The part of a cycle is kept exactly as long as the cycles of the time are finite. -/
theorem advance_iff (keeps : clock.KeepsPart) (elapsed : Duration) :
    (clock.advance elapsed).2.KeepsPart ↔ ¬ clock.Overflows elapsed :=
  ⟨fun kept overflow => kept.not_lostPart (keeps.lostPart overflow), keeps.advance⟩

/-- With a part of a cycle left over, a second at one hertz or more is counted. -/
theorem one_le_advance (keeps : clock.KeepsPart) (counting : clock.counts = true)
    (fast : 1 ≤ clock.hz) (long : 1 ≤ elapsed.seconds) : 1 ≤ (clock.advance elapsed).1 := by
  have cycles : FromOne (parts (clock.hz * elapsed.inSeconds)) :=
    fromOne_mul ((fromOne_iff clock.hz).mpr fast) (Duration.fromOne_inSeconds long)
  have left : IsMagnitude (parts clock.remainder) := (zero_le_iff clock.remainder).mp keeps.2.1
  rw [advance_of_counts counting]
  exact one_le_count (fromOne_floor (fromOne_add cycles left))

end KeepsPart

/-- Once what is left over is no number, time counts for nothing and leaves it no number. -/
theorem LostPart.advance (lost : clock.LostPart) (elapsed : Duration) :
    (clock.advance elapsed).1 = 0 ∧ (clock.advance elapsed).2.LostPart := by
  cases counting : clock.counts with
  | false =>
    rw [advance_of_not_counts counting]
    exact ⟨rfl, lost⟩
  | true =>
    have accrued : parts (clock.accrued elapsed) = .notANumber :=
      parts_add_of_nan (lostPart_iff.mp lost)
    rw [lostPart_iff, advance_of_counts counting]
    exact ⟨count_floor_of_nan accrued, parts_sub_floor_of_nan accrued⟩

end Clock

/-- What is done to the machine lets more cycles accrue than a double holds. -/
def Deed.Overflows (m : Machine) : Deed → Prop
  | .elapse time => m.clock.Overflows time
  | _ => False

/-- In a moment more cycles accrue than a double holds. -/
def Scene.Overflows (scene : Scene) (moment : Moment) : Prop :=
  (scene.deed moment).Overflows scene.machine

namespace Interpreter

variable {m : Machine} (interpreter : Interpreter) (around : Bench)

/-- A request keeps the clock or sets it, and then nothing is left over. -/
theorem after_clock (request : Request) :
    (interpreter.after around m request).clock = m.clock ∨
      (interpreter.after around m request).clock.remainder = 0 := by
  refine interpreter.after_cases around m
    (fun left => left.clock = m.clock ∨ left.clock.remainder = 0) request (.inl rfl) ?_ (.inl rfl)
    ?_ ?_
  · intro hz
    refine .inr ?_
    unfold Machine.atFrequency
    split <;> rfl
  · intro image address start _
    exact .inl rfl
  · intro level _
    unfold Machine.atTraceLevel
    split
    · exact .inr rfl
    · exact .inl rfl

/-- A deed keeps the part of a cycle unless it lets too many cycles accrue. -/
theorem afterDeed_keepsPart_iff (keeps : m.clock.KeepsPart) (deed : Deed) :
    (interpreter.afterDeed around m deed).clock.KeepsPart ↔ ¬ deed.Overflows m := by
  cases deed with
  | nothing => exact iff_of_true keeps id
  | request request =>
    refine iff_of_true ?_ id
    rcases interpreter.after_clock around request with same | zero
    · change (interpreter.after around m request).clock.KeepsPart
      rw [same]
      exact keeps
    · exact Clock.keepsPart_of_zero zero
  | send byte => exact iff_of_true keeps id
  | elapse time => exact keeps.advance_iff time
  | take count => exact iff_of_true keeps id

/-- What is left over is a part of a cycle or no number, whatever is done. -/
theorem afterDeed_keepsPart_or (known : m.clock.KeepsPart ∨ m.clock.LostPart) (deed : Deed) :
    (interpreter.afterDeed around m deed).clock.KeepsPart ∨
      (interpreter.afterDeed around m deed).clock.LostPart := by
  cases deed with
  | nothing => exact known
  | request request =>
    rcases interpreter.after_clock around request with same | zero
    · change (interpreter.after around m request).clock.KeepsPart ∨
        (interpreter.after around m request).clock.LostPart
      rw [same]
      exact known
    · exact .inl (Clock.keepsPart_of_zero zero)
  | send byte => exact known
  | elapse time =>
    rcases known with keeps | lost
    · by_cases overflow : m.clock.Overflows time
      · exact .inr (keeps.lostPart overflow)
      · exact .inl (keeps.advance overflow)
    · exact .inr (lost.advance time).2
  | take count => exact known

end Interpreter

namespace Scene

variable {scene : Scene}

/-- A moment keeps the part of a cycle unless too many cycles accrue in it. -/
theorem next_keepsPart_iff (keeps : scene.machine.clock.KeepsPart) (moment : Moment) :
    (scene.next moment).machine.clock.KeepsPart ↔ ¬ scene.Overflows moment := by
  rw [next_machine]
  exact scene.interpreter.afterDeed_keepsPart_iff moment.around keeps (scene.deed moment)

/-- Nothing is left over at power-on. -/
theorem powerOn_keepsPart (console : Console) : (powerOn console).machine.clock.KeepsPart :=
  Clock.keepsPart_of_zero rfl

/-- In a run from power-on what is left over is a part of a cycle or no number. -/
theorem run_keepsPart_or (console : Console) (moments : List Moment) :
    ((powerOn console).run moments).machine.clock.KeepsPart ∨
      ((powerOn console).run moments).machine.clock.LostPart :=
  run_machine (powerOn console) (fun m => m.clock.KeepsPart ∨ m.clock.LostPart) moments
    (.inl (powerOn_keepsPart console)) fun around _ deed known =>
      (powerOn console).interpreter.afterDeed_keepsPart_or around known deed

/-- All through a run from power-on what is left over is a part of a cycle, a number that is not
negative and below one, exactly if at no moment of it more cycles accrue than a double holds. At the
end of the run a clock that is not stopped and has a finite frequency of at least one hertz counts
something in a second or more exactly if what is left over is still a part of a cycle. -/
theorem run_keepsPart_iff (console : Console) (moments : List Moment) :
    ((∀ before, before <+: moments → ((powerOn console).run before).machine.clock.KeepsPart) ↔
      ∀ before moment, before ++ [moment] <+: moments →
        ¬ ((powerOn console).run before).Overflows moment) ∧
    let reached := ((powerOn console).run moments).machine
    ∀ elapsed around, reached.clock.mode ≠ .stopped → reached.clock.hz.isFinite = true →
      1 ≤ reached.clock.hz → 1 ≤ elapsed.seconds →
        (1 ≤ (Act.advance elapsed around reached).value ↔ reached.clock.KeepsPart) := by
  constructor
  · refine run_kept_iff (powerOn console) (fun m => m.clock.KeepsPart) Overflows
      (powerOn_keepsPart console) ?_ moments
    intro before moment keeps
    exact next_keepsPart_iff keeps moment
  · intro reached elapsed around running finite fast long
    have counted : (Act.advance elapsed around reached).value =
        (reached.clock.advance elapsed).1 := by
      rw [Act.advance_apply]
      rfl
    rw [counted]
    constructor
    · intro some
      refine (run_keepsPart_or console moments).resolve_right ?_
      intro lost
      have none : (reached.clock.advance elapsed).1 = 0 := (Clock.LostPart.advance lost elapsed).1
      omega
    · intro keeps
      exact keeps.one_le_advance (Clock.counts_of_fast running finite fast) fast long

/-- After two seconds and a bit at a thousand hertz a part of a cycle is left over, and another
second counts for something. -/
theorem run_keepsPart_thousand :
    let around : Bench := { disk := fun _ => .error .notFound, directory := "." }
    let moments := [⟨around, .line "clk 1000"⟩, ⟨around, .elapse (.of 2 500)⟩]
    let reached := ((powerOn (.new {} {})).run moments).machine
    (reached.clock.mode ≠ .stopped ∧ reached.clock.hz.isFinite = true ∧ 1 ≤ reached.clock.hz) ∧
      reached.clock.KeepsPart ∧ 1 ≤ (Act.advance (.of 1 0) around reached).value := by
  intro around moments reached
  have running : reached.clock.mode ≠ .stopped := by decide +kernel
  have finite : reached.clock.hz.isFinite = true := by decide +kernel
  have fast : 1 ≤ reached.clock.hz := by decide +kernel
  have keeps : reached.clock.KeepsPart :=
    ⟨by decide +kernel, by decide +kernel, by decide +kernel⟩
  obtain ⟨-, counted⟩ := run_keepsPart_iff (.new {} {}) moments
  exact ⟨⟨running, finite, fast⟩, keeps,
    (counted (.of 1 0) around running finite fast (by decide)).mpr keeps⟩

/-- A hundred seconds at the frequency that a line asks for are more cycles than a double holds, and
the seconds after them count for nothing although the clock runs at a finite frequency. -/
theorem elapse_after_clk_huge :
    let around : Bench := { disk := fun _ => .error .notFound, directory := "." }
    let moments := [⟨around, .line "clk 1e308"⟩, ⟨around, .elapse (.of 100 0)⟩]
    let reached := ((powerOn (.new {} {})).run moments).machine
    reached.clock.remainder.isNaN = true ∧ ¬ reached.clock.KeepsPart ∧
      reached.clock.mode = .independent ∧ reached.clock.hz.isFinite = true ∧
      1 ≤ reached.clock.hz ∧ (Act.advance (.of 1 0) around reached).value = 0 := by
  intro around moments reached
  have lost : reached.clock.remainder.isNaN = true := by decide +kernel
  refine ⟨lost, fun keeps => keeps.not_lostPart lost, ?_⟩
  decide +kernel

end Scene

end BoardSupervisor
