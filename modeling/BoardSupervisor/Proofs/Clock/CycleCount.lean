import BoardSupervisor.Proofs.Console.Occasion
import Mathlib.Algebra.GroupWithZero.Nat

/-!
# The count of cycles

The board counts its cycles since power-on in a counter that stays where it is once it is full. Each
time that time passes it also says how many cycles there were, and what it says is all that the
counter ever takes: after any life of the board the counter holds the sum of all that was said, or
as much of it as a counter of 64 bits holds. So it never goes back, whatever is done to the board.

Where the clock is stopped, or its frequency is no number, infinite, zero or negative, the passing
of time is said to be no cycles and leaves the whole machine as it was.
-/

namespace BoardSupervisor

namespace Binary64

/-- A double that is not finite is no number or infinite. -/
theorem isFinite_eq_false_iff (x : Float) :
    x.isFinite = false ↔ x.isNaN = true ∨ x.isInf = true := by
  unfold Float.isFinite Float.isNaN Float.isInf Float.Model.isFinite Float.Model.isNaN
    Float.Model.isInf Float.Model.UnpackedFloat.isFinite Float.Model.UnpackedFloat.isNaN
    Float.Model.UnpackedFloat.isInf
  cases x.toModel.unpack <;> simp

/-- A double that is not above another compares equal to it or is below it. -/
theorem le_iff_beq_or_lt (x y : Float) : x ≤ y ↔ (x == y) = true ∨ x < y := by
  have le : x ≤ y ↔ (x.toModel.unpack.compare y.toModel.unpack).any Ordering.isLE = true := by
    change decide (x.toModel ≤ y.toModel) = true ↔ _
    exact decide_eq_true_iff
  have lt : x < y ↔ (x.toModel.unpack.compare y.toModel.unpack == some .lt) = true := by
    change decide (x.toModel < y.toModel) = true ↔ _
    exact decide_eq_true_iff
  have eq : (x == y) = true ↔
      (x.toModel.unpack.compare y.toModel.unpack == some .eq) = true := Iff.rfl
  rw [le, lt, eq]
  cases x.toModel.unpack.compare y.toModel.unpack with
  | none => decide
  | some order => cases order <;> decide

end Binary64

/-- Why a clock does not count: it is stopped, or its frequency is no number, infinite, zero or
negative. -/
inductive Clock.Idle (clock : Clock) : Prop where
  /-- It is stopped. -/
  | stopped (mode : clock.mode = .stopped)
  /-- Its frequency is no number. -/
  | noNumber (hz : clock.hz.isNaN = true)
  /-- Its frequency is infinite. -/
  | infinite (hz : clock.hz.isInf = true)
  /-- Its frequency is zero, of either sign. -/
  | zero (hz : (clock.hz == 0) = true)
  /-- Its frequency is negative. -/
  | negative (hz : clock.hz < 0)

/-- A clock counts exactly if nothing keeps it from counting. -/
theorem Clock.counts_eq_false_iff (clock : Clock) : clock.counts = false ↔ clock.Idle := by
  have counts : clock.counts = false ↔
      (clock.mode = .stopped ∨ clock.hz.isFinite = false) ∨ clock.hz ≤ 0 := by
    unfold Clock.counts
    simp only [Bool.and_eq_false_iff, bne_eq_false_iff_eq, Bool.not_eq_false', decide_eq_true_eq]
  rw [counts, Binary64.isFinite_eq_false_iff, Binary64.le_iff_beq_or_lt]
  constructor
  · rintro ((mode | noNumber | infinite) | zero | negative)
    · exact .stopped mode
    · exact .noNumber noNumber
    · exact .infinite infinite
    · exact .zero zero
    · exact .negative negative
  · intro idle
    cases idle with
    | stopped mode => exact .inl (.inl mode)
    | noNumber hz => exact .inl (.inr (.inl hz))
    | infinite hz => exact .inl (.inr (.inr hz))
    | zero hz => exact .inr (.inl hz)
    | negative hz => exact .inr (.inr hz)

/-- An idle clock lets time pass without a cycle, and the machine stays as it was. -/
theorem Machine.advance_of_idle {m : Machine} (idle : m.clock.Idle)
    (held : m.cycles ≤ Binary64.maxCount) (elapsed : Duration) : m.advance elapsed = (0, m) := by
  have still : m.clock.advance elapsed = (0, m.clock) := by
    unfold Clock.advance
    rw [m.clock.counts_eq_false_iff.mpr idle, if_neg Bool.false_ne_true]
  unfold advance
  rw [still]
  dsimp only
  rw [Nat.add_zero, Nat.min_eq_right held]

/-- The cycles that are counted while something is done to the machine. -/
def Deed.counted (m : Machine) : Deed → Nat
  | .elapse time => (m.advance time).1
  | _ => 0

/-- What is done to the machine adds the cycles that are counted meanwhile, as long as the counter
holds them. -/
theorem Interpreter.afterDeed_cycles (interpreter : Interpreter) (around : Bench) {m : Machine}
    (held : m.cycles ≤ Binary64.maxCount) (deed : Deed) :
    (interpreter.afterDeed around m deed).cycles =
      min Binary64.maxCount (m.cycles + deed.counted m) := by
  have unmoved : m.cycles = min Binary64.maxCount (m.cycles + 0) := by
    rw [Nat.add_zero, Nat.min_eq_right held]
  cases deed with
  | nothing => exact unmoved
  | request request => exact (interpreter.after_frame around m request).1.trans unmoved
  | send byte => exact unmoved
  | elapse time => rfl
  | take count => exact unmoved

/-- Working the machine directly leaves the count of cycles alone. -/
theorem Intervention.act_cycles (intervention : Intervention) (around : Bench) (m : Machine) :
    (intervention.act around m).machine.cycles = m.cycles := by
  have loaded (load : Load) : (load.after {} around m).cycles = m.cycles := by
    unfold Load.after
    cases load.image? {} around <;> rfl
  cases intervention with
  | reset => rfl
  | setIndependent hz => rfl
  | setSupervised hz => rfl
  | setTraceLevel level => rfl
  | loadProgram image address start =>
    rw [(act_of_load {} around m rfl).1]
    exact loaded ⟨.handed image, address, start⟩
  | loadFile name address start =>
    rw [(act_of_load {} around m rfl).1]
    exact loaded ⟨.file name, address, start⟩
  | sendSerial byte => rfl

/-- The cycles that a reply tells of. -/
def Reply.cycles : Reply → Nat
  | .counted cycles => cycles
  | _ => 0

namespace Scene

variable (scene : Scene)

/-- The reply to a stimulus tells of the cycles that were counted. -/
theorem reply_cycles (moment : Moment) :
    (scene.reply moment).cycles = (scene.deed moment).counted scene.machine := by
  obtain ⟨around, stimulus⟩ := moment
  let Uncounted (deed : Deed) : Prop := 0 = deed.counted scene.machine
  cases stimulus with
  | line text => exact Command.deed_cases Uncounted _ rfl (fun _ => rfl)
  | key byte =>
    exact scene.console.keyDeed_cases Uncounted byte rfl (fun _ => rfl) (fun _ => rfl)
  | elapse time => rfl
  | take count => rfl

/-- The cycles that the board says were counted on an occasion: those of the reply, if time
passed. -/
def returned : Occasion → Nat
  | ⟨around, .stimulus stimulus⟩ => (scene.reply ⟨around, stimulus⟩).cycles
  | ⟨_, .intervention _⟩ => 0

/-- All that the board says was counted in a life, occasion by occasion. -/
def allReturned : Scene → List Occasion → List Nat
  | _, [] => []
  | scene, occasion :: rest =>
    scene.returned occasion :: (scene.occur occasion).allReturned rest

variable {scene}

/-- On an occasion the counter takes what is said to be counted, as long as it holds it. -/
theorem occur_cycles (held : scene.machine.cycles ≤ Binary64.maxCount) (occasion : Occasion) :
    (scene.occur occasion).machine.cycles =
      min Binary64.maxCount (scene.machine.cycles + scene.returned occasion) := by
  obtain ⟨around, happening⟩ := occasion
  cases happening with
  | stimulus stimulus =>
    dsimp only [occur, returned]
    rw [next_machine, reply_cycles]
    exact scene.interpreter.afterDeed_cycles around held (scene.deed ⟨around, stimulus⟩)
  | intervention intervention =>
    dsimp only [occur, returned]
    rw [intervention.act_cycles, Nat.add_zero, Nat.min_eq_right held]

/-- If the counter holds as much as it can of a sum, then after a life it holds as much as it can of
that sum and all that was said to be counted since. What a full counter has let go by is not needed:
adding to it in steps or at once comes to the same. -/
theorem live_cycles {total : Nat} (counted : scene.machine.cycles = min Binary64.maxCount total)
    (occasions : List Occasion) :
    (scene.live occasions).machine.cycles =
      min Binary64.maxCount (total + (scene.allReturned occasions).sum) := by
  induction occasions generalizing scene total with
  | nil =>
    rw [allReturned, List.sum_nil, Nat.add_zero]
    exact counted
  | cons occasion rest ih =>
    have held : scene.machine.cycles ≤ Binary64.maxCount := by
      rw [counted]
      exact Nat.min_le_left _ _
    have next : (scene.occur occasion).machine.cycles =
        min Binary64.maxCount (total + scene.returned occasion) := by
      rw [occur_cycles held, counted]
      omega
    have later := ih next
    rw [Nat.add_assoc] at later
    rw [allReturned, List.sum_cons]
    exact later

/-- In a life the counter does not go back. -/
theorem cycles_le_live (held : scene.machine.cycles ≤ Binary64.maxCount)
    (occasions : List Occasion) :
    scene.machine.cycles ≤ (scene.live occasions).machine.cycles := by
  rw [live_cycles (Nat.min_eq_right held).symm occasions]
  exact Nat.le_min.mpr ⟨held, Nat.le_add_right _ _⟩

/-- After any life from power-on the counter holds the sum of all that was said to be counted, or
the most that 64 bits hold if the sum is above it. Whatever happens later does not take it back.
While the clock is stopped, or its frequency is no number, infinite, zero or negative, the passing
of time is said to be no cycles and leaves the machine as it was. -/
theorem live_cycle_count (console : Console) (occasions : List Occasion) :
    let reached := (powerOn console).live occasions
    reached.machine.cycles = min (2 ^ 64 - 1) ((powerOn console).allReturned occasions).sum ∧
    (∀ later, reached.machine.cycles ≤ (reached.live later).machine.cycles) ∧
    ∀ elapsed around, reached.machine.clock.Idle →
      (Act.advance elapsed around reached.machine).value = 0 ∧
        (Act.advance elapsed around reached.machine).machine = reached.machine := by
  intro reached
  have at_start : (powerOn console).machine.cycles = min Binary64.maxCount 0 := rfl
  have counted : reached.machine.cycles =
      min Binary64.maxCount ((powerOn console).allReturned occasions).sum := by
    have told := live_cycles at_start occasions
    rwa [Nat.zero_add] at told
  have held : reached.machine.cycles ≤ Binary64.maxCount := by
    rw [counted]
    exact Nat.min_le_left _ _
  refine ⟨counted, cycles_le_live held, ?_⟩
  intro elapsed around idle
  rw [Act.advance_apply, Machine.advance_of_idle idle held]
  exact ⟨rfl, rfl⟩

/-- Two seconds at a thousand hertz are counted, and time that passes at a frequency that is no
number is not, although the supervisor drives the clock. -/
theorem live_cycle_count_noNumber :
    let around : Bench := { disk := fun _ => .error .notFound, directory := "." }
    let reached := (powerOn (.new {} {})).live
      [⟨around, .intervention (.setIndependent 1000)⟩, ⟨around, .stimulus (.elapse (.of 2 0))⟩,
        ⟨around, .intervention (.setSupervised Binary64.notANumber)⟩]
    reached.machine.cycles = 2000 ∧ reached.machine.clock.mode = .supervised ∧
      (Act.advance (.of 5 0) around reached.machine).value = 0 ∧
      (Act.advance (.of 5 0) around reached.machine).machine = reached.machine := by
  intro around reached
  have idle : reached.machine.clock.Idle := .noNumber (by decide +kernel)
  obtain ⟨counted, -, still⟩ := live_cycle_count (.new {} {})
    [⟨around, .intervention (.setIndependent 1000)⟩, ⟨around, .stimulus (.elapse (.of 2 0))⟩,
      ⟨around, .intervention (.setSupervised Binary64.notANumber)⟩]
  refine ⟨counted.trans ?_, rfl, still (.of 5 0) around idle⟩
  decide +kernel

end Scene

end BoardSupervisor
