import BoardSupervisor.Proofs.Clock.Agreement
import BoardSupervisor.Proofs.Clock.CycleCount

/-!
# The trace of the bus

While time passes the log is told of the cycles that were counted, but only of those that the
supervisor drives. That this leaves out nothing on a traced bus is a matter of whole runs: the clock
of a traced bus is driven by the supervisor or stopped, and a stopped clock counts nothing. So each
advance on a traced bus that counts cycles has its record, and no cycle comes from elsewhere.
-/

namespace BoardSupervisor

namespace Machine

variable {m : Machine}

/-- Cycles are counted only while the clock is not stopped. -/
theorem not_stopped_of_counted {elapsed : Duration} (counted : 0 < (m.advance elapsed).1) :
    m.clock.mode ≠ .stopped := by
  intro stopped
  have still : m.clock.counts = false := by
    unfold Clock.counts
    rw [stopped]
    rfl
  have none_counted : (m.advance elapsed).1 = 0 := by
    unfold advance Clock.advance
    rw [still]
    rfl
  omega

/-- Where the parts of the clock agree, the supervisor drives all the cycles that are counted on a
traced bus. -/
theorem ClockAgrees.tracesBus_advance (agrees : m.ClockAgrees) (elapsed : Duration) :
    ((m.advance elapsed).2.tracesBus && decide ((m.advance elapsed).1 > 0)) =
      decide (0 < m.traceLevel ∧ 0 < (m.advance elapsed).1) := by
  have mode_eq : (m.advance elapsed).2.clock.mode = m.clock.mode :=
    (m.clock.advance_mode_hz elapsed).1
  have level_eq : (m.advance elapsed).2.traceLevel = m.traceLevel := rfl
  unfold tracesBus
  rw [mode_eq, level_eq, Bool.eq_iff_iff]
  simp only [Bool.and_eq_true, beq_iff_eq, decide_eq_true_eq]
  constructor
  · rintro ⟨⟨-, traced⟩, counted⟩
    exact ⟨traced, counted⟩
  · rintro ⟨traced, counted⟩
    rcases agrees.traced traced with driven | stopped
    · exact ⟨⟨driven, traced⟩, counted⟩
    · exact absurd stopped (not_stopped_of_counted counted)

end Machine

namespace Interpreter

variable (interpreter : Interpreter) (around : Bench) (m : Machine)

/-- No deed takes the count of cycles beyond what the counter holds. -/
theorem afterDeed_cycles_le {m : Machine} (held : m.cycles ≤ Binary64.maxCount) (deed : Deed) :
    (interpreter.afterDeed around m deed).cycles ≤ Binary64.maxCount := by
  rw [interpreter.afterDeed_cycles around held deed]
  exact Nat.min_le_left _ _

end Interpreter

namespace Scene

variable {scene : Scene}

/-- The count of cycles moves only while time passes and cycles are counted. -/
theorem elapse_of_next_cycles {moment : Moment} (held : scene.machine.cycles ≤ Binary64.maxCount)
    (moved : (scene.next moment).machine.cycles ≠ scene.machine.cycles) :
    ∃ elapsed, moment.stimulus = .elapse elapsed ∧ 0 < (scene.machine.advance elapsed).1 := by
  have counted : (scene.deed moment).counted scene.machine ≠ 0 := by
    intro none_counted
    refine moved ?_
    rw [next_machine, scene.interpreter.afterDeed_cycles moment.around held, none_counted,
      Nat.add_zero, Nat.min_eq_right held]
  obtain ⟨around, stimulus⟩ := moment
  let Uncounted (deed : Deed) : Prop := deed.counted scene.machine = 0
  cases stimulus with
  | line text => exact absurd (Command.deed_cases Uncounted _ rfl fun _ => rfl) counted
  | key byte =>
    exact absurd (scene.console.keyDeed_cases Uncounted byte rfl (fun _ => rfl) fun _ => rfl) counted
  | elapse time => exact ⟨time, rfl, Nat.pos_of_ne_zero counted⟩
  | take count => exact absurd rfl counted

/-- In every machine that a run from power-on reaches, the passing of time logs one record of the
bus if the trace level is above zero and cycles are counted, and else nothing. The record gives the
cycles that were counted, all that have been counted by then, the program counter and the trace
level. No moment of a run moves the count of cycles on a traced bus without such a record. -/
theorem run_advance_traced (console : Console) (moments : List Moment) :
    let m := ((powerOn console).run moments).machine
    (∀ elapsed around,
      (Act.advance elapsed around m).events =
        if 0 < m.traceLevel ∧ 0 < (Act.advance elapsed around m).value then
          [.logged ⟨.trace,
            "bus: +" ++ Number.decimal (Act.advance elapsed around m).value ++ " cycles t=" ++
              Number.decimal (Act.advance elapsed around m).machine.cycles ++ " pc=" ++
              Number.hexWord m.registers.pc ++ " level=" ++
              Number.signedDecimal m.traceLevel⟩]
        else []) ∧
    ∀ moment, 0 < m.traceLevel →
      (((powerOn console).run moments).next moment).machine.cycles ≠ m.cycles →
      ∃ elapsed, moment.stimulus = .elapse elapsed ∧
        0 < (Act.advance elapsed moment.around m).value := by
  intro m
  have agrees : m.ClockAgrees :=
    (powerOn console).run_machine Machine.ClockAgrees moments Machine.powerOn_clockAgrees
      fun around _ deed kept => (powerOn console).interpreter.afterDeed_clockAgrees around kept deed
  have held : m.cycles ≤ Binary64.maxCount :=
    (powerOn console).run_machine (·.cycles ≤ Binary64.maxCount) moments (Nat.zero_le _)
      fun around _ deed kept => (powerOn console).interpreter.afterDeed_cycles_le around kept deed
  constructor
  · intro elapsed around
    rw [Act.advance_apply]
    dsimp only [Act.busEvents]
    rw [agrees.tracesBus_advance elapsed]
    simp only [decide_eq_true_eq]
    rfl
  · intro moment traced moved
    obtain ⟨elapsed, stimulus, counted⟩ := elapse_of_next_cycles held moved
    refine ⟨elapsed, stimulus, ?_⟩
    rw [Act.advance_apply]
    exact counted

/-- A second at a thousand hertz on a traced bus moves the count of cycles, and the log is told of
the thousand in one record. -/
theorem run_advance_traced_thousand :
    let around : Bench := { disk := fun _ => .error .notFound, directory := "." }
    let scene := (powerOn (.new {} {})).run [⟨around, .line "clk 1000"⟩, ⟨around, .line "trace 1"⟩]
    let moment : Moment := ⟨around, .elapse (.of 1 0)⟩
    (0 < scene.machine.traceLevel ∧
      (scene.next moment).machine.cycles ≠ scene.machine.cycles) ∧
      (∃ elapsed, moment.stimulus = .elapse elapsed ∧
        0 < (Act.advance elapsed around scene.machine).value) ∧
      (Act.advance (.of 1 0) around scene.machine).events =
        [.logged ⟨.trace, "bus: +1000 cycles t=1000 pc=0000 level=1"⟩] := by
  intro around scene moment
  have traced : 0 < scene.machine.traceLevel := by decide +kernel
  have moved : (scene.next moment).machine.cycles ≠ scene.machine.cycles := by decide +kernel
  have counted : 0 < (Act.advance (.of 1 0) around scene.machine).value := by decide +kernel
  obtain ⟨recorded, complete⟩ := run_advance_traced (.new {} {})
    [⟨around, .line "clk 1000"⟩, ⟨around, .line "trace 1"⟩]
  refine ⟨⟨traced, moved⟩, complete moment traced moved, ?_⟩
  rw [recorded (.of 1 0) around, if_pos ⟨traced, counted⟩]
  have text : "bus: +" ++ Number.decimal (Act.advance (.of 1 0) around scene.machine).value ++
      " cycles t=" ++ Number.decimal (Act.advance (.of 1 0) around scene.machine).machine.cycles ++
      " pc=" ++ Number.hexWord scene.machine.registers.pc ++ " level=" ++
      Number.signedDecimal scene.machine.traceLevel =
        "bus: +1000 cycles t=1000 pc=0000 level=1" := by decide +kernel
  rw [text]

end Scene

end BoardSupervisor
