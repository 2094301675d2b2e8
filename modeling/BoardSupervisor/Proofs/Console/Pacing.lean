import BoardSupervisor.Proofs.Console.Answer
import Mathlib.Data.List.Forall2

/-!
# Whether it matters when time passes

Time passes between the bytes in no fixed way. It leaves its mark in two places of the machine only:
the count of cycles and the part of a cycle that is left over. Nothing that is done to the machine
reads either of them, and of all that is written to the operator only the listing of the registers
shows one. Two runs in which the same things happen, with any times between them, therefore stay
alike in everything else.
-/

namespace BoardSupervisor

namespace Machine

variable (m : Machine)

/-- The machine without the marks of time: no cycles counted and no part of one left over. -/
def timeless : Machine := { m with cycles := 0, clock := { m.clock with remainder := 0 } }

/-- Time leaves no other marks. -/
theorem timeless_advance (elapsed : Duration) : (m.advance elapsed).2.timeless = m.timeless := by
  unfold advance timeless Clock.advance
  dsimp only
  split <;> rfl

/-- Giving up the trace for a frequency does not depend on time. -/
theorem timeless_withoutFastTrace (limits : ClockLimits) (hz : Float) :
    m.timeless.withoutFastTrace limits hz = (m.withoutFastTrace limits hz).timeless := by
  have same : limits.forbidTrace hz m.timeless = limits.forbidTrace hz m := rfl
  unfold withoutFastTrace
  rw [same]
  split <;> rfl

/-- Setting a frequency does not depend on time. -/
theorem timeless_atFrequency (hz : Float) :
    (m.timeless.atFrequency hz).timeless = (m.atFrequency hz).timeless := rfl

/-- Setting the trace level does not depend on time. -/
theorem timeless_atTraceLevel (level : Int) :
    (m.timeless.atTraceLevel level).timeless = (m.atTraceLevel level).timeless := by
  unfold atTraceLevel
  split <;> rfl

end Machine

namespace Interpreter

variable (interpreter : Interpreter) (around : Bench) (m : Machine)

/-- No request depends on time. -/
theorem timeless_after (request : Request) :
    (interpreter.after around m.timeless request).timeless =
      (interpreter.after around m request).timeless := by
  cases request with
  | showRegisters => rfl
  | clock asked =>
    dsimp only [after]
    cases asked.frequency? interpreter.limits with
    | none => rfl
    | some hz =>
      dsimp only
      rw [Machine.timeless_withoutFastTrace, Machine.timeless_atFrequency]
  | reset => rfl
  | loadRom kind =>
    dsimp only [after]
    cases interpreter.rom? kind <;> rfl
  | loadFile name address start =>
    dsimp only [after]
    cases around.program? name address <;> rfl
  | trace level => exact m.timeless_atTraceLevel level

/-- No deed depends on time. -/
theorem timeless_afterDeed (deed : Deed) :
    (interpreter.afterDeed around m.timeless deed).timeless =
      (interpreter.afterDeed around m deed).timeless := by
  cases deed with
  | nothing => rfl
  | request request => exact interpreter.timeless_after around m request
  | send byte => rfl
  | elapse elapsed =>
    dsimp only [afterDeed]
    rw [Machine.timeless_advance, Machine.timeless_advance]
    rfl
  | take count => rfl

/-- Nothing but the listing of the registers shows the marks of time. -/
theorem answer_timeless {request : Request} (other : request ≠ .showRegisters) :
    interpreter.answer around m.timeless request = interpreter.answer around m request := by
  cases request with
  | showRegisters => exact absurd rfl other
  | clock asked =>
    have same := congrArg (·.clock.listing) (interpreter.timeless_after around m (.clock asked))
    dsimp only [answer]
    cases asked.frequency? interpreter.limits with
    | none => rfl
    | some hz => exact congrArg (interpreter.limits.notice hz m ++ ·) same
  | reset => rfl
  | loadRom kind => rfl
  | loadFile name address start => rfl
  | trace level => rfl

end Interpreter

/-- What the operator is shown of the count of cycles. -/
def Machine.cyclesLine (m : Machine) : List UInt8 :=
  Text.Latin1.encode ("T=" ++ Number.decimal m.cycles ++ "\r\n")

/-- The listing of the registers ends with the count of cycles, and the lines before do not depend
on time. -/
theorem Machine.listing_eq (m : Machine) :
    m.listing =
      Text.Latin1.encode (m.timeless.registers.mainLine ++ m.timeless.registers.alternateLine) ++
        m.cyclesLine := by
  unfold listing cyclesLine
  rw [← String.append_assoc, Text.Latin1.encode_append]
  rfl

namespace Console

variable {console : Console} {stimulus : Stimulus} {m other : Machine} (around : Bench)

/-- Where the registers are not shown, what is written does not depend on time. -/
theorem answer_eq_of_timeless (same : m.timeless = other.timeless)
    (unlisted : console.deed stimulus ≠ .request .showRegisters) :
    console.answer around m stimulus = console.answer around other stimulus := by
  by_cases asks : ∃ request, console.deed stimulus = .request request
  · obtain ⟨request, asked⟩ := asks
    have others : request ≠ .showRegisters := by
      rintro rfl
      exact unlisted asked
    rw [answer_of_request around m asked, answer_of_request around other asked,
      ← Interpreter.answer_timeless _ _ m others, same, Interpreter.answer_timeless _ _ other others]
  · have idle : ∀ request, console.deed stimulus ≠ .request request :=
      fun request asked => asks ⟨request, asked⟩
    exact answer_of_no_request around m idle other

/-- Where the registers are shown, what is written ends with the count of cycles, and what comes
before does not depend on time. -/
theorem answer_of_listed (listed : console.deed stimulus = .request .showRegisters) :
    console.answer around m stimulus =
      stimulus.lead ++ Text.Latin1.encode
        (m.timeless.registers.mainLine ++ m.timeless.registers.alternateLine) ++ m.cyclesLine := by
  rw [answer_of_request around m listed, List.append_assoc, ← m.listing_eq]
  rfl

end Console

namespace Scene

/-- Two scenes are alike but for the marks of time. -/
structure SameButTime (first second : Scene) : Prop where
  /-- The consoles are the same. -/
  console : first.console = second.console
  /-- The machines without the marks of time are the same. -/
  machine : first.machine.timeless = second.machine.timeless

variable {first second third : Scene}

/-- Alike the other way round. -/
theorem SameButTime.symm (same : first.SameButTime second) : second.SameButTime first :=
  ⟨same.console.symm, same.machine.symm⟩

/-- Alike through a third scene. -/
theorem SameButTime.trans (same : first.SameButTime second) (more : second.SameButTime third) :
    first.SameButTime third :=
  ⟨same.console.trans more.console, same.machine.trans more.machine⟩

/-- The same moment keeps scenes alike. -/
theorem SameButTime.next (same : first.SameButTime second) (moment : Moment) :
    (first.next moment).SameButTime (second.next moment) := by
  have interpreter_eq : first.interpreter = second.interpreter := by
    unfold interpreter
    rw [same.console]
  have deed_eq : first.deed moment = second.deed moment := by
    unfold deed
    rw [same.console]
  constructor
  · rw [next_console, next_console, same.console]
  · rw [next_machine, next_machine, interpreter_eq, deed_eq, ← Interpreter.timeless_afterDeed,
      same.machine, Interpreter.timeless_afterDeed]

/-- Where time has passed, the scene is as it was but for the marks of time. -/
theorem run_elapse_sameButTime (scene : Scene) (around : Bench) (times : List Duration) :
    (scene.run (times.map fun time => ⟨around, .elapse time⟩)).SameButTime scene := by
  induction times generalizing scene with
  | nil => exact ⟨rfl, rfl⟩
  | cons time rest ih =>
    have later := ih (scene.next ⟨around, .elapse time⟩)
    refine ⟨later.console, later.machine.trans ?_⟩
    rw [next_machine]
    exact scene.machine.timeless_advance time

end Scene

/-- A moment, with the scene that it meets. -/
structure Encounter where
  /-- The scene before the moment. -/
  scene : Scene
  /-- The moment. -/
  moment : Moment

namespace Encounter

/-- The scene after the moment. -/
def after (encounter : Encounter) : Scene := encounter.scene.next encounter.moment

/-- The bytes that are written in the moment. -/
def written (encounter : Encounter) : List UInt8 := encounter.scene.written encounter.moment

/-- In the moment a command line is carried out that shows the registers. -/
def ShowsRegisters (encounter : Encounter) : Prop :=
  encounter.scene.deed encounter.moment = .request .showRegisters

/-- Two encounters end alike and write the same, but for the marks of time. -/
structure Alike (first second : Encounter) : Prop where
  /-- The consoles are the same: whether the menu is open, and the line in the editor. -/
  console : first.after.console = second.after.console
  /-- The registers are the same. -/
  registers : first.after.machine.registers = second.after.machine.registers
  /-- The memory is the same. -/
  memory : first.after.machine.memory = second.after.machine.memory
  /-- The modes of the clock are the same. -/
  mode : first.after.machine.clock.mode = second.after.machine.clock.mode
  /-- The frequencies of the clock are the same. -/
  hz : first.after.machine.clock.hz = second.after.machine.clock.hz
  /-- The trace levels are the same. -/
  traceLevel : first.after.machine.traceLevel = second.after.machine.traceLevel
  /-- The queues of the serial port are the same. -/
  serialQueue : first.after.machine.serialQueue = second.after.machine.serialQueue
  /-- Both show the registers, or neither does. -/
  shows : first.ShowsRegisters ↔ second.ShowsRegisters
  /-- The same bytes are written where the registers are not shown. -/
  written : ¬ first.ShowsRegisters → first.written = second.written
  /-- Where they are shown, the same bytes are written up to the count of cycles, which comes
  last. -/
  listed : first.ShowsRegisters → ∃ shown,
    first.written = shown ++ first.scene.machine.cyclesLine ∧
      second.written = shown ++ second.scene.machine.cyclesLine

variable {first second : Scene}

/-- The same moment meets scenes that are alike but for the marks of time. -/
theorem alike_of_sameButTime (same : first.SameButTime second) (moment : Moment) :
    Alike ⟨first, moment⟩ ⟨second, moment⟩ := by
  have after_same := same.next moment
  have deed_eq : first.deed moment = second.deed moment := by
    unfold Scene.deed
    rw [same.console]
  have shows : ShowsRegisters ⟨first, moment⟩ ↔ ShowsRegisters ⟨second, moment⟩ := by
    unfold ShowsRegisters
    rw [deed_eq]
  refine ⟨after_same.console, congrArg (·.registers) after_same.machine,
    congrArg (·.memory) after_same.machine, congrArg (·.clock.mode) after_same.machine,
    congrArg (·.clock.hz) after_same.machine, congrArg (·.traceLevel) after_same.machine,
    congrArg (·.serialQueue) after_same.machine, shows, ?_, ?_⟩
  · intro unlisted
    unfold written
    dsimp only
    rw [Scene.written_eq, Scene.written_eq, ← same.console]
    exact Console.answer_eq_of_timeless moment.around same.machine unlisted
  · intro listed
    unfold written
    dsimp only
    rw [Scene.written_eq, Scene.written_eq, Console.answer_of_listed moment.around listed,
      Console.answer_of_listed moment.around (shows.mp listed), same.machine]
    exact ⟨_, rfl, rfl⟩

end Encounter

/-- The moments of a run, each with the scene that it meets, when the given times pass before
each. -/
def Scene.paced (scene : Scene) (times : Nat → List Duration) : List Moment → List Encounter
  | [] => []
  | moment :: rest =>
    let met := scene.run ((times 0).map fun time => ⟨moment.around, .elapse time⟩)
    ⟨met, moment⟩ :: (met.next moment).paced (fun later => times (later + 1)) rest

/-- The same moments, with any times before each of them, are met alike by scenes that are alike. -/
theorem Scene.SameButTime.paced {first second : Scene} (same : first.SameButTime second)
    (moments : List Moment) (times other : Nat → List Duration) :
    List.Forall₂ Encounter.Alike (first.paced times moments) (second.paced other moments) := by
  induction moments generalizing first second times other with
  | nil => exact .nil
  | cons moment rest ih =>
    have waited (scene : Scene) (times : List Duration) :=
      scene.run_elapse_sameButTime moment.around times
    have met : (first.run ((times 0).map fun time => ⟨moment.around, .elapse time⟩)).SameButTime
        (second.run ((other 0).map fun time => ⟨moment.around, .elapse time⟩)) :=
      ((waited first (times 0)).trans same).trans (waited second (other 0)).symm
    exact .cons (Encounter.alike_of_sameButTime met moment) (ih (met.next moment) _ _)

/-- Whatever is typed at a console or reaches the board otherwise, and in whatever machine it
begins: how much time passes before each byte, and in how many steps, changes nothing after any of
the bytes but the count of cycles and the part of a cycle that is left over. The same bytes are
written, but for the count of cycles where the registers are shown. -/
theorem Scene.paced_alike (scene : Scene) (moments : List Moment)
    (times other : Nat → List Duration) :
    List.Forall₂ Encounter.Alike (scene.paced times moments) (scene.paced other moments) :=
  SameButTime.paced ⟨rfl, rfl⟩ moments times other

end BoardSupervisor
