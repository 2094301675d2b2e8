import BoardSupervisor.Proofs.Command.Effect

/-!
# Lines that are refused

A command cannot be carried out when its verb is unknown, its arguments are faulty, an image is not
there, or a program does not fit into memory. The operator then reads a line that begins with
`error:`, and no other command writes such a beginning. A refused line leaves every part of the
machine as it was, however late the fault was found, and the session goes on.
-/

namespace BoardSupervisor

/-- The bytes that a line about an error begins with. -/
def errorMark : List UInt8 := Text.Latin1.encode "error:"

/-- Output that begins with the mark of errors begins with the letter e. -/
theorem head?_of_errorMark {written : List UInt8} (marked : errorMark <+: written) :
    written.head? = some 101 := by
  obtain ⟨rest, joined⟩ := marked
  rw [← joined]
  rfl

/-- A text that begins with a marked text is marked. -/
theorem errorMark_encode_append {s : String} (marked : errorMark <+: Text.Latin1.encode s)
    (t : String) : errorMark <+: Text.Latin1.encode (s ++ t) := by
  rw [Text.Latin1.encode_append]
  exact marked.trans (List.prefix_append _ _)

/-- A text that begins with another letter is not marked. -/
theorem not_errorMark_encode_append {s : String} {first : UInt8}
    (begins : (Text.Latin1.encode s).head? = some first) (other : first ≠ 101) (t : String) :
    ¬ errorMark <+: Text.Latin1.encode (s ++ t) := by
  intro marked
  have head := head?_of_errorMark marked
  rw [Text.Latin1.encode_append, List.head?_append, begins, Option.some_or] at head
  exact other (Option.some.inj head)

/-- Every fault of the arguments is told in a line that is marked as an error. -/
theorem errorMark_complaint (fault : ArgumentFault) : errorMark <+: fault.complaint := by
  have message : errorMark <+: Text.Latin1.encode fault.message := by
    cases fault with
    | frequency fault => cases fault <;> decide
    | usage command => exact errorMark_encode_append (by decide) _
  exact (errorMark_encode_append message _).trans (List.prefix_append _ _)

/-- The listing of the registers begins with the program counter. -/
theorem not_errorMark_listing (m : Machine) : ¬ errorMark <+: m.listing := by
  have begins : (Text.Latin1.encode "PC").head? = some 80 := by decide
  have other : (80 : UInt8) ≠ 101 := by decide
  unfold Machine.listing Registers.mainLine Registers.fields
  rw [List.map_cons, List.map_cons, String.intercalate_cons_cons]
  simp only [String.append_assoc]
  exact not_errorMark_encode_append begins other _

/-- The listing of a clock names the clock first. -/
theorem not_errorMark_clock_listing (clock : Clock) : ¬ errorMark <+: clock.listing := by
  have begins : (Text.Latin1.encode "clock: ").head? = some 99 := by decide
  have other : (99 : UInt8) ≠ 101 := by decide
  unfold Clock.listing
  rw [String.append_assoc, String.append_assoc, String.append_assoc]
  exact not_errorMark_encode_append begins other _

/-- What the operator is told of a clock that was set is not marked as an error. -/
theorem not_errorMark_notice (limits : ClockLimits) (hz : Float) (m : Machine) (clock : Clock) :
    ¬ errorMark <+: limits.notice hz m ++ clock.listing := by
  unfold ClockLimits.notice
  split
  · intro marked
    have head := head?_of_errorMark marked
    have begins : (Text.Latin1.encode
        "clock: disabling bus tracing for high speed\r\n").head? = some 99 := by decide
    rw [List.head?_append, begins, Option.some_or] at head
    exact absurd (Option.some.inj head) (by decide)
  · rw [List.nil_append]
    exact not_errorMark_clock_listing clock

namespace Interpreter

/-- The requests that cannot be carried out. -/
inductive Denies (interpreter : Interpreter) (around : Bench) : Request → Prop where
  /-- There is no image of the ROM. -/
  | romMissing {kind : Rom} (missing : interpreter.roms.image kind = none) :
    Denies interpreter around (.loadRom kind)
  /-- The image of the ROM runs past the top of memory. -/
  | romOverrun {kind : Rom} {image : Array UInt8} (there : interpreter.roms.image kind = some image)
    (overrun : Memory.fits kind.address image.size = false) :
    Denies interpreter around (.loadRom kind)
  /-- The file cannot be read. -/
  | fileUnreadable {name : String} {address start : UInt16} {cause : ReadFault}
    (unreadable : around.file name = .error cause) :
    Denies interpreter around (.loadFile name address start)
  /-- The file runs past the top of memory. -/
  | fileOverrun {name : String} {address start : UInt16} {image : Array UInt8}
    (readable : around.file name = .ok image) (overrun : Memory.fits address image.size = false) :
    Denies interpreter around (.loadFile name address start)

/-- The commands that are refused. -/
inductive Refuses (interpreter : Interpreter) (around : Bench) : Command → Prop where
  /-- The verb is in no table. -/
  | unknownVerb (verb : String) : Refuses interpreter around (.unknown verb)
  /-- The arguments are faulty. -/
  | faultyArguments (name : String) (arguments : List String) (fault : ArgumentFault) :
    Refuses interpreter around (.ask name arguments (.error fault))
  /-- What is asked for cannot be carried out. -/
  | denied (name : String) (arguments : List String) {request : Request}
    (denies : interpreter.Denies around request) :
    Refuses interpreter around (.ask name arguments (.ok request))

variable {interpreter : Interpreter} {around : Bench} {m : Machine}

/-- A ROM is denied exactly when no image of it can be loaded. -/
theorem denies_loadRom_iff {kind : Rom} :
    interpreter.Denies around (.loadRom kind) ↔ interpreter.rom? kind = none := by
  constructor
  · intro denies
    cases denies with
    | romMissing missing => simp [rom?, missing]
    | romOverrun there overrun => simp [rom?, there, overrun]
  · intro absent
    cases there : interpreter.roms.image kind with
    | none => exact .romMissing there
    | some image => exact .romOverrun there (by simpa [rom?, there] using absent)

/-- A file is denied exactly when it holds no program for the address. -/
theorem denies_loadFile_iff {name : String} {address start : UInt16} :
    interpreter.Denies around (.loadFile name address start) ↔
      around.program? name address = none := by
  constructor
  · intro denies
    cases denies with
    | fileUnreadable unreadable => simp [Bench.program?, unreadable]
    | fileOverrun readable overrun => simp [Bench.program?, readable, overrun]
  · intro absent
    cases read : around.file name with
    | error cause => exact .fileUnreadable read
    | ok image => exact .fileOverrun read (by simpa [Bench.program?, read] using absent)

/-- A denied request leaves the machine as it was. -/
theorem after_of_denies {request : Request} (denies : interpreter.Denies around request) :
    interpreter.after around m request = m := by
  cases request with
  | loadRom kind =>
    dsimp only [after]
    rw [denies_loadRom_iff.mp denies]
  | loadFile name address start =>
    dsimp only [after]
    rw [denies_loadFile_iff.mp denies]
  | showRegisters => cases denies
  | clock asked => cases denies
  | reset => cases denies
  | trace level => cases denies

/-- The text that tells of a loaded ROM is not marked as an error. -/
theorem not_errorMark_romLoaded (kind : Rom) :
    ¬ errorMark <+: Text.Latin1.encode (romLoaded kind) := by
  cases kind <;> decide

/-- What the operator is told of a ROM is marked exactly when the ROM is denied. -/
theorem errorMark_romAnswer_iff {kind : Rom} :
    errorMark <+: Text.Latin1.encode (interpreter.romAnswer kind) ↔
      interpreter.Denies around (.loadRom kind) := by
  have begins : errorMark <+: Text.Latin1.encode "error: loadrom: " := by decide
  rw [denies_loadRom_iff]
  unfold romAnswer rom?
  cases interpreter.roms.image kind with
  | none =>
    constructor
    · intro _
      rfl
    · intro _
      rw [String.append_assoc]
      exact errorMark_encode_append begins _
  | some image =>
    dsimp only
    cases Memory.fits kind.address image.size with
    | true =>
      constructor
      · intro marked
        exact absurd marked (not_errorMark_romLoaded kind)
      · intro absent
        simp at absent
    | false =>
      constructor
      · intro _
        rfl
      · intro _
        rw [if_neg Bool.false_ne_true, String.append_assoc]
        exact errorMark_encode_append begins _

/-- What the operator is told of a file is marked exactly when the file is denied. -/
theorem errorMark_fileAnswer_iff {name : String} {address start : UInt16} :
    errorMark <+: Text.Latin1.encode (around.fileAnswer name address start) ↔
      interpreter.Denies around (.loadFile name address start) := by
  have begins : errorMark <+: Text.Latin1.encode "error: loadfile: " := by decide
  have elsewhere : (Text.Latin1.encode "loadfile: ").head? = some 108 := by decide
  rw [denies_loadFile_iff]
  unfold Bench.fileAnswer Bench.program?
  cases around.file name with
  | error cause =>
    dsimp only
    constructor
    · intro _
      rfl
    · intro _
      rw [String.append_assoc]
      exact errorMark_encode_append begins _
  | ok image =>
    dsimp only
    cases Memory.fits address image.size with
    | true =>
      constructor
      · intro marked
        rw [if_pos rfl] at marked
        simp only [String.append_assoc] at marked
        exact absurd marked (not_errorMark_encode_append elsewhere (by decide) _)
      · intro absent
        simp at absent
    | false =>
      constructor
      · intro _
        rfl
      · intro _
        rw [if_neg Bool.false_ne_true, String.append_assoc]
        exact errorMark_encode_append begins _

/-- A request is answered with an error exactly when it is denied. -/
theorem errorMark_answer_iff (request : Request) :
    errorMark <+: interpreter.answer around m request ↔ interpreter.Denies around request := by
  have quiet : ¬ errorMark <+: ([] : List UInt8) := by decide
  cases request with
  | loadRom kind => exact errorMark_romAnswer_iff
  | loadFile name address start => exact errorMark_fileAnswer_iff
  | showRegisters =>
    exact iff_of_false (not_errorMark_listing m) (fun denies => by cases denies)
  | reset => exact iff_of_false quiet (fun denies => by cases denies)
  | trace level => exact iff_of_false quiet (fun denies => by cases denies)
  | clock asked =>
    refine iff_of_false ?_ (fun denies => by cases denies)
    dsimp only [answer]
    cases asked.frequency? interpreter.limits with
    | none => exact not_errorMark_clock_listing m.clock
    | some hz => exact not_errorMark_notice interpreter.limits hz m _

/-- A command is answered with an error exactly when it is refused. -/
theorem errorMark_answerCommand_iff (command : Command) :
    errorMark <+: interpreter.answerCommand around m command ↔
      interpreter.Refuses around command := by
  have quiet : ¬ errorMark <+: ([] : List UInt8) := by decide
  cases command with
  | blank => exact iff_of_false quiet (fun refuses => by cases refuses)
  | leave name => exact iff_of_false quiet (fun refuses => by cases refuses)
  | unknown verb =>
    have begins : errorMark <+: Text.Latin1.encode "error: unknown command \"" := by decide
    refine iff_of_true ?_ (.unknownVerb verb)
    dsimp only [answerCommand]
    rw [String.append_assoc]
    exact errorMark_encode_append begins _
  | ask name arguments request =>
    cases request with
    | error fault =>
      exact iff_of_true (errorMark_complaint fault) (.faultyArguments name arguments fault)
    | ok request =>
      constructor
      · intro marked
        exact .denied name arguments ((errorMark_answer_iff request).mp marked)
      · intro refuses
        cases refuses with
        | denied _ _ denies => exact (errorMark_answer_iff request).mpr denies

/-- A refused command leaves the machine as it was. -/
theorem afterCommand_of_refuses {command : Command} (refuses : interpreter.Refuses around command) :
    interpreter.afterCommand around m command = m := by
  cases refuses with
  | unknownVerb verb => rfl
  | faultyArguments name arguments fault => rfl
  | denied name arguments denies => exact after_of_denies denies

/-- A refused command lets the session go on. -/
theorem goesOn_of_refuses {command : Command} (refuses : interpreter.Refuses around command) :
    command.goesOn = true := by
  cases refuses <;> rfl

/-- What a line writes begins like an error exactly when its command is refused, and then the
session goes on with every part of the machine as it was. -/
theorem execute_refused (interpreter : Interpreter) (line : String) (around : Bench)
    (m : Machine) :
    (errorMark <+: Event.written (interpreter.execute line around m).events ↔
      interpreter.Refuses around (Command.ofLine line)) ∧
    (errorMark <+: Event.written (interpreter.execute line around m).events →
      (interpreter.execute line around m).value = true ∧
        (interpreter.execute line around m).machine = m) := by
  have told : errorMark <+: Event.written (interpreter.execute line around m).events ↔
      interpreter.Refuses around (Command.ofLine line) := by
    unfold execute
    rw [written_run]
    exact errorMark_answerCommand_iff (Command.ofLine line)
  refine ⟨told, fun marked => ?_⟩
  have refuses := told.mp marked
  unfold execute
  rw [run_value, run_machine]
  exact ⟨goesOn_of_refuses refuses, afterCommand_of_refuses refuses⟩

/-- A file that was read and then found to run past the top of memory is such a line. -/
theorem execute_refused_overrun :
    let around : Bench := { disk := fun _ => .ok #[1, 2], directory := "sd" }
    let outcome := ({} : Interpreter).execute "loadfile BIG.BIN ffff 0" around .powerOn
    errorMark <+: Event.written outcome.events ∧ outcome.value = true ∧
      outcome.machine = .powerOn := by
  intro around outcome
  have readable : around.file "BIG.BIN" = .ok #[1, 2] := rfl
  have overrun : ({} : Interpreter).Denies around (.loadFile "BIG.BIN" 0xffff 0) :=
    .fileOverrun readable (by decide)
  have read : Command.ofLine "loadfile BIG.BIN ffff 0" =
      .ask "loadfile" ["BIG.BIN", "ffff", "0"] (.ok (.loadFile "BIG.BIN" 0xffff 0)) := rfl
  have refuses : ({} : Interpreter).Refuses around (Command.ofLine "loadfile BIG.BIN ffff 0") := by
    rw [read]
    exact .denied _ _ overrun
  have refused := execute_refused {} "loadfile BIG.BIN ffff 0" around .powerOn
  have marked := refused.1.mpr refuses
  exact ⟨marked, refused.2 marked⟩

end Interpreter

end BoardSupervisor
