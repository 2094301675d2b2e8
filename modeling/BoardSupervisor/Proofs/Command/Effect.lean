import BoardSupervisor.Command.Interpreter

/-!
# What requests leave behind

Each operation on the board is summed up once: the machine it leaves and the bytes it writes, as
plain functions of the machine it finds. A request is then summed up by two functions of its own,
and a command by the request in it. The rest of the theory reads commands through these functions
and opens no action again. The records of the log are left out, since nothing reads them back.
-/

namespace BoardSupervisor

namespace Event

variable (events : List Event)

/-- Nothing is written where nothing happens. -/
@[simp] theorem written_nil : written [] = [] := rfl

/-- Bytes that are written come before all that is written later. -/
@[simp] theorem written_wrote (bytes : List UInt8) :
    written (.wrote bytes :: events) = bytes ++ written events := by
  unfold written
  rw [List.flatMap_cons, Event.bytes]

/-- Asking for an operation writes nothing. -/
@[simp] theorem written_asked (operation : Operation) :
    written (.asked operation :: events) = written events := rfl

/-- A record of the log is not written to the operator. -/
@[simp] theorem written_logged (entry : Log.Record) :
    written (.logged entry :: events) = written events := rfl

end Event

namespace Machine

/-- The machine with tracing switched off if a frequency is too high for it. -/
def withoutFastTrace (limits : ClockLimits) (hz : Float) (m : Machine) : Machine :=
  if limits.forbidTrace hz m then m.setTraceLevel 0 else m

/-- The machine with its clock set, driven by the supervisor while the bus is traced. -/
def atFrequency (hz : Float) (m : Machine) : Machine :=
  m.setClock (if m.needsDriving hz then .supervised hz else .independent hz)

/-- The machine with its trace level set; above zero the supervisor takes over the clock. -/
def atTraceLevel (level : Int) (m : Machine) : Machine :=
  if level > 0 then (m.setTraceLevel level).setClock (.supervised m.clock.hz)
  else m.setTraceLevel level

/-- The bytes in which the registers and the count of cycles are shown. -/
def listing (m : Machine) : List UInt8 :=
  Text.Latin1.encode
    (m.registers.mainLine ++
      (m.registers.alternateLine ++ ("T=" ++ Number.decimal m.cycles ++ "\r\n")))

end Machine

/-- The bytes in which the mode and frequency of a clock are shown. -/
def Clock.listing (clock : Clock) : List UInt8 :=
  Text.Latin1.encode
    ("clock: " ++ clock.mode.name ++ " " ++ Frequency.display clock.hz ++ "\r\n")

/-- What the operator is told when a frequency is too high for tracing. -/
def ClockLimits.notice (limits : ClockLimits) (hz : Float) (m : Machine) : List UInt8 :=
  if limits.forbidTrace hz m then
    Text.Latin1.encode "clock: disabling bus tracing for high speed\r\n"
  else []

/-- What the disk answers when a file of the machine's directory is asked for. -/
def Bench.file (around : Bench) (name : String) : Except ReadFault (Array UInt8) :=
  around.disk (Path.join around.directory name)

namespace Act

variable (around : Bench) (m : Machine)

/-- What is written when a message is sent. -/
theorem written_tell (message : Text.Message) :
    Event.written (tell message around m).events = Text.Latin1.encode message.text := by
  rw [tell_apply, Event.written_wrote, Event.written_nil, List.append_nil]

/-- What is written when a text is reported. -/
theorem written_report (text : String) :
    Event.written (report text around m).events = Text.Latin1.encode text :=
  written_tell around m (.composed text)

/-- What is written when the clock is shown. -/
theorem written_reportClock : Event.written (reportClock around m).events = m.clock.listing := by
  unfold reportClock Clock.listing
  rw [bind_apply, machine_apply, Event.written_append, Event.written_nil, List.nil_append]
  exact written_report around m _

/-- Writing texts keeps the machine. -/
theorem forM_report_machine (lines : List String) :
    (lines.forM report around m).machine = m := by
  induction lines with
  | nil => rfl
  | cons line rest ih =>
    change ((report line >>= fun _ => rest.forM report) around m).machine = m
    rw [bind_apply, report_apply]
    exact ih

/-- The bytes of several texts written one after the other. -/
theorem written_forM_report (lines : List String) :
    Event.written (lines.forM report around m).events = lines.flatMap Text.Latin1.encode := by
  induction lines with
  | nil => rfl
  | cons line rest ih =>
    change Event.written ((report line >>= fun _ => rest.forM report) around m).events = _
    rw [bind_apply, report_apply, Event.written_append, List.flatMap_cons]
    simp only [Event.written_wrote, Event.written_nil, List.append_nil, ih]

/-- Showing the registers keeps the machine. -/
theorem showRegisters_machine : (showRegisters around m).machine = m := by
  simp only [showRegisters, bind_apply, machine_apply, report_apply, forM_report_machine]

/-- What is written when the registers are shown. -/
theorem written_showRegisters :
    Event.written (showRegisters around m).events = m.listing := by
  unfold showRegisters
  simp only [bind_apply, machine_apply]
  rw [Event.written_append, Event.written_append, Event.written_nil, List.nil_append,
    written_forM_report, written_report, Registers.dump, List.flatMap_cons, List.flatMap_cons,
    List.flatMap_nil, List.append_nil, Machine.listing,
    Text.Latin1.encode_append m.registers.mainLine,
    Text.Latin1.encode_append m.registers.alternateLine, List.append_assoc]

/-- Tracing is given up exactly when the frequency asks for it. -/
theorem giveUpTrace_machine (limits : ClockLimits) (hz : Float) :
    (giveUpTrace limits hz around m).machine = m.withoutFastTrace limits hz := by
  unfold giveUpTrace Machine.withoutFastTrace
  rw [bind_apply, machine_apply, ite_apply]
  split <;> rfl

/-- The operator is told exactly when tracing is given up. -/
theorem written_giveUpTrace (limits : ClockLimits) (hz : Float) :
    Event.written (giveUpTrace limits hz around m).events = limits.notice hz m := by
  unfold giveUpTrace ClockLimits.notice
  rw [bind_apply, machine_apply, ite_apply]
  split
  · rw [bind_apply]
    simp only [Event.written_append, written_tell, setTraceLevel_apply, Event.written_asked,
      Event.written_logged, Event.written_nil, List.append_nil]
    rfl
  · rfl

/-- The clock that is set is the one that the trace level calls for. -/
theorem driveClock_machine (hz : Float) :
    (driveClock hz around m).machine = m.atFrequency hz := by
  unfold driveClock Machine.atFrequency
  rw [bind_apply, machine_apply, ite_apply]
  split <;> rfl

/-- Setting the clock writes nothing. -/
theorem written_driveClock (hz : Float) :
    Event.written (driveClock hz around m).events = [] := by
  unfold driveClock
  rw [bind_apply, machine_apply, ite_apply]
  split <;> rfl

/-- A frequency is set after tracing was given up where it has to be. -/
theorem runClockAt_machine (limits : ClockLimits) (hz : Float) :
    (runClockAt limits hz around m).machine = (m.withoutFastTrace limits hz).atFrequency hz := by
  rw [runClockAt, bind_apply]
  dsimp only
  rw [driveClock_machine, giveUpTrace_machine]

/-- Setting a frequency writes no more than the notice. -/
theorem written_runClockAt (limits : ClockLimits) (hz : Float) :
    Event.written (runClockAt limits hz around m).events = limits.notice hz m := by
  rw [runClockAt, bind_apply]
  dsimp only
  rw [Event.written_append, written_giveUpTrace, written_driveClock, List.append_nil]

/-- The machine that a trace request leaves. -/
theorem trace_machine (level : Int) :
    (trace level around m).machine = m.atTraceLevel level := by
  unfold trace Machine.atTraceLevel
  rw [bind_apply, ite_apply]
  split <;> rfl

/-- A trace request writes nothing. -/
theorem written_trace (level : Int) : Event.written (trace level around m).events = [] := by
  unfold trace
  rw [bind_apply, ite_apply]
  split <;> rfl

/-- What the log is told of cycles: one record, if there were any and the bus is traced. -/
def busEvents (counted : Nat) : List Event :=
  if m.tracesBus && counted > 0 then [.logged ⟨.trace, busMessage counted m⟩] else []

/-- The record of the bus is not written to the operator. -/
@[simp] theorem written_busEvents (counted : Nat) : Event.written (busEvents m counted) = [] := by
  unfold busEvents
  split <;> rfl

/-- How telling the log of cycles ends. -/
theorem traceCycles_apply (counted : Nat) :
    traceCycles counted around m = ⟨(), m, busEvents m counted⟩ := by
  unfold traceCycles busEvents
  rw [bind_apply, machine_apply, ite_apply]
  split <;> rfl

/-- How letting time pass ends. -/
theorem advance_apply (elapsed : Duration) :
    advance elapsed around m =
      ⟨(m.advance elapsed).1, (m.advance elapsed).2,
        busEvents (m.advance elapsed).2 (m.advance elapsed).1⟩ := by
  unfold advance
  simp only [bind_apply, transition_apply, traceCycles_apply, pure_apply, List.nil_append,
    List.append_nil]

/-- Letting time pass leaves the machine with the cycles counted. -/
theorem advance_machine (elapsed : Duration) :
    (advance elapsed around m).machine = (m.advance elapsed).2 := by
  rw [advance_apply]

/-- How loading a program image ends. -/
theorem loadProgram_apply (image : Array UInt8) (address start : UInt16) :
    loadProgram image address start around m =
      if Memory.fits address image.size then
        ⟨.ok (), m.load image address start,
          [.asked (.loadProgram image.size address start),
            .logged ⟨.info, loadMessage image.size address start⟩]⟩
      else
        ⟨.error (.overrun address image.size), m,
          [.asked (.loadProgram image.size address start)]⟩ := by
  unfold loadProgram
  rw [bind_apply, ask_apply]
  cases fits : Memory.fits address image.size with
  | true => simp [load_of_fits around m start fits]
  | false => simp [load_of_not_fits around m start fits]

/-- The record that the log gets of a file name. -/
def remark (name : String) : List Event :=
  if ShortName.isShort name then []
  else [.logged ⟨.warn, name ++ ": not an 8.3 file name"⟩]

/-- A remark upon a name is not written to the operator. -/
@[simp] theorem written_remark (name : String) : Event.written (remark name) = [] := by
  unfold remark
  split <;> rfl

/-- Remarking upon a name does nothing else. -/
theorem remarkName_apply (name : String) : remarkName name around m = ⟨(), m, remark name⟩ := by
  unfold remarkName remark
  split <;> rfl

/-- Reading a file is asking the disk for it. -/
theorem readFile_apply (name : String) :
    readFile name around m = ⟨(around.file name).mapError (.unreadable name), m, []⟩ := rfl

/-- How loading a file ends that cannot be read. -/
theorem loadFile_of_unreadable {name : String} {cause : ReadFault} (address start : UInt16)
    (unreadable : around.file name = .error cause) :
    loadFile name address start around m =
      ⟨.error (.unreadable name cause), m,
        .asked (.loadFile name address start) :: remark name⟩ := by
  have read : readFile name around m = ⟨.error (.unreadable name cause), m, []⟩ := by
    rw [readFile_apply, unreadable]
    rfl
  unfold loadFile
  simp only [bind_apply, ask_apply, remarkName_apply, read, pure_apply, List.append_nil,
    List.singleton_append]

/-- How loading a file ends that can be read. -/
theorem loadFile_of_readable {name : String} {image : Array UInt8} (address start : UInt16)
    (readable : around.file name = .ok image) :
    loadFile name address start around m =
      if Memory.fits address image.size then
        ⟨.ok image.size, m.load image address start,
          .asked (.loadFile name address start) :: remark name ++
            [.logged ⟨.info, loadMessage image.size address start⟩]⟩
      else
        ⟨.error (.overrun address image.size), m,
          .asked (.loadFile name address start) :: remark name⟩ := by
  have read : readFile name around m = ⟨.ok image, m, []⟩ := by
    rw [readFile_apply, readable]
    rfl
  unfold loadFile
  simp only [bind_apply, ask_apply, remarkName_apply, read]
  cases fits : Memory.fits address image.size with
  | true =>
    rw [load_of_fits around m start fits, if_pos rfl]
    simp only [pure_apply, List.append_nil, List.nil_append, List.cons_append]
    rfl
  | false =>
    rw [load_of_not_fits around m start fits, if_neg Bool.false_ne_true]
    simp only [pure_apply, List.append_nil, List.singleton_append]
    rfl

end Act

/-- The program that a file name stands for, if the file can be read and fits at an address. -/
def Bench.program? (around : Bench) (name : String) (address : UInt16) : Option (Array UInt8) :=
  match around.file name with
  | .error _ => none
  | .ok image => if Memory.fits address image.size then some image else none

/-- What the operator is told when a file is to be loaded. -/
def Bench.fileAnswer (around : Bench) (name : String) (address start : UInt16) : String :=
  match around.file name with
  | .error cause => "error: loadfile: " ++ (LoadFault.unreadable name cause).message ++ "\r\n"
  | .ok image =>
    if Memory.fits address image.size then
      "loadfile: " ++ Number.decimal image.size ++ " bytes at " ++ Number.hexWord address ++
        ", entry at " ++ Number.hexWord start ++ "\r\n"
    else
      "error: loadfile: " ++ (LoadFault.overrun address image.size).message ++ "\r\n"

namespace Interpreter

variable (interpreter : Interpreter) (around : Bench) (m : Machine)

/-- The ROM image that is loaded when a ROM is asked for, if it is there and fits into memory. -/
def rom? (kind : Rom) : Option (Array UInt8) :=
  match interpreter.roms.image kind with
  | none => none
  | some image => if Memory.fits kind.address image.size then some image else none

/-- What the operator is told when a ROM is to be loaded. -/
def romAnswer (kind : Rom) : String :=
  match interpreter.roms.image kind with
  | none => "error: loadrom: " ++ kind.name ++ " image not available\r\n"
  | some image =>
    if Memory.fits kind.address image.size then romLoaded kind
    else
      "error: loadrom: " ++ (LoadFault.overrun kind.address image.size).message ++ "\r\n"

/-- The machine that a request leaves. -/
def after (request : Request) : Machine :=
  match request with
  | .showRegisters => m
  | .clock asked =>
    match asked.frequency? interpreter.limits with
    | none => m
    | some hz => (m.withoutFastTrace interpreter.limits hz).atFrequency hz
  | .reset => m.reset
  | .loadRom kind =>
    match interpreter.rom? kind with
    | none => m
    | some image => m.load image kind.address kind.start
  | .loadFile name address start =>
    match around.program? name address with
    | none => m
    | some image => m.load image address start
  | .trace level => m.atTraceLevel level

/-- The bytes that a request writes. -/
def answer (request : Request) : List UInt8 :=
  match request with
  | .showRegisters => m.listing
  | .clock asked =>
    match asked.frequency? interpreter.limits with
    | none => m.clock.listing
    | some hz =>
      interpreter.limits.notice hz m ++ (interpreter.after around m (.clock asked)).clock.listing
  | .reset => []
  | .loadRom kind => Text.Latin1.encode (interpreter.romAnswer kind)
  | .loadFile name address start => Text.Latin1.encode (around.fileAnswer name address start)
  | .trace _ => []

/-- An image that is loaded if it fits into memory fits into memory. -/
theorem fits_of_loaded {address : UInt16} {whole image : Array UInt8}
    (found : (if Memory.fits address whole.size then some whole else none) = some image) :
    Memory.fits address image.size = true := by
  split at found
  · next fits =>
    rw [← Option.some.inj found]
    exact fits
  · cases found

/-- The image of a ROM that is loaded fits into memory. -/
theorem fits_of_rom? {kind : Rom} {image : Array UInt8}
    (found : interpreter.rom? kind = some image) :
    Memory.fits kind.address image.size = true := by
  unfold rom? at found
  cases there : interpreter.roms.image kind with
  | none =>
    rw [there] at found
    cases found
  | some whole =>
    rw [there] at found
    exact fits_of_loaded found

/-- The program that a file name stands for fits into memory. -/
theorem fits_of_program? {name : String} {address : UInt16} {image : Array UInt8}
    (found : around.program? name address = some image) :
    Memory.fits address image.size = true := by
  unfold Bench.program? at found
  cases read : around.file name with
  | error cause =>
    rw [read] at found
    cases found
  | ok whole =>
    rw [read] at found
    exact fits_of_loaded found

/-- A request keeps the machine, sets its clock, resets it, loads a program that fits into memory,
or sets its trace level. -/
theorem after_cases (Left : Machine → Prop) (request : Request) (kept : Left m)
    (set : ∀ hz, Left ((m.withoutFastTrace interpreter.limits hz).atFrequency hz))
    (reset : Left m.reset)
    (loaded : ∀ image address start, Memory.fits address image.size = true →
      Left (m.load image address start))
    (traced : ∀ level, request = .trace level → Left (m.atTraceLevel level)) :
    Left (interpreter.after around m request) := by
  cases request with
  | showRegisters => exact kept
  | clock asked =>
    dsimp only [after]
    cases asked.frequency? interpreter.limits with
    | none => exact kept
    | some hz => exact set hz
  | reset => exact reset
  | loadRom kind =>
    dsimp only [after]
    cases found : interpreter.rom? kind with
    | none => exact kept
    | some image =>
      exact loaded image kind.address kind.start (interpreter.fits_of_rom? found)
  | loadFile name address start =>
    dsimp only [after]
    cases found : around.program? name address with
    | none => exact kept
    | some image => exact loaded image address start (fits_of_program? around found)
  | trace level => exact traced level rfl

/-- Requests keep the count of cycles and the queue of the serial port. -/
theorem after_frame (request : Request) :
    (interpreter.after around m request).cycles = m.cycles ∧
      (interpreter.after around m request).serialQueue = m.serialQueue := by
  refine interpreter.after_cases around m
    (fun left => left.cycles = m.cycles ∧ left.serialQueue = m.serialQueue) request
    ⟨rfl, rfl⟩ ?_ ⟨rfl, rfl⟩ ?_ ?_
  · intro hz
    unfold Machine.withoutFastTrace
    split <;> exact ⟨rfl, rfl⟩
  · intro image address start _
    exact ⟨rfl, rfl⟩
  · intro level _
    unfold Machine.atTraceLevel
    split <;> exact ⟨rfl, rfl⟩

/-- Asking for a ROM leaves the machine with its image, or as it was. -/
theorem loadRom_machine (kind : Rom) :
    (interpreter.loadRom kind around m).machine = interpreter.after around m (.loadRom kind) := by
  dsimp only [loadRom, after, rom?]
  cases there : interpreter.roms.image kind with
  | none => rfl
  | some image =>
    dsimp only
    rw [Act.bind_apply, Act.loadProgram_apply]
    cases fits : Memory.fits kind.address image.size <;> rfl

/-- What is written when a ROM is asked for. -/
theorem written_loadRom (kind : Rom) :
    Event.written (interpreter.loadRom kind around m).events =
      interpreter.answer around m (.loadRom kind) := by
  dsimp only [loadRom, answer, romAnswer]
  cases there : interpreter.roms.image kind with
  | none => exact Act.written_report around m _
  | some image =>
    dsimp only
    rw [Act.bind_apply, Act.loadProgram_apply, Event.written_append]
    cases fits : Memory.fits kind.address image.size <;> simp

/-- Asking for a file leaves the machine with its bytes, or as it was. -/
theorem loadFile_machine (name : String) (address start : UInt16) :
    (loadFile name address start around m).machine =
      interpreter.after around m (.loadFile name address start) := by
  dsimp only [loadFile, after, Bench.program?]
  rw [Act.bind_apply]
  cases read : around.file name with
  | error cause =>
    rw [Act.loadFile_of_unreadable around m address start read]
    rfl
  | ok image =>
    rw [Act.loadFile_of_readable around m address start read]
    dsimp only
    cases fits : Memory.fits address image.size <;> rfl

/-- What is written when a file is asked for. -/
theorem written_loadFile (name : String) (address start : UInt16) :
    Event.written (loadFile name address start around m).events =
      interpreter.answer around m (.loadFile name address start) := by
  dsimp only [loadFile, answer, Bench.fileAnswer]
  rw [Act.bind_apply]
  cases read : around.file name with
  | error cause =>
    rw [Act.loadFile_of_unreadable around m address start read]
    simp
  | ok image =>
    rw [Act.loadFile_of_readable around m address start read]
    dsimp only
    cases fits : Memory.fits address image.size <;> simp

/-- Carrying out a request leaves the machine that it is summed up by. -/
theorem perform_machine (request : Request) :
    (interpreter.perform request around m).machine = interpreter.after around m request := by
  cases request with
  | showRegisters => exact Act.showRegisters_machine around m
  | clock asked =>
    dsimp only [perform, Act.clock, after]
    cases wanted : asked.frequency? interpreter.limits with
    | none => rfl
    | some hz => exact Act.runClockAt_machine around m interpreter.limits hz
  | reset => rfl
  | loadRom kind => exact interpreter.loadRom_machine around m kind
  | loadFile name address start => exact interpreter.loadFile_machine around m name address start
  | trace level => exact Act.trace_machine around m level

/-- Carrying out a request writes the bytes that it is summed up by. -/
theorem written_perform (request : Request) :
    Event.written (interpreter.perform request around m).events =
      interpreter.answer around m request := by
  cases request with
  | showRegisters => exact Act.written_showRegisters around m
  | clock asked =>
    dsimp only [perform, Act.clock, answer, after]
    cases wanted : asked.frequency? interpreter.limits with
    | none => exact Act.written_reportClock around m
    | some hz =>
      dsimp only
      rw [Act.bind_apply, Event.written_append, Act.written_runClockAt, Act.written_reportClock,
        Act.runClockAt_machine]
  | reset => rfl
  | loadRom kind => exact interpreter.written_loadRom around m kind
  | loadFile name address start => exact interpreter.written_loadFile around m name address start
  | trace level => exact Act.written_trace around m level

end Interpreter

/-- The request in a command, if its arguments have been understood. -/
def Command.request? : Command → Option Request
  | .ask _ _ (.ok request) => some request
  | _ => none

/-- Whether a command lets the session go on. -/
def Command.goesOn : Command → Bool
  | .leave _ => false
  | _ => true

/-- The bytes in which the operator is told of a fault. -/
def ArgumentFault.complaint (fault : ArgumentFault) : List UInt8 :=
  fault.lines.flatMap fun line => Text.Latin1.encode (line ++ "\r\n")

namespace Interpreter

variable (interpreter : Interpreter) (around : Bench) (m : Machine)

/-- The machine that a command leaves. -/
def afterCommand (command : Command) : Machine :=
  match command.request? with
  | none => m
  | some request => interpreter.after around m request

/-- The bytes that a command writes. -/
def answerCommand : Command → List UInt8
  | .blank => []
  | .unknown verb => Text.Latin1.encode ("error: unknown command \"" ++ verb ++ "\"\r\n")
  | .leave _ => []
  | .ask _ _ (.error fault) => fault.complaint
  | .ask _ _ (.ok request) => interpreter.answer around m request

/-- A complaint about arguments is written line by line. -/
theorem written_complain (fault : ArgumentFault) :
    Event.written (Act.complain fault around m).events = fault.complaint := by
  unfold Act.complain ArgumentFault.complaint
  induction fault.lines with
  | nil => rfl
  | cons line rest ih =>
    rw [List.flatMap_cons, ← ih]
    rfl

/-- A complaint about arguments keeps the machine. -/
theorem complain_machine (fault : ArgumentFault) : (Act.complain fault around m).machine = m := by
  unfold Act.complain
  induction fault.lines with
  | nil => rfl
  | cons line rest ih => exact ih

/-- Carrying out a command leaves the machine that its request leaves. -/
theorem run_machine (command : Command) :
    (interpreter.run command around m).machine = interpreter.afterCommand around m command := by
  cases command with
  | blank => rfl
  | unknown verb => rfl
  | leave name => rfl
  | ask name arguments request =>
    cases request with
    | error fault => exact complain_machine around m fault
    | ok request => exact interpreter.perform_machine around m request

/-- Carrying out a command writes the bytes that it is summed up by. -/
theorem written_run (command : Command) :
    Event.written (interpreter.run command around m).events =
      interpreter.answerCommand around m command := by
  cases command with
  | blank => rfl
  | unknown verb =>
    dsimp only [run, answerCommand]
    rw [Act.bind_apply, Event.written_append, Act.written_report]
    exact List.append_nil _
  | leave name => rfl
  | ask name arguments request =>
    dsimp only [run]
    rw [Act.bind_apply, Act.bind_apply, Event.written_append, Event.written_append]
    simp only [Act.log_apply, Act.pure_apply, Event.written_logged, Event.written_nil,
      List.nil_append, List.append_nil]
    cases request with
    | error fault => exact written_complain around m fault
    | ok request => exact interpreter.written_perform around m request

/-- A command is answered by whether the session goes on. -/
theorem run_value (command : Command) :
    (interpreter.run command around m).value = command.goesOn := by
  cases command <;> rfl

end Interpreter

end BoardSupervisor
