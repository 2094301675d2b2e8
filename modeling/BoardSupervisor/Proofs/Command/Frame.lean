import BoardSupervisor.Proofs.Command.Effect

/-!
# What a command leaves alone

Each verb has its own part of the machine. The clock command works on the clock and the trace level,
the trace command on the same but for the frequency, a reset on the registers, and a load on the
program counter and the cells that its image covers. All else is as it was, and so is the whole
machine where a line is blank, its verb is unknown, or nothing is there to be loaded. The count of
cycles and the queue of the serial port belong to no verb.

A request is followed through the machine once, by the verb that it comes from; a line either has
such a request or leaves the machine as it was.
-/

namespace BoardSupervisor

/-- The verb of a command line, if its first token is in the table. -/
def Verb.ofLine? (line : String) : Option Verb :=
  ((Text.tokens line).head?.bind lookup?).map (·.verb)

/-- A machine differs from an earlier one in nothing but the program counter and the cells from an
address up to the address plus a length. -/
structure Machine.WrittenOver (m left : Machine) (address : UInt16) (length : Nat) : Prop where
  /-- All but the memory and the program counter is as it was. -/
  rest : left =
    { m with
      memory := left.memory
      registers := { m.registers with pc := left.registers.pc } }
  /-- The cells elsewhere hold what they held. -/
  elsewhere : ∀ cell : Fin 65536,
    cell.val < address.toNat ∨ address.toNat + length ≤ cell.val →
      left.memory.get cell = m.memory.get cell

/-- Loading a program writes over the cells of its image. -/
theorem Machine.load_writtenOver (m : Machine) (image : Array UInt8) (address start : UInt16) :
    m.WrittenOver (m.load image address start) address image.size where
  rest := rfl
  elsewhere := by
    intro cell outside
    exact Memory.get_store_outside m.memory outside

/-- Whether a machine may be what a command with a verb leaves of another: all that is not the
verb's own is as it was. A program that the command loads is given by its address and its image. -/
def Verb.Permits (loaded : Option (UInt16 × Array UInt8)) (m left : Machine) : Verb → Prop
  | .leave => left = m
  | .registers => left = m
  | .clock => left = { m with clock := left.clock, traceLevel := left.traceLevel }
  | .trace =>
    left = { m with clock := { left.clock with hz := m.clock.hz }, traceLevel := left.traceLevel }
  | .reset => left = { m with registers := .powerOn }
  | .loadRom | .loadFile =>
    match loaded with
    | none => left = m
    | some (address, image) => m.WrittenOver left address image.size

/-- Every verb but that of the reset may leave the machine as it was. -/
theorem Verb.permits_unchanged {verb : Verb} (other : verb ≠ .reset) (m : Machine) :
    verb.Permits none m m := by
  cases verb with
  | reset => exact absurd rfl other
  | leave => rfl
  | registers => rfl
  | clock => rfl
  | loadRom => rfl
  | loadFile => rfl
  | trace => rfl

/-- The verb that a request comes from. -/
def Request.verb : Request → Verb
  | .showRegisters => .registers
  | .clock _ => .clock
  | .reset => .reset
  | .loadRom _ => .loadRom
  | .loadFile _ _ _ => .loadFile
  | .trace _ => .trace

/-- A request comes from the verb that it was read with. -/
theorem Command.verb_of_request? {entry : Verb.Named} {arguments : List String} {request : Request}
    (asks : (ofVerb entry arguments).request? = some request) : request.verb = entry.verb := by
  unfold ofVerb at asks
  cases verb : entry.verb with
  | leave =>
    rw [verb] at asks
    cases asks
  | registers =>
    rw [verb] at asks
    cases asks
    rfl
  | reset =>
    rw [verb] at asks
    cases asks
    rfl
  | clock =>
    rw [verb] at asks
    cases read : ClockRequest.ofArguments arguments <;> rw [read] at asks <;> cases asks
    rfl
  | loadRom =>
    rw [verb] at asks
    cases read : romOfArguments arguments <;> rw [read] at asks <;> cases asks
    rfl
  | trace =>
    rw [verb] at asks
    cases read : traceLevelOfArguments arguments <;> rw [read] at asks <;> cases asks
    rfl
  | loadFile =>
    rw [verb] at asks
    dsimp only at asks
    unfold Request.ofFileArguments at asks
    split at asks <;> cases asks
    rfl

/-- The verb of the reset asks for a reset, whatever its arguments are. -/
theorem Command.verb_ne_reset_of_request? {entry : Verb.Named} {arguments : List String}
    (idle : (ofVerb entry arguments).request? = none) : entry.verb ≠ .reset := by
  intro verb
  unfold ofVerb at idle
  rw [verb] at idle
  cases idle

namespace Interpreter

variable (interpreter : Interpreter) (around : Bench) (m : Machine)

/-- The address and the image of the program that a request loads, if it loads one. -/
def loaded? : Request → Option (UInt16 × Array UInt8)
  | .loadRom kind => (interpreter.rom? kind).map fun image => (kind.address, image)
  | .loadFile name address _ => (around.program? name address).map fun image => (address, image)
  | _ => none

/-- A request touches nothing but what its verb permits. -/
theorem after_permitted (request : Request) :
    request.verb.Permits (interpreter.loaded? around request) m
      (interpreter.after around m request) := by
  cases request with
  | showRegisters => rfl
  | clock asked =>
    dsimp only [Request.verb, Verb.Permits, after]
    cases asked.frequency? interpreter.limits with
    | none => rfl
    | some hz =>
      dsimp only [Machine.withoutFastTrace]
      split <;> rfl
  | reset => rfl
  | loadRom kind =>
    dsimp only [Request.verb, Verb.Permits, loaded?, after]
    cases interpreter.rom? kind with
    | none => rfl
    | some image => exact m.load_writtenOver image kind.address kind.start
  | loadFile name address start =>
    dsimp only [Request.verb, Verb.Permits, loaded?, after]
    cases around.program? name address with
    | none => rfl
    | some image => exact m.load_writtenOver image address start
  | trace level =>
    dsimp only [Request.verb, Verb.Permits, after, Machine.atTraceLevel]
    split <;> rfl

/-- A command touches nothing but what its verb permits. -/
theorem afterCommand_permitted (entry : Verb.Named) (arguments : List String) :
    entry.verb.Permits
      ((Command.ofVerb entry arguments).request?.bind (interpreter.loaded? around)) m
      (interpreter.afterCommand around m (Command.ofVerb entry arguments)) := by
  unfold afterCommand
  cases asks : (Command.ofVerb entry arguments).request? with
  | none => exact Verb.permits_unchanged (Command.verb_ne_reset_of_request? asks) m
  | some request =>
    rw [← Command.verb_of_request? asks]
    exact interpreter.after_permitted around m request

/-- A command keeps the count of cycles and the queue of the serial port. -/
theorem afterCommand_frame (command : Command) :
    (interpreter.afterCommand around m command).cycles = m.cycles ∧
      (interpreter.afterCommand around m command).serialQueue = m.serialQueue := by
  unfold afterCommand
  cases command.request? with
  | none => exact ⟨rfl, rfl⟩
  | some request => exact interpreter.after_frame around m request

/-- Whatever the line, the machine and what is around it: a line that is blank or whose verb is
unknown changes nothing, any other nothing but what its verb permits, and none of them the count of
cycles or the queue of the serial port. -/
theorem execute_frame (line : String) :
    let left := (interpreter.execute line around m).machine
    (match Verb.ofLine? line with
      | none => left = m
      | some verb =>
        verb.Permits ((Command.ofLine line).request?.bind (interpreter.loaded? around)) m left) ∧
      left.cycles = m.cycles ∧ left.serialQueue = m.serialQueue := by
  intro left
  have left_eq : left = interpreter.afterCommand around m (Command.ofLine line) :=
    interpreter.run_machine around m (Command.ofLine line)
  rw [left_eq]
  refine ⟨?_, interpreter.afterCommand_frame around m (Command.ofLine line)⟩
  unfold Verb.ofLine? Command.ofLine
  cases Text.tokens line with
  | nil => rfl
  | cons verb arguments =>
    dsimp only [Command.ofTokens, List.head?_cons, Option.bind_some]
    cases Verb.lookup? verb with
    | none => rfl
    | some entry => exact interpreter.afterCommand_permitted around m entry arguments

end Interpreter

end BoardSupervisor
