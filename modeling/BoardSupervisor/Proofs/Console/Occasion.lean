import BoardSupervisor.Proofs.Command.Refusal
import BoardSupervisor.Proofs.Console.Answer

/-!
# Runs with a hand on the machine

A program that holds the machine can work it directly, past the supervisor. A life of the board is
any list of stimuli and such interventions, in any order, each with what the board has around it at
the time.

Whatever happens bears on the program in memory in one of three ways: it loads one, it resets the
processor, or it is about something else. A load through the supervisor, by a line or by typed
bytes, and a load past it are the same load: they end in the same machine, and both are reported as
a success under the same condition.
-/

namespace BoardSupervisor

/-- Where the image of a program comes from. -/
inductive Source where
  /-- It is handed to the board. -/
  | handed (image : Array UInt8)
  /-- It is the image of a ROM. -/
  | rom (kind : Rom)
  /-- It is read from the file of a name. -/
  | file (name : String)

/-- The image that a source gives, if it is there. -/
def Source.image? (roms : RomImages) (around : Bench) : Source → Option (Array UInt8)
  | .handed image => some image
  | .rom kind => roms.image kind
  | .file name => (around.file name).toOption

/-- A program that is to be loaded. -/
structure Load where
  /-- Where its image comes from. -/
  source : Source
  /-- The address that the image is copied in at. -/
  address : UInt16
  /-- The address that the program starts at. -/
  start : UInt16

namespace Load

variable (load : Load) (roms : RomImages) (around : Bench) (m : Machine)

/-- The image that is copied in, if it is there and fits into memory. -/
def image? : Option (Array UInt8) :=
  (load.source.image? roms around).filter fun image => Memory.fits load.address image.size

/-- The machine that a load leaves. -/
def after : Machine :=
  match load.image? roms around with
  | none => m
  | some image => m.load image load.address load.start

/-- An image handed to the board is copied in if it fits into memory. -/
theorem image?_handed (image : Array UInt8) (address start : UInt16) :
    image? ⟨.handed image, address, start⟩ roms around =
      if Memory.fits address image.size then some image else none := rfl

/-- The program that a file name stands for is copied in. -/
theorem image?_file (name : String) (address start : UInt16) :
    image? ⟨.file name, address, start⟩ roms around = around.program? name address := by
  dsimp only [Bench.program?, image?, Source.image?]
  cases around.file name <;> rfl

end Load

/-- What something that happens means for the program in memory. -/
inductive Bearing where
  /-- Nothing. -/
  | none
  /-- The processor is reset. -/
  | reset
  /-- A program is to be loaded. -/
  | load (load : Load)

/-- Whether a machine is what something leaves that bears on the program in memory. -/
def Bearing.Leaves (roms : RomImages) (around : Bench) (m left : Machine) : Bearing → Prop
  | .none => left.memory = m.memory ∧ left.registers = m.registers
  | .reset => left = m.reset
  | .load wanted => left = wanted.after roms around m

/-- What a request means for the program in memory. -/
def Request.bearing : Request → Bearing
  | .reset => .reset
  | .loadRom kind => .load ⟨.rom kind, kind.address, kind.start⟩
  | .loadFile name address start => .load ⟨.file name, address, start⟩
  | _ => .none

/-- What a deed means for the program in memory. -/
def Deed.bearing : Deed → Bearing
  | .request asked => asked.bearing
  | _ => .none

namespace Interpreter

variable (interpreter : Interpreter) (around : Bench) (m : Machine)

end Interpreter

/-- Something done to the machine directly, past the supervisor. -/
inductive Intervention where
  /-- The reset line is pulled. -/
  | reset
  /-- The clock is set to run on its own at a frequency. -/
  | setIndependent (hz : Float)
  /-- The clock is set to be driven at a frequency. -/
  | setSupervised (hz : Float)
  /-- The trace level is set. -/
  | setTraceLevel (level : Int)
  /-- An image is loaded at an address, to start at another. -/
  | loadProgram (image : Array UInt8) (address start : UInt16)
  /-- The file of a name is loaded at an address, to start at another. -/
  | loadFile (name : String) (address start : UInt16)
  /-- A byte is sent to the serial port. -/
  | sendSerial (byte : UInt8)

namespace Intervention

/-- The action that an intervention is; its value says why it failed if it did. -/
def act : Intervention → Act (Except LoadFault Unit)
  | .reset => .ok <$> Act.reset
  | .setIndependent hz => .ok <$> Act.setIndependent hz
  | .setSupervised hz => .ok <$> Act.setSupervised hz
  | .setTraceLevel level => .ok <$> Act.setTraceLevel level
  | .loadProgram image address start => Act.loadProgram image address start
  | .loadFile name address start => (·.map fun _ => ()) <$> Act.loadFile name address start
  | .sendSerial byte => .ok <$> Act.sendSerial byte

/-- What an intervention means for the program in memory. -/
def bearing : Intervention → Bearing
  | .reset => .reset
  | .loadProgram image address start => .load ⟨.handed image, address, start⟩
  | .loadFile name address start => .load ⟨.file name, address, start⟩
  | _ => .none

variable (roms : RomImages) (around : Bench) (m : Machine)

/-- How an intervention ends that loads a program. -/
theorem act_of_load {intervention : Intervention} {load : Load}
    (asks : intervention.bearing = .load load) :
    (intervention.act around m).machine = load.after roms around m ∧
      (intervention.act around m).value.isOk = (load.image? roms around).isSome := by
  cases intervention with
  | loadProgram image address start =>
    cases asks
    dsimp only [act, Load.after]
    rw [Act.loadProgram_apply, Load.image?_handed]
    cases Memory.fits address image.size <;> exact ⟨rfl, rfl⟩
  | loadFile name address start =>
    cases asks
    dsimp only [act, Load.after]
    rw [Act.map_apply, Load.image?_file]
    unfold Bench.program?
    cases read : around.file name with
    | error cause =>
      rw [Act.loadFile_of_unreadable around m address start read]
      exact ⟨rfl, rfl⟩
    | ok image =>
      rw [Act.loadFile_of_readable around m address start read]
      dsimp only
      cases Memory.fits address image.size <;> exact ⟨rfl, rfl⟩
  | reset => cases asks
  | setIndependent hz => cases asks
  | setSupervised hz => cases asks
  | setTraceLevel level => cases asks
  | sendSerial byte => cases asks

end Intervention

/-- Something that happens at the board. -/
inductive Happening where
  /-- A stimulus reaches the board. -/
  | stimulus (stimulus : Stimulus)
  /-- Something is done to the machine directly. -/
  | intervention (intervention : Intervention)

/-- Something that happens at the board, with what the board has around it at the time. -/
structure Occasion where
  /-- What the board has around it. -/
  around : Bench
  /-- What happens. -/
  happening : Happening

namespace Scene

variable (scene : Scene)

/-- The scene after an occasion. -/
def occur : Occasion → Scene
  | ⟨around, .stimulus stimulus⟩ => scene.next ⟨around, stimulus⟩
  | ⟨around, .intervention intervention⟩ =>
    ⟨scene.console, (intervention.act around scene.machine).machine⟩

/-- The scene after a life of the board. -/
def live (occasions : List Occasion) : Scene := occasions.foldl occur scene

/-- Whether no failure is reported on an occasion: an intervention says so itself, and what is
written upon a stimulus begins with the mark of errors if it fails, after the end of a typed
line. -/
def succeeds : Occasion → Bool
  | ⟨around, .stimulus stimulus⟩ =>
    !(stimulus.lead ++ errorMark).isPrefixOf (scene.written ⟨around, stimulus⟩)
  | ⟨around, .intervention intervention⟩ => (intervention.act around scene.machine).value.isOk

/-- What an occasion means for the program in memory. -/
def bearing : Occasion → Bearing
  | ⟨around, .stimulus stimulus⟩ => (scene.deed ⟨around, stimulus⟩).bearing
  | ⟨_, .intervention intervention⟩ => intervention.bearing

end Scene

end BoardSupervisor
