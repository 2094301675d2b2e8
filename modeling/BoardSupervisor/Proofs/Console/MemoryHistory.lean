import BoardSupervisor.Proofs.Console.Occasion

/-!
# Memory as the history of loads

What is in memory can be told from what was reported. The marks of a life are its resets and the
programs whose loads were reported as successes, the oldest first. A cell of memory holds the byte
that the latest of these programs to cover it has there, or zero where none covers it; the program
counter is at the start of the latest program, or at zero if a reset or nothing at all came after
it. So a load that failed and a reset leave nothing in memory.
-/

namespace BoardSupervisor

/-- A program that has been loaded. -/
structure LoadedProgram where
  /-- Its image. -/
  image : Array UInt8
  /-- The address that the image was copied in at. -/
  address : UInt16
  /-- The address that the program starts at. -/
  start : UInt16

/-- The byte that a program has in a cell of memory, if it covers the cell. -/
def LoadedProgram.byte? (program : LoadedProgram) (cell : Nat) : Option UInt8 :=
  if program.address.toNat ≤ cell then program.image[cell - program.address.toNat]? else none

/-- What a load or a reset leaves to be told of. -/
inductive Mark where
  /-- A program has been loaded. -/
  | loaded (program : LoadedProgram)
  /-- The processor has been reset. -/
  | reset

namespace Mark

/-- The byte that a mark has in a cell of memory: a reset has none. -/
def byte? (cell : Nat) : Mark → Option UInt8
  | .loaded program => program.byte? cell
  | .reset => none

/-- Where the processor goes on after a mark: after a reset, at zero. -/
def entry : Mark → UInt16
  | .loaded program => program.start
  | .reset => 0

/-- The byte that the latest of the marks to cover a cell has there, or zero. -/
def lastByte (marks : List Mark) (cell : Nat) : UInt8 :=
  (marks.reverse.findSome? (byte? cell)).getD 0

/-- Where the processor goes on after the latest of the marks, or zero. -/
def lastEntry (marks : List Mark) : UInt16 := (marks.getLast?.map entry).getD 0

/-- A later mark gives the byte of the cells that it covers. -/
theorem lastByte_concat (marks : List Mark) (mark : Mark) (cell : Nat) :
    lastByte (marks ++ [mark]) cell = (mark.byte? cell).getD (lastByte marks cell) := by
  unfold lastByte
  rw [List.reverse_concat, List.findSome?_cons]
  cases mark.byte? cell <;> rfl

/-- A later mark says where the processor goes on. -/
theorem lastEntry_concat (marks : List Mark) (mark : Mark) :
    lastEntry (marks ++ [mark]) = mark.entry := by
  unfold lastEntry
  rw [List.getLast?_concat]
  rfl

end Mark

/-- The mark that something leaves which bears on the program in memory. -/
def Bearing.mark? (roms : RomImages) (around : Bench) : Bearing → Option Mark
  | .none => Option.none
  | .reset => some .reset
  | .load wanted =>
    (wanted.image? roms around).map fun image => .loaded ⟨image, wanted.address, wanted.start⟩

namespace Machine

/-- The memory and the program counter of a machine are as the marks tell. -/
structure ToldBy (m : Machine) (marks : List Mark) : Prop where
  /-- Each cell holds the byte of the latest mark that covers it. -/
  cell : ∀ cell : Fin 65536, m.memory.get cell = Mark.lastByte marks cell
  /-- The program counter is where the latest mark has put it. -/
  entry : m.registers.pc = Mark.lastEntry marks

variable {m left : Machine} {marks : List Mark}

/-- A machine that is reset has one more mark to be told by. -/
theorem ToldBy.reset (told : m.ToldBy marks) : m.reset.ToldBy (marks ++ [.reset]) where
  cell := by
    intro cell
    rw [Mark.lastByte_concat]
    exact told.cell cell
  entry := (Mark.lastEntry_concat marks .reset).symm

/-- A machine that is loaded has one more mark to be told by. -/
theorem ToldBy.load (told : m.ToldBy marks) (image : Array UInt8) (address start : UInt16) :
    (m.load image address start).ToldBy (marks ++ [.loaded ⟨image, address, start⟩]) where
  cell := by
    intro cell
    rw [Mark.lastByte_concat, ← told.cell cell]
    dsimp only [Machine.load, Mark.byte?, LoadedProgram.byte?]
    rw [Memory.get_store]
    split <;> rfl
  entry := (Mark.lastEntry_concat marks (.loaded ⟨image, address, start⟩)).symm

/-- What bears on the program in memory adds its mark to what the machine is told by. -/
theorem ToldBy.leaves (told : m.ToldBy marks) {roms : RomImages} {around : Bench}
    {bearing : Bearing} (leaves : bearing.Leaves roms around m left) :
    left.ToldBy (marks ++ (bearing.mark? roms around).toList) := by
  cases bearing with
  | none =>
    obtain ⟨memory, registers⟩ := leaves
    dsimp only [Bearing.mark?, Option.toList_none]
    rw [List.append_nil]
    refine ⟨?_, ?_⟩
    · rw [memory]
      exact told.cell
    · rw [registers]
      exact told.entry
  | reset =>
    dsimp only [Bearing.Leaves] at leaves
    rw [leaves]
    exact told.reset
  | load wanted =>
    dsimp only [Bearing.Leaves, Load.after] at leaves
    rw [leaves]
    dsimp only [Bearing.mark?]
    cases wanted.image? roms around with
    | none =>
      rw [Option.map_none, Option.toList_none, List.append_nil]
      exact told
    | some image => exact told.load image wanted.address wanted.start

end Machine

namespace Scene

variable (scene : Scene)

/-- The mark of an occasion: a reset, or a program whose load is reported as a success. -/
def mark? (occasion : Occasion) : Option Mark :=
  match scene.bearing occasion with
  | .none => none
  | .reset => some .reset
  | .load wanted =>
    if scene.succeeds occasion then
      (wanted.source.image? scene.interpreter.roms occasion.around).map fun image =>
        .loaded ⟨image, wanted.address, wanted.start⟩
    else none

/-- The marks of a life, the oldest first. -/
def marks : Scene → List Occasion → List Mark
  | _, [] => []
  | scene, occasion :: rest => (scene.mark? occasion).toList ++ (scene.occur occasion).marks rest

end Scene

end BoardSupervisor
