import BoardSupervisor.Proofs.Command.Resolution

/-!
# ROMs keep to their windows

However long the image of a ROM is, no more of it is loaded than its window has room for, and each
window ends within memory. A line that asks for a ROM that is there therefore always loads it, and
touches no cell outside its window. The two windows have no cell in common, so that neither ROM
harms the other and the order in which they are asked for does not matter to the memory.
-/

namespace BoardSupervisor

open Text

/-- A line asks for a ROM: it has two tokens, the name of the command and the name of the ROM, each
in any case of letters. -/
def Rom.AskedBy (kind : Rom) (line : String) : Prop :=
  ∃ verb name, tokens line = [verb, name] ∧
    SameUpToCase verb "loadrom" ∧ SameUpToCase name kind.name

/-- A cell lies in the window of a ROM. -/
def Rom.Holds (kind : Rom) (cell : Fin 65536) : Prop :=
  kind.address.toNat ≤ cell.val ∧ cell.val < kind.address.toNat + kind.window

/-- A machine differs from an earlier one in that as much of an image as the window of a ROM has
room for lies there, and that the program counter is at the start of the ROM. -/
structure Machine.LoadedRom (m left : Machine) (kind : Rom) (image : Array UInt8) : Prop where
  /-- All but the memory and the program counter is as it was, and the program counter is set. -/
  rest : left =
    { m with memory := left.memory, registers := { m.registers with pc := kind.start } }
  /-- The cells from the beginning of the window hold the image, as far as both go. -/
  copied : ∀ (index : Nat) (inside : index < image.size), index < kind.window →
    ∀ cell : Fin 65536, cell.val = kind.address.toNat + index →
      left.memory.get cell = image[index]
  /-- All other cells hold what they held. -/
  elsewhere : ∀ cell : Fin 65536,
    cell.val < kind.address.toNat ∨
      kind.address.toNat + min image.size kind.window ≤ cell.val →
    left.memory.get cell = m.memory.get cell

namespace Rom

variable {kind : Rom}

/-- A ROM is found under the name that is the same as its own but for letter case. -/
theorem ofName?_eq_some_iff {name : String} :
    ofName? name = some kind ↔ SameUpToCase name kind.name := by
  have apart : ∀ one ∈ all, ∀ other ∈ all, folded one.name = folded other.name → one = other := by
    decide
  have listed : kind ∈ all := by cases kind <;> decide
  exact (find?_alike_eq_some_iff apart).trans (and_iff_right listed)

/-- The windows are the cells below 0x4000 and those from 0xf000 on. -/
theorem holds_iff (cell : Fin 65536) :
    (basic.Holds cell ↔ cell.val < 0x4000) ∧ (monitor.Holds cell ↔ 0xf000 ≤ cell.val) := by
  have bottom : basic.address.toNat = 0 ∧ basic.window = 0x4000 := by decide
  have top : monitor.address.toNat = 0xf000 ∧ monitor.window = 0x1000 := by decide
  unfold Holds
  omega

/-- The window of a ROM ends within memory. -/
theorem window_fits (kind : Rom) : kind.address.toNat + kind.window ≤ Memory.size := by
  cases kind <;> decide

/-- Of two different ROMs one has its window below the other's. -/
theorem window_below {other : Rom} (different : kind ≠ other) :
    kind.address.toNat + kind.window ≤ other.address.toNat ∨
      other.address.toNat + other.window ≤ kind.address.toNat := by
  have below : basic.address.toNat + basic.window ≤ monitor.address.toNat := by decide
  cases kind <;> cases other
  case basic.basic => exact absurd rfl different
  case basic.monitor => exact .inl below
  case monitor.basic => exact .inr below
  case monitor.monitor => exact absurd rfl different

/-- The windows of different ROMs have no cell in common. -/
theorem not_holds_of_holds {other : Rom} (different : kind ≠ other) {cell : Fin 65536}
    (held : other.Holds cell) : ¬ kind.Holds cell := by
  have apart := window_below different
  unfold Holds at held ⊢
  omega

end Rom

namespace RomImages

variable {roms : RomImages} {kind : Rom} {image : Array UInt8}

/-- The image of a ROM is what its window has room for. -/
theorem image_of_whole (there : roms.whole kind = some image) :
    roms.image kind = some (image.take kind.window) := by
  rw [RomImages.image, there, Option.map_some]

/-- As much of an image is taken as there is room for. -/
theorem size_take (image : Array UInt8) (room : Nat) :
    (image.take room).size = min image.size room := by
  rw [Array.take_eq_extract, Array.size_extract]
  omega

/-- The image of a ROM is no longer than its window. -/
theorem size_image_le (there : roms.image kind = some image) : image.size ≤ kind.window := by
  obtain ⟨whole, -, rfl⟩ := Option.map_eq_some_iff.mp there
  rw [size_take]
  exact Nat.min_le_right _ _

/-- The image of a ROM ends within memory. -/
theorem image_fits (there : roms.image kind = some image) :
    Memory.fits kind.address image.size = true := by
  have window := kind.window_fits
  have short := size_image_le there
  unfold Memory.fits
  rw [decide_eq_true_iff]
  omega

end RomImages

/-- Arguments ask for a ROM exactly if its name is the only one of them. -/
theorem romOfArguments_eq_ok_iff {arguments : List String} {kind : Rom} :
    romOfArguments arguments = .ok kind ↔
      ∃ name, arguments = [name] ∧ SameUpToCase name kind.name := by
  constructor
  · intro asks
    match arguments with
    | [] => cases asks
    | [name] =>
      refine ⟨name, rfl, Rom.ofName?_eq_some_iff.mp ?_⟩
      unfold romOfArguments at asks
      dsimp only at asks
      cases found : Rom.ofName? name with
      | none =>
        rw [found] at asks
        cases asks
      | some other =>
        rw [found] at asks
        cases asks
        rfl
    | _ :: _ :: _ => cases asks
  · rintro ⟨name, rfl, same⟩
    unfold romOfArguments
    dsimp only
    rw [Rom.ofName?_eq_some_iff.mpr same]

/-- Arguments that ask for no ROM are answered with how the command is used. -/
theorem romOfArguments_eq_error {arguments : List String} {fault : ArgumentFault}
    (faulty : romOfArguments arguments = .error fault) : fault = .usage .loadRom := by
  unfold romOfArguments at faulty
  split at faulty
  · split at faulty <;> cases faulty
    rfl
  · cases faulty
    rfl

/-- A line with the name of the ROM command comes to what its arguments ask for. -/
theorem Command.ofLine_loadRom {line verb : String} {arguments : List String}
    (typed : tokens line = verb :: arguments) (named : SameUpToCase verb "loadrom") :
    ofLine line = .ask "loadrom" arguments ((romOfArguments arguments).map .loadRom) := by
  have listed : (⟨"loadrom", .loadRom⟩ : Verb.Named) ∈ Verb.table := by decide
  rw [ofLine_of_named typed listed named]
  rfl

/-- A line that asks for a ROM comes to a request for it. -/
theorem Command.ofLine_of_askedBy {kind : Rom} {line : String} (asked : kind.AskedBy line) :
    ∃ arguments, ofLine line = .ask "loadrom" arguments (.ok (.loadRom kind)) := by
  obtain ⟨verb, name, typed, named, same⟩ := asked
  rw [ofLine_loadRom typed named, romOfArguments_eq_ok_iff.mpr ⟨name, rfl, same⟩]
  exact ⟨[name], rfl⟩

namespace Interpreter

variable (interpreter : Interpreter) (around : Bench) (m : Machine)

/-- What the operator is told when an image of a ROM runs past the top of memory. -/
def romOverrun (address : UInt16) (length : Nat) : List UInt8 :=
  Latin1.encode ("error: loadrom: " ++ (LoadFault.overrun address length).message ++ "\r\n")

/-- What the operator is told when there is no image of a ROM. -/
def romMissing (kind : Rom) : List UInt8 :=
  Latin1.encode ("error: loadrom: " ++ kind.name ++ " image not available\r\n")

/-- A ROM that is there is loaded. -/
theorem rom?_eq_image (kind : Rom) : interpreter.rom? kind = interpreter.roms.image kind := by
  unfold rom?
  cases there : interpreter.roms.image kind with
  | none => rfl
  | some image =>
    dsimp only
    rw [if_pos (RomImages.image_fits there)]

/-- What the operator is told of a ROM depends on nothing but whether it is there. -/
theorem encode_romAnswer (kind : Rom) :
    Latin1.encode (interpreter.romAnswer kind) =
      if (interpreter.roms.whole kind).isSome then Latin1.encode (romLoaded kind)
      else romMissing kind := by
  unfold romAnswer
  cases whole : interpreter.roms.whole kind with
  | none =>
    have missing : interpreter.roms.image kind = none := by
      rw [RomImages.image, whole, Option.map_none]
    rw [missing]
    rfl
  | some bytes =>
    have there := RomImages.image_of_whole whole
    rw [there]
    dsimp only
    rw [if_pos (RomImages.image_fits there)]
    rfl

/-- The board is asked to load the image of a ROM that is there, and nothing else. -/
theorem operations_loadRom {kind : Rom} {image : Array UInt8}
    (there : interpreter.roms.image kind = some image) :
    Event.operations (interpreter.loadRom kind around m).events =
      [.loadProgram image.size kind.address kind.start] := by
  unfold loadRom
  rw [there]
  dsimp only
  rw [Act.bind_apply, Act.loadProgram_apply, if_pos (RomImages.image_fits there)]
  rfl

/-- What the operator is told of a ROM that is there or missing, or of how the command is used, ends
otherwise than what they are told of an image that runs past the top of memory. -/
theorem ne_romOverrun {bytes : List UInt8}
    (told : (∃ kind, bytes = Latin1.encode (romLoaded kind) ∨ bytes = romMissing kind) ∨
      bytes = (ArgumentFault.usage .loadRom).complaint) (address : UInt16) (length : Nat) :
    bytes ≠ romOverrun address length := by
  have ending : Latin1.encode " overrun memory\r\n" <:+ romOverrun address length := by
    unfold romOverrun LoadFault.message
    rw [← String.append_assoc, String.append_assoc, Latin1.encode_append]
    exact List.suffix_append _ _
  rintro rfl
  revert ending
  rcases told with ⟨kind, loaded | missing⟩ | usage
  · rw [loaded]
    cases kind <;> decide
  · rw [missing]
    cases kind <;> decide
  · rw [usage]
    decide

section Asked

variable {kind : Rom} {line : String} (asked : kind.AskedBy line)

include asked

/-- The machine after a ROM was asked for: with its image loaded, if there is one. -/
theorem execute_machine_of_askedBy :
    (interpreter.execute line around m).machine =
      (interpreter.roms.image kind).elim m fun image =>
        m.load image kind.address kind.start := by
  obtain ⟨arguments, command⟩ := Command.ofLine_of_askedBy asked
  rw [execute, run_machine, command, ← rom?_eq_image]
  dsimp only [afterCommand, Command.request?, after]
  cases interpreter.rom? kind <;> rfl

/-- What is written when a ROM is asked for. -/
theorem written_execute_of_askedBy :
    Event.written (interpreter.execute line around m).events =
      if (interpreter.roms.whole kind).isSome then Latin1.encode (romLoaded kind)
      else romMissing kind := by
  obtain ⟨arguments, command⟩ := Command.ofLine_of_askedBy asked
  rw [execute, written_run, command, ← encode_romAnswer]
  rfl

/-- The session goes on after a ROM was asked for. -/
theorem execute_value_of_askedBy : (interpreter.execute line around m).value = true := by
  obtain ⟨arguments, command⟩ := Command.ofLine_of_askedBy asked
  rw [execute, run_value, command]
  rfl

/-- When a ROM that is there is asked for, the board is asked to load its image once. -/
theorem operations_execute_of_askedBy {image : Array UInt8}
    (there : interpreter.roms.image kind = some image) :
    Event.operations (interpreter.execute line around m).events =
      [.loadProgram image.size kind.address kind.start] := by
  obtain ⟨arguments, command⟩ := Command.ofLine_of_askedBy asked
  rw [execute, command]
  dsimp only [run]
  rw [Act.bind_apply, Act.bind_apply, Event.operations_append, Event.operations_append]
  exact (List.append_nil _).trans (interpreter.operations_loadRom around m there)

/-- A ROM that is there is loaded into its window. -/
theorem loadedRom_of_askedBy {image : Array UInt8}
    (there : interpreter.roms.whole kind = some image) :
    m.LoadedRom (interpreter.execute line around m).machine kind image := by
  have clipped := RomImages.image_of_whole there
  have left : (interpreter.execute line around m).machine =
      m.load (image.take kind.window) kind.address kind.start := by
    rw [interpreter.execute_machine_of_askedBy around m asked, clipped, Option.elim_some]
  have size_eq := RomImages.size_take image kind.window
  rw [left]
  refine ⟨rfl, ?copied, ?elsewhere⟩
  case copied =>
    intro index inside room cell place
    have taken : index < (image.take kind.window).size := by omega
    rw [Machine.load, Memory.get_store_inside m.memory kind.address taken place]
    simp [Array.take_eq_extract]
  case elsewhere =>
    intro cell outside
    rw [← size_eq] at outside
    exact Memory.get_store_outside m.memory outside

/-- No cell outside the window of a ROM is touched when the ROM is asked for. -/
theorem execute_outside_of_askedBy {cell : Fin 65536} (outside : ¬ kind.Holds cell) :
    (interpreter.execute line around m).machine.memory.get cell = m.memory.get cell := by
  rw [interpreter.execute_machine_of_askedBy around m asked]
  cases there : interpreter.roms.image kind with
  | none => rfl
  | some image =>
    have short := RomImages.size_image_le there
    unfold Rom.Holds at outside
    exact Memory.get_store_outside m.memory (by omega)

/-- The memory is the same in whichever order two ROMs are asked for. -/
theorem execute_comm_of_askedBy {other : Rom} {next : String} (different : kind ≠ other)
    (nextAsked : other.AskedBy next) :
    (interpreter.execute next around (interpreter.execute line around m).machine).machine.memory =
      (interpreter.execute line around
        (interpreter.execute next around m).machine).machine.memory := by
  have below := Rom.window_below different
  simp only [interpreter.execute_machine_of_askedBy around _ asked,
    interpreter.execute_machine_of_askedBy around _ nextAsked]
  cases first : interpreter.roms.image kind with
  | none => rfl
  | some image =>
    cases second : interpreter.roms.image other with
    | none => rfl
    | some otherImage =>
      have short := RomImages.size_image_le first
      have otherShort := RomImages.size_image_le second
      exact Memory.store_comm m.memory (by omega)

end Asked

/-- A line with the name of the ROM command that asks for no ROM leaves the machine as it was and is
answered with how the command is used. -/
theorem execute_of_not_askedBy {line verb : String} {arguments : List String}
    (typed : tokens line = verb :: arguments) (named : SameUpToCase verb "loadrom")
    (noneAsked : ∀ kind : Rom, ¬ kind.AskedBy line) :
    Event.written (interpreter.execute line around m).events =
        (ArgumentFault.usage .loadRom).complaint ∧
      (interpreter.execute line around m).machine = m := by
  rw [execute, run_machine, written_run, Command.ofLine_loadRom typed named]
  cases asks : romOfArguments arguments with
  | ok kind =>
    obtain ⟨name, rfl, same⟩ := romOfArguments_eq_ok_iff.mp asks
    exact absurd ⟨verb, name, typed, named, same⟩ (noneAsked kind)
  | error fault =>
    rw [romOfArguments_eq_error asks]
    exact ⟨rfl, rfl⟩

/-- Whatever images there are, how long they are and whatever the machine is: a line that asks for a
ROM that is there loads it, as much of it as its window has room for, by one load that always
succeeds, and the operator is told so; if the ROM is missing they are told that, and nothing
changes. No line with the name of the ROM command is ever answered with an overrun, and one that
asks for no ROM is answered with how the command is used. The windows are the cells below 0x4000 and
those from 0xf000 on. No cell outside the window of the ROM is touched, so none of the other ROM
either, and the memory is the same in whichever order both are asked for. -/
theorem loadRom_keepsToWindow (interpreter : Interpreter) (around : Bench) (m : Machine) :
    (∀ (kind : Rom) line image, kind.AskedBy line → interpreter.roms.whole kind = some image →
      (interpreter.execute line around m).value = true ∧
        Event.written (interpreter.execute line around m).events =
          Latin1.encode (romLoaded kind) ∧
        Event.operations (interpreter.execute line around m).events =
          [.loadProgram (min image.size kind.window) kind.address kind.start] ∧
        (Act.loadProgram (image.take kind.window) kind.address kind.start around m).value = .ok () ∧
        m.LoadedRom (interpreter.execute line around m).machine kind image) ∧
    (∀ (kind : Rom) line, kind.AskedBy line → interpreter.roms.whole kind = none →
      (interpreter.execute line around m).value = true ∧
        Event.written (interpreter.execute line around m).events = romMissing kind ∧
        (interpreter.execute line around m).machine = m) ∧
    (∀ line verb arguments, tokens line = verb :: arguments → SameUpToCase verb "loadrom" →
      (∀ address length,
        Event.written (interpreter.execute line around m).events ≠ romOverrun address length) ∧
      ((∀ kind : Rom, ¬ kind.AskedBy line) →
        Event.written (interpreter.execute line around m).events =
            (ArgumentFault.usage .loadRom).complaint ∧
          (interpreter.execute line around m).machine = m)) ∧
    (∀ cell, (Rom.basic.Holds cell ↔ cell.val < 0x4000) ∧
      (Rom.monitor.Holds cell ↔ 0xf000 ≤ cell.val)) ∧
    (∀ (kind : Rom) line cell, kind.AskedBy line → ¬ kind.Holds cell →
      (interpreter.execute line around m).machine.memory.get cell = m.memory.get cell) ∧
    (∀ (kind other : Rom) line cell, kind.AskedBy line → kind ≠ other → other.Holds cell →
      (interpreter.execute line around m).machine.memory.get cell = m.memory.get cell) ∧
    (∀ (kind other : Rom) line next, kind ≠ other → kind.AskedBy line → other.AskedBy next →
      (interpreter.execute next around
          (interpreter.execute line around m).machine).machine.memory =
        (interpreter.execute line around
          (interpreter.execute next around m).machine).machine.memory) := by
  refine ⟨?there, ?missing, ?named, Rom.holds_iff, ?outside, ?other, ?order⟩
  case there =>
    intro kind line image asked there
    have clipped := RomImages.image_of_whole there
    have written := interpreter.written_execute_of_askedBy around m asked
    have operations := interpreter.operations_execute_of_askedBy around m asked clipped
    rw [there] at written
    rw [RomImages.size_take] at operations
    refine ⟨interpreter.execute_value_of_askedBy around m asked, written, operations, ?_,
      interpreter.loadedRom_of_askedBy around m asked there⟩
    rw [Act.loadProgram_apply, if_pos (RomImages.image_fits clipped)]
  case missing =>
    intro kind line asked missing
    have written := interpreter.written_execute_of_askedBy around m asked
    have left := interpreter.execute_machine_of_askedBy around m asked
    rw [missing] at written
    rw [RomImages.image, missing] at left
    exact ⟨interpreter.execute_value_of_askedBy around m asked, written, left⟩
  case named =>
    intro line verb arguments typed named
    refine ⟨ne_romOverrun ?_, interpreter.execute_of_not_askedBy around m typed named⟩
    by_cases asked : ∃ kind : Rom, kind.AskedBy line
    · obtain ⟨kind, asked⟩ := asked
      refine .inl ⟨kind, ?_⟩
      have written := interpreter.written_execute_of_askedBy around m asked
      split at written
      · exact .inl written
      · exact .inr written
    · rw [not_exists] at asked
      exact .inr (interpreter.execute_of_not_askedBy around m typed named asked).1
  case outside =>
    intro kind line cell asked outside
    exact interpreter.execute_outside_of_askedBy around m asked outside
  case other =>
    intro kind other line cell asked different held
    exact interpreter.execute_outside_of_askedBy around m asked
      (Rom.not_holds_of_holds different held)
  case order =>
    intro kind other line next different asked nextAsked
    exact interpreter.execute_comm_of_askedBy around m asked different nextAsked

/-- A monitor that is longer than its window, asked for in mixed case, is loaded up to the top of
memory, and the cell below its window is as it was. Asking for the other ROM keeps it, and asking
for both in the other order comes to the same memory. A ROM that is missing, and a line with two
names, leave the machine as it was. -/
theorem loadRom_keepsToWindow_long :
    let image : Array UInt8 := Array.replicate 5000 7
    let roms : RomImages := { basic := some #[0xc3, 0x50], monitor := some image }
    let interpreter : Interpreter := { roms := roms }
    let around : Bench := ⟨fun _ => .error .notFound, "."⟩
    let left := (interpreter.execute " LoadROM\tMonitor" around .powerOn).machine
    (Rom.monitor.AskedBy " LoadROM\tMonitor" ∧ Rom.basic.AskedBy "loadrom basic") ∧
      (left.registers.pc = 0xf000 ∧ left.memory.get 0xffff = 7 ∧
        left.memory.get 0xefff = Machine.powerOn.memory.get 0xefff) ∧
      (interpreter.execute "loadrom basic" around left).machine.memory.get 0xffff = 7 ∧
      (interpreter.execute "loadrom basic" around
          (interpreter.execute " LoadROM\tMonitor" around .powerOn).machine).machine.memory =
        (interpreter.execute " LoadROM\tMonitor" around
          (interpreter.execute "loadrom basic" around .powerOn).machine).machine.memory ∧
      (({} : Interpreter).execute "loadrom basic" around .powerOn).machine = .powerOn ∧
      (interpreter.execute "loadrom basic monitor" around .powerOn).machine = .powerOn := by
  intro image roms interpreter around left
  have monitorAsked : Rom.monitor.AskedBy " LoadROM\tMonitor" :=
    ⟨"LoadROM", "Monitor", by decide, by decide, by decide⟩
  have basicAsked : Rom.basic.AskedBy "loadrom basic" :=
    ⟨"loadrom", "basic", by decide, by decide, by decide⟩
  have typed : tokens "loadrom basic monitor" = ["loadrom", "basic", "monitor"] := by decide
  have noneAsked (kind : Rom) : ¬ kind.AskedBy "loadrom basic monitor" := by
    rintro ⟨verb, name, two, -⟩
    rw [typed] at two
    cases two
  obtain ⟨there, -, named, windows, -, -, order⟩ := loadRom_keepsToWindow interpreter around .powerOn
  obtain ⟨-, -, -, -, -, other, -⟩ := loadRom_keepsToWindow interpreter around left
  obtain ⟨-, missing, -⟩ := loadRom_keepsToWindow {} around .powerOn
  have loaded : Machine.powerOn.LoadedRom left .monitor image :=
    (there .monitor _ image monitorAsked rfl).2.2.2.2
  have size_eq : image.size = 5000 := Array.size_replicate
  have inside : 4095 < image.size := by rw [size_eq]; decide
  have room : 4095 < Rom.window .monitor := by decide
  have empty : ({} : Interpreter).roms.whole .basic = none := rfl
  have kept := (missing .basic "loadrom basic" basicAsked empty).2.2
  have refused := ((named "loadrom basic monitor" _ _ typed (by decide)).2 noneAsked).2
  have top : (0xffff : Fin 65536).val = (Rom.address .monitor).toNat + 4095 := by decide +kernel
  have below : (0xefff : Fin 65536).val < (Rom.address .monitor).toNat := by decide
  have atTop : left.memory.get 0xffff = 7 :=
    (loaded.copied 4095 inside room 0xffff top).trans (Array.getElem_replicate inside)
  have held : Rom.monitor.Holds 0xffff := (windows 0xffff).2.mpr (by decide)
  have stays := other .basic .monitor "loadrom basic" 0xffff basicAsked (by decide) held
  have commuted := order .monitor .basic " LoadROM\tMonitor" "loadrom basic" (by decide)
    monitorAsked basicAsked
  refine ⟨⟨monitorAsked, basicAsked⟩,
    ⟨congrArg (fun m : Machine => m.registers.pc) loaded.rest, atTop,
      loaded.elsewhere 0xefff (.inl below)⟩, stays.trans atTop, commuted, kept, refused⟩

end Interpreter

end BoardSupervisor
