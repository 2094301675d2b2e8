import BoardSupervisor.Files
import BoardSupervisor.Log
import BoardSupervisor.Number.Digits
import BoardSupervisor.Text.Basic

/-!
# ROM images

Two images can be offered to the operator, each with its own place in memory. Of an image no more
bytes are used than its place has room for.
-/

namespace BoardSupervisor

/-- The two ROMs. -/
inductive Rom where
  /-- The BASIC interpreter. -/
  | basic
  /-- The machine monitor. -/
  | monitor
  deriving DecidableEq, Repr

namespace Rom

/-- The name of a ROM. -/
def name : Rom → String
  | .basic => "basic"
  | .monitor => "monitor"

/-- Both ROMs. -/
def all : List Rom := [.basic, .monitor]

/-- The ROM of a name, in either case. -/
def ofName? (text : String) : Option Rom := all.find? fun kind => Text.alike kind.name text

/-- Where a ROM lies in memory. -/
def address : Rom → UInt16
  | .basic => 0x0000
  | .monitor => 0xf000

/-- Where a ROM starts. -/
def start (kind : Rom) : UInt16 := kind.address

/-- The room that a ROM has in memory. -/
def window : Rom → Nat
  | .basic => 0x4000
  | .monitor => 0x1000

end Rom

/-- The images that are there. -/
structure RomImages where
  /-- The image of the BASIC interpreter. -/
  basic : Option (Array UInt8) := none
  /-- The image of the monitor. -/
  monitor : Option (Array UInt8) := none

namespace RomImages

/-- The whole image of a ROM. -/
def whole (roms : RomImages) : Rom → Option (Array UInt8)
  | .basic => roms.basic
  | .monitor => roms.monitor

/-- The image of a ROM, cut to its room in memory. -/
def image (roms : RomImages) (kind : Rom) : Option (Array UInt8) :=
  (roms.whole kind).map fun bytes => bytes.take kind.window

/-- A ROM image from a file, with what the log is told about it. -/
def readImage (disk : Disk) (kind : Rom) (path : String) :
    Option (Array UInt8) × List Log.Record :=
  match disk path with
  | .ok bytes =>
    (some bytes,
      [⟨.info, kind.name ++ " rom: " ++ Number.decimal bytes.size ++ " bytes from " ++ path⟩])
  | .error cause =>
    (none, [⟨.warn, kind.name ++ " rom: can\x27t read " ++ path ++ ": " ++ cause.message⟩])

/-- The images of the files that are named, with what the log is told. An image that cannot be read
is left out. -/
def read (disk : Disk) (basic monitor : Option String) : RomImages × List Log.Record :=
  let fromFile (kind : Rom) (path : Option String) :=
    match path with
    | some path => readImage disk kind path
    | none => (none, [])
  let (basicImage, basicRecords) := fromFile .basic basic
  let (monitorImage, monitorRecords) := fromFile .monitor monitor
  (⟨basicImage, monitorImage⟩, basicRecords ++ monitorRecords)

end RomImages

end BoardSupervisor
