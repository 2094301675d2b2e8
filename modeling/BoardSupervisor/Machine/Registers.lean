import BoardSupervisor.Number.Digits

/-!
# The registers

The registers that a program for the board can see, their state after power-on, and the two lines in
which they are shown. The low byte of AF holds eight flags, which are shown from the most
significant bit down, each set flag as its letter or number and each clear one as a dash.
-/

namespace BoardSupervisor

namespace Flags

/-- The marks of the flags with their bits: sign, zero, the copy of bit 5, half carry, the copy of
bit 3, parity or overflow, subtraction, carry. -/
def marks : List (Char × Nat) :=
  [('S', 7), ('Z', 6), ('5', 5), ('H', 4), ('3', 3), ('P', 2), ('N', 1), ('C', 0)]

/-- The flags as eight characters. -/
def text (flags : UInt8) : String :=
  String.ofList (marks.map fun (mark, bit) => if flags.toNat.testBit bit then mark else '-')

end Flags

/-- The register file. -/
structure Registers where
  /-- Accumulator and flags. -/
  af : UInt16
  /-- General register pair BC. -/
  bc : UInt16
  /-- General register pair DE. -/
  de : UInt16
  /-- General register pair HL. -/
  hl : UInt16
  /-- Alternate accumulator and flags. -/
  afAlternate : UInt16
  /-- Alternate register pair BC. -/
  bcAlternate : UInt16
  /-- Alternate register pair DE. -/
  deAlternate : UInt16
  /-- Alternate register pair HL. -/
  hlAlternate : UInt16
  /-- First index register. -/
  ix : UInt16
  /-- Second index register. -/
  iy : UInt16
  /-- Stack pointer. -/
  sp : UInt16
  /-- Program counter. -/
  pc : UInt16
  /-- Interrupt page. -/
  i : UInt8
  /-- Memory refresh counter. -/
  r : UInt8
  /-- First interrupt flip-flop. -/
  iff1 : Bool
  /-- Second interrupt flip-flop. -/
  iff2 : Bool
  deriving DecidableEq, Repr

namespace Registers

/-- The registers after power-on or a reset: accumulators, flags and stack pointer all ones, all
else zero and interrupts off. -/
def powerOn : Registers where
  af := 0xffff
  bc := 0
  de := 0
  hl := 0
  afAlternate := 0xffff
  bcAlternate := 0
  deAlternate := 0
  hlAlternate := 0
  ix := 0
  iy := 0
  sp := 0xffff
  pc := 0
  i := 0
  r := 0
  iff1 := false
  iff2 := false

/-- The flags, which are the low byte of AF. -/
def flags (r : Registers) : UInt8 := UInt8.ofNat r.af.toNat

/-- A flip-flop as a digit. -/
def flipFlop (on : Bool) : String := if on then "1" else "0"

/-- Names with values, separated by spaces. -/
def fields (entries : List (String × String)) : String :=
  " ".intercalate (entries.map fun (name, value) => name ++ "=" ++ value)

/-- The first line of the dump: program counter, stack pointer, main pairs and index registers. -/
def mainLine (r : Registers) : String :=
  fields [("PC", Number.hexWord r.pc), ("SP", Number.hexWord r.sp), ("AF", Number.hexWord r.af),
    ("BC", Number.hexWord r.bc), ("DE", Number.hexWord r.de), ("HL", Number.hexWord r.hl),
    ("IX", Number.hexWord r.ix), ("IY", Number.hexWord r.iy)] ++ "\r\n"

/-- The second line of the dump: alternate pairs, interrupt state and flags. -/
def alternateLine (r : Registers) : String :=
  fields [("AF\x27", Number.hexWord r.afAlternate), ("BC\x27", Number.hexWord r.bcAlternate),
    ("DE\x27", Number.hexWord r.deAlternate), ("HL\x27", Number.hexWord r.hlAlternate),
    ("I", Number.hexByte r.i), ("R", Number.hexByte r.r), ("IFF1", flipFlop r.iff1),
    ("IFF2", flipFlop r.iff2), ("F", Flags.text r.flags)] ++ "\r\n"

/-- The lines in which the registers are shown. -/
def dump (r : Registers) : List String := [r.mainLine, r.alternateLine]

end Registers

end BoardSupervisor
