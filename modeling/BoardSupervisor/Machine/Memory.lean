/-!
# Memory

The board has memory at every address of sixteen bits. An image is copied in from an address
upwards, and only if all of it lies below the top.

The module's main statement says what a cell holds after an image was copied in: the image's byte if
the image covers the cell, else what the cell held before. Images that lie apart can therefore be
copied in in either order.
-/

namespace BoardSupervisor

/-- One byte for each address. -/
abbrev Memory := Vector UInt8 65536

namespace Memory

/-- The number of cells. -/
def size : Nat := 65536

/-- Memory at power-on, all zero. -/
def blank : Memory := Vector.replicate 65536 0

/-- The byte at an address. -/
def read (memory : Memory) (address : UInt16) : UInt8 := memory.get address.toFin

/-- Whether an image ends within memory when it is copied in at an address. -/
def fits (address : UInt16) (length : Nat) : Bool := address.toNat + length ≤ size

/-- Memory with an image copied in from an address upwards. -/
def store (memory : Memory) (address : UInt16) (image : Array UInt8) : Memory :=
  Vector.ofFn fun cell =>
    if address.toNat ≤ cell.val then (image[cell.val - address.toNat]?).getD (memory.get cell)
    else memory.get cell

/-- What a cell holds after an image was copied in. -/
theorem get_store (memory : Memory) (address : UInt16) (image : Array UInt8) (cell : Fin 65536) :
    (memory.store address image).get cell =
      if address.toNat ≤ cell.val then (image[cell.val - address.toNat]?).getD (memory.get cell)
      else memory.get cell :=
  Vector.getElem_ofFn cell.isLt

/-- A cell that an image covers holds the image's byte for it. -/
theorem get_store_inside (memory : Memory) (address : UInt16) {image : Array UInt8} {index : Nat}
    (inside : index < image.size) {cell : Fin 65536} (place : cell.val = address.toNat + index) :
    (memory.store address image).get cell = image[index] := by
  have offset : cell.val - address.toNat = index := by omega
  rw [get_store, if_pos (by omega), offset, Array.getElem?_eq_getElem inside, Option.getD_some]

/-- A cell that an image does not cover holds what it held before. -/
theorem get_store_outside (memory : Memory) {address : UInt16} {image : Array UInt8}
    {cell : Fin 65536}
    (outside : cell.val < address.toNat ∨ address.toNat + image.size ≤ cell.val) :
    (memory.store address image).get cell = memory.get cell := by
  rw [get_store]
  rcases outside with below | above
  · rw [if_neg (Nat.not_le.mpr below)]
  · have past : image.size ≤ cell.val - address.toNat := by omega
    rw [if_pos (by omega), Array.getElem?_eq_none past, Option.getD_none]

/-- Images that cover no cell in common can be copied in in either order. -/
theorem store_comm (memory : Memory) {first second : UInt16} {image other : Array UInt8}
    (apart : first.toNat + image.size ≤ second.toNat ∨
      second.toNat + other.size ≤ first.toNat) :
    (memory.store first image).store second other =
      (memory.store second other).store first image := by
  have cells (cell : Fin 65536) : ((memory.store first image).store second other).get cell =
      ((memory.store second other).store first image).get cell := by
    by_cases covered : first.toNat ≤ cell.val ∧ cell.val < first.toNat + image.size
    · have place : cell.val = first.toNat + (cell.val - first.toNat) := by omega
      have inside : cell.val - first.toNat < image.size := by omega
      rw [get_store_outside _ (by omega), get_store_inside _ _ inside place,
        get_store_inside _ _ inside place]
    · have outside : cell.val < first.toNat ∨ first.toNat + image.size ≤ cell.val := by omega
      rw [get_store_outside (memory.store second other) outside,
        get_store (memory.store first image) second, get_store memory second,
        get_store_outside memory outside]
  exact Vector.ext fun index bound => cells ⟨index, bound⟩

end Memory

end BoardSupervisor
