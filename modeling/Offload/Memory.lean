import Offload.Extent
import Offload.Failure

/-!
# Memory

The bytes that views and kernels work on. Every address holds a byte, and memory no one has written
holds zero. Words are stored with their least byte first.
-/

namespace Offload

/-- The byte at each address. -/
structure Memory where
  byteAt : Nat → UInt8

namespace Memory

/-- Memory that no one has written. -/
def zero : Memory := ⟨fun _ => 0⟩

instance : Inhabited Memory := ⟨zero⟩

/-- The bytes of a range. -/
def read (memory : Memory) (start length : Nat) : List UInt8 :=
  (List.range length).map fun offset => memory.byteAt (start + offset)

/-- Overwrites the range that starts at `start` with `bytes`. -/
def write (memory : Memory) (start : Nat) (bytes : Array UInt8) : Memory :=
  ⟨fun address =>
    if start ≤ address then (bytes[address - start]?).getD (memory.byteAt address)
    else memory.byteAt address⟩

/-- Sets every byte of a range to one value. -/
def fill (memory : Memory) (start length : Nat) (value : UInt8) : Memory :=
  ⟨fun address =>
    if start ≤ address ∧ address < start + length then value else memory.byteAt address⟩

/-- Copies a range. The bytes are those the source held before the copy, also where the two ranges
overlap. -/
def move (memory : Memory) (destination source length : Nat) : Memory :=
  ⟨fun address =>
    if destination ≤ address ∧ address < destination + length then
      memory.byteAt (source + (address - destination))
    else memory.byteAt address⟩

/-- The number stored in `width` bytes from `start`. -/
def word (memory : Memory) (width start : Nat) : Nat :=
  (memory.read start width).foldr (fun byte above => byte.toNat + 256 * above) 0

/-- The `width` bytes of a number, least first; what does not fit is dropped. -/
def wordBytes : Nat → Nat → List UInt8
  | 0, _ => []
  | width + 1, number => UInt8.ofNat (number % 256) :: wordBytes width (number / 256)

/-- Stores a number in `width` bytes from `start`. -/
def writeWord (memory : Memory) (width start number : Nat) : Memory :=
  memory.write start (wordBytes width number).toArray

end Memory

/-! ## Allocation -/

/-- The greatest size that the padding of a layout may reach. -/
def layoutLimit : Nat := 1 <<< 63

/-- The least multiple of `alignment` that is at least `address`. -/
def alignUp (address alignment : Nat) : Nat :=
  (address + alignment - 1) / alignment * alignment

/-- A host allocator that hands out ascending, never reused ranges of untouched memory. It refuses
requests whose size or alignment reaches `limit`. -/
structure Allocator where
  frontier : Nat := 0x7f0000000000
  limit : Nat := 1 <<< 62
  deriving DecidableEq, Repr, Inhabited

namespace Allocator

/-- The address an allocation of `size` bytes would get. An empty allocation has the null address,
after its layout has been found valid like that of one byte. -/
def locate (allocator : Allocator) (size alignment : Nat) : Except Failure Nat :=
  if layoutLimit < max size 1 + alignment then
    .error (.invalidArgument "size" "invalid parameters to Layout::from_size_align")
  else if size = 0 then .ok 0
  else if allocator.limit ≤ size ∨ allocator.limit ≤ alignment then .error (.outOfMemory size)
  else .ok (alignUp allocator.frontier alignment)

/-- Takes the range of a located allocation out of what is left, with a gap behind it. -/
def commit (allocator : Allocator) (address size : Nat) : Allocator :=
  { allocator with frontier := max allocator.frontier (address + size + 64) }

end Allocator

end Offload
