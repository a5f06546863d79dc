/-!
# Launch extents

A launch covers a three-dimensional index space. An extent of fewer dimensions is completed with
ones.
-/

namespace Offload

/-- Sizes and counts are words of this many values. -/
def wordLimit : Nat := 1 <<< 64

/-- The index space of a launch. -/
structure Extent where
  width : Nat
  height : Nat
  depth : Nat
  deriving DecidableEq, Repr, Inhabited

namespace Extent

/-- A line of `width` instances. -/
def line (width : Nat) : Extent := ⟨width, 1, 1⟩

/-- A grid of `width` by `height` instances. -/
def plane (width height : Nat) : Extent := ⟨width, height, 1⟩

/-- The three sizes, in order. -/
def toList (extent : Extent) : List Nat := [extent.width, extent.height, extent.depth]

/-- The product of two words, where it is a word again. -/
def timesWord? (left right : Nat) : Option Nat :=
  if left * right < wordLimit then some (left * right) else none

/-- The number of instances, multiplied up from the left; no number once a partial product leaves
the range of words. -/
def count? (extent : Extent) : Option Nat :=
  extent.toList.foldlM timesWord? 1

/-- Whether the launch has no instance at all. -/
def isEmpty (extent : Extent) : Bool :=
  extent.toList.any (· == 0)

end Extent

end Offload
