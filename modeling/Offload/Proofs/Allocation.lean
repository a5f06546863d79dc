import Offload.Memory

/-!
# Host allocations

What an allocator answers is decided by the size and the alignment of a request. The layout of a
request for nothing is checked like that of one byte, so a request for nothing is granted unless its
alignment is as large as layouts may be.
-/

namespace Offload

/-! ## Multiples of an alignment -/

theorem dvd_alignUp (address alignment : Nat) : alignment ∣ alignUp address alignment :=
  Nat.dvd_mul_left _ _

theorem le_alignUp (address : Nat) {alignment : Nat} (hpositive : 0 < alignment) :
    address ≤ alignUp address alignment := by
  have hdivision := Nat.div_add_mod' (address + alignment - 1) alignment
  have hremainder := Nat.mod_lt (address + alignment - 1) hpositive
  unfold alignUp
  omega

namespace Allocator

/-- The failure of a request that is too large for its alignment. -/
def oversized : Failure :=
  .invalidArgument "size" "invalid parameters to Layout::from_size_align"

/-- Whether an allocator has no memory for a request. -/
def Refuses (allocator : Allocator) (size alignment : Nat) : Prop :=
  allocator.limit ≤ size ∨ allocator.limit ≤ alignment

/-- What an allocator may answer to a request for a size and an alignment. -/
inductive Answers (allocator : Allocator) (size alignment : Nat) : Except Failure Nat → Prop where
  | oversized (hlayout : layoutLimit < max size 1 + alignment) :
    Answers allocator size alignment (.error oversized)
  | empty (hsize : size = 0) (hlayout : alignment < layoutLimit) :
    Answers allocator size alignment (.ok 0)
  | refused (hsize : 0 < size) (hlayout : size + alignment ≤ layoutLimit)
    (hrefused : allocator.Refuses size alignment) :
    Answers allocator size alignment (.error (.outOfMemory size))
  | granted (hsize : 0 < size) (hlayout : size + alignment ≤ layoutLimit)
    (hgranted : ¬allocator.Refuses size alignment) :
    Answers allocator size alignment (.ok (alignUp allocator.frontier alignment))

theorem answers_locate (allocator : Allocator) (size alignment : Nat) :
    allocator.Answers size alignment (allocator.locate size alignment) := by
  unfold locate
  split
  · next hlayout => exact .oversized hlayout
  · next hlayout =>
    split
    · next hsize => exact .empty hsize (by omega)
    · next hsize =>
      split
      · next hrefused => exact .refused (by omega) (by omega) hrefused
      · next hgranted => exact .granted (by omega) (by omega) hgranted

theorem dvd_of_locate {allocator : Allocator} {size alignment located : Nat}
    (hlocate : allocator.locate size alignment = .ok located) : alignment ∣ located := by
  have hanswers := allocator.answers_locate size alignment
  rw [hlocate] at hanswers
  cases hanswers with
  | empty => exact Nat.dvd_zero alignment
  | granted => exact dvd_alignUp allocator.frontier alignment

end Allocator

end Offload
