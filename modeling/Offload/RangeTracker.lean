import Offload.View.Flags

/-!
# Tracked address ranges

A context records the address range of each of its live views, so that an arbitrary address can be
classified. Ranges may coincide, nest or overlap. Each registration is kept on its own and removed
only by its own number.

The ranges are kept in descending order of their start, and of two with one start the later
registration comes first. The first range in that order that starts at or below an address and
holds it is therefore the innermost one, and it decides.
-/

namespace Offload

/-- The range `[start, start + size)` under its registration number. Ends are not reduced to the
width of an address, so a range may reach past the last address. -/
structure TrackedRange where
  start : Nat
  number : Nat
  size : Nat
  kind : AllocationKind
  deriving DecidableEq, Repr

namespace TrackedRange

/-- Whether `left` comes before `right` in the order of the tracker. -/
def precedes (left right : TrackedRange) : Bool :=
  right.start < left.start || (right.start == left.start && right.number < left.number)

/-- Whether a range that starts at or below `address` reaches it. -/
def reaches (range : TrackedRange) (address : Nat) : Bool :=
  address - range.start < range.size

end TrackedRange

/-- The ranges registered at present, in descending order, and the next registration number. -/
structure RangeTracker where
  nextNumber : Nat := 0
  ranges : List TrackedRange := []
  deriving DecidableEq, Repr, Inhabited

namespace RangeTracker

/-- Puts a range before the first one it precedes. -/
def place (range : TrackedRange) : List TrackedRange → List TrackedRange
  | [] => [range]
  | first :: rest =>
    if range.precedes first then range :: first :: rest else first :: place range rest

/-- Registers a range and gives its number. Null and empty ranges are not registered. -/
def track (tracker : RangeTracker) (start size : Nat) (kind : AllocationKind) :
    RangeTracker × Option Nat :=
  if start = 0 ∨ size = 0 then (tracker, none)
  else
    let number := tracker.nextNumber
    (⟨number + 1, place ⟨start, number, size, kind⟩ tracker.ranges⟩, some number)

/-- Removes the registration of a number. -/
def forget (tracker : RangeTracker) (number : Nat) : RangeTracker :=
  { tracker with ranges := tracker.ranges.filter (·.number != number) }

/-- The range that decides the class of an address: the first in order that holds it. -/
def deciding? (tracker : RangeTracker) (address : Nat) : Option TrackedRange :=
  (tracker.ranges.dropWhile (address < ·.start)).find? (·.reaches address)

/-- The allocation kind of an address. The null address and addresses in no range are unknown. -/
def classify (tracker : RangeTracker) (address : Nat) : AllocationKind :=
  if address = 0 then .unknown
  else ((tracker.deciding? address).map (·.kind)).getD .unknown

/-- The number of registered ranges. -/
def size (tracker : RangeTracker) : Nat := tracker.ranges.length

/-- Whether nothing is registered. -/
def isEmpty (tracker : RangeTracker) : Bool := tracker.ranges.isEmpty

end RangeTracker

/-! ## A client of a tracker -/

/-- One use of a tracker by a client that keeps its registrations in a list. -/
inductive RangeStep where
  | track (start size : Nat) (kind : AllocationKind)
  /-- Gives up the registration at a position of the list. -/
  | drop (position : Nat)
  | classify (address : Nat)
  deriving DecidableEq, Repr

/-- What a use of a tracker answers. -/
inductive RangeReply where
  /-- Whether a registration was made, or was still there to be given up. -/
  | present (made : Bool)
  | kind (kind : AllocationKind)
  deriving DecidableEq, Repr

/-- A tracker with the registrations of its client, in the order they were asked for; those not
made or given up are absent. -/
structure RangeClient where
  tracker : RangeTracker := {}
  held : List (Option Nat) := []
  deriving DecidableEq, Repr, Inhabited

/-- One step of the client: its state afterwards and the answer. -/
def RangeClient.step (client : RangeClient) : RangeStep → RangeClient × RangeReply
  | .track start size kind =>
    let (tracker, number) := client.tracker.track start size kind
    (⟨tracker, client.held ++ [number]⟩, .present number.isSome)
  | .drop position =>
    match client.held[position]? with
    | some (some number) =>
      (⟨client.tracker.forget number, client.held.set position none⟩, .present true)
    | _ => (client, .present false)
  | .classify address => (client, .kind (client.tracker.classify address))

end Offload
