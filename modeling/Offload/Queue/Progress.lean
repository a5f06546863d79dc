import Offload.Failure

/-!
# Progress of a queue

A queue counts the operations it has accepted and not finished, and keeps the first failure since
the last drain. A client that submits waits for room, and a client that drains waits until nothing
is pending; both conditions are decided here, in one step each.
-/

namespace Offload

/-- The unfinished operations of a queue and the failure its next drain will take. -/
structure Progress where
  pending : Nat := 0
  failure : Option Failure := none
  deriving DecidableEq, Repr, Inhabited

namespace Progress

/-- Counts one more operation, where there is room. -/
def acquire? (progress : Progress) (capacity : Nat) : Option Progress :=
  if progress.pending < capacity then some { progress with pending := progress.pending + 1 }
  else none

/-- Counts one operation as finished. Its failure is kept if none is kept yet, and otherwise given
back as one that no drain will take. -/
def finish (progress : Progress) (failure : Option Failure) : Progress × Option Failure :=
  match progress.failure with
  | none => (⟨progress.pending - 1, failure⟩, none)
  | some kept => (⟨progress.pending - 1, some kept⟩, failure)

/-- Takes the kept failure, where nothing is pending. -/
def drain? (progress : Progress) : Option (Progress × Option Failure) :=
  if progress.pending = 0 then some (⟨0, none⟩, progress.failure) else none

end Progress

end Offload
