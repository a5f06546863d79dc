/-!
# Futures

The outcome of one launch. A future starts pending and is settled once: to a completion with a
duration, or to invalid. Later attempts to settle it change nothing.
-/

namespace Offload

/-- How long a launch took. Durations read off the host clock differ from run to run, so only the
fact that one was taken is kept; a duration supplied by a caller is kept exactly. -/
inductive Elapsed where
  | clocked
  | given (nanoseconds : Nat)
  deriving DecidableEq, Repr, Inhabited

/-- The state of a launch's outcome. -/
inductive FutureState where
  /-- Accepted, not finished. -/
  | pending
  /-- Finished after the given time. -/
  | completed (elapsed : Elapsed)
  /-- Failed or abandoned. -/
  | invalid
  deriving DecidableEq, Repr, Inhabited

namespace FutureState

/-- Moves a pending future to `next`; a settled one keeps its state. -/
def settle (state next : FutureState) : FutureState :=
  match state with
  | pending => next
  | settled => settled

/-- Whether the future can still be settled. -/
def isPending (state : FutureState) : Bool := state == pending

/-- Whether the launch is pending or finished. -/
def isValid (state : FutureState) : Bool := state != invalid

/-- Whether the launch has finished. -/
def isComplete : FutureState → Bool
  | completed _ => true
  | _ => false

/-- The duration, once known. -/
def elapsed? : FutureState → Option Elapsed
  | completed elapsed => some elapsed
  | _ => none

@[simp]
theorem settle_pending (next : FutureState) : settle pending next = next := rfl

@[simp]
theorem settle_completed (elapsed : Elapsed) (next : FutureState) :
    settle (completed elapsed) next = completed elapsed := rfl

@[simp]
theorem settle_invalid (next : FutureState) : settle invalid next = invalid := rfl

end FutureState

/-- One client's use of a future that is shared between clients. -/
inductive FutureStep where
  | complete (nanoseconds : Nat)
  | invalidate
  | query
  | wait
  /-- Another client settles the future while this one waits: to a completion with the given time,
  or to invalid. -/
  | waitFor (nanoseconds : Option Nat)
  deriving DecidableEq, Repr

/-- What a step on a future answers. -/
inductive FutureReply where
  /-- Whether the step settled the future. -/
  | settled (changed : Bool)
  | nothing
  /-- The state the wait ended in. -/
  | state (state : FutureState)
  /-- The state the wait ended in, and whether the other client settled the future. -/
  | observed (state : FutureState) (changed : Bool)
  deriving DecidableEq, Repr

namespace FutureState

/-- The state a client asks for: a completion with its time, or invalid. -/
def ofTime : Option Nat → FutureState
  | some nanoseconds => completed (.given nanoseconds)
  | none => invalid

/-- One step on a shared future: the state after it and its answer. -/
def step (state : FutureState) : FutureStep → FutureState × FutureReply
  | .complete nanoseconds =>
    (state.settle (completed (.given nanoseconds)), .settled state.isPending)
  | .invalidate => (state.settle invalid, .settled state.isPending)
  | .query => (state, .nothing)
  | .wait => (state, .state state)
  | .waitFor time =>
    let after := state.settle (ofTime time)
    (after, .observed after state.isPending)

end FutureState

end Offload
