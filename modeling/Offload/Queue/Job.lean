import Offload.Failure
import Offload.Kernel.Routine

/-!
# Jobs

A job is what a queue runs for one accepted operation. It carries the addresses and the entry its
operation was resolved to, and names the objects it keeps alive until it has run.
-/

namespace Offload

/-- The operations that queues run. -/
inductive Operation where
  | copyToDevice
  | copyToHost
  | copy
  | launch
  deriving DecidableEq, Repr

/-- The name of an operation in messages. -/
def Operation.name : Operation → String
  | .copyToDevice => "copy_to_device"
  | .copyToHost => "copy_to_host"
  | .copy => "copy"
  | .launch => "launch"

/-- What a job does to the host state. -/
inductive Work where
  /-- Host and device memory are one, so a transfer only takes its place in the order. -/
  | transfer
  | move (destination source size : Nat)
  | enter (entry : Entry) (invocation : Invocation)
  deriving DecidableEq, Repr

/-- How a job ends. -/
inductive WorkEnding where
  | done (after : HostState)
  | failed (failure : Failure) (after : HostState)
  /-- The job waits for the gate. -/
  | waiting

namespace Work

/-- Runs a job's work. A routine that panics fails the operation it ran for. -/
def run (routine : Entry → Routine) (operation : Operation) (host : HostState) :
    Work → WorkEnding
  | transfer => .done host
  | move destination source size =>
    if destination = 0 ∨ source = 0 then
      .failed (.execution "copy between unallocated views") host
    else .done { host with memory := host.memory.move destination source size }
  | enter entry invocation =>
    match routine entry invocation host with
    | .returned after => .done after
    | .panicked text after =>
      .failed (.execution s!"{operation.name} panicked: {text.getD unknownPanic}") after
    | .waiting => .waiting
where
  /-- The text of a panic that carries none. -/
  unknownPanic : String := "unknown panic"

end Work

/-- One accepted operation of a queue. -/
structure Job where
  operation : Operation
  work : Work
  /-- The objects the job keeps alive. -/
  holds : List ObjectId
  /-- The future the job settles. -/
  future : Option ObjectId := none
  deriving DecidableEq, Repr

namespace Job

/-- Everything the job keeps alive, its future included. -/
def references (job : Job) : List ObjectId := job.future.toList ++ job.holds

end Job

end Offload
