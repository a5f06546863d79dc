import Offload.Backend.Selection
import Offload.Heap

/-!
# Sessions

A session is everything the clients of the runtime can observe: the handles, the live objects, the
host state that kernels work on, the settings and the journal, the error handler, and the clients
that wait for a queue.
-/

namespace Offload

/-- What a successful operation answers. -/
inductive Reply where
  | nothing
  | handle (handle : Handle)
  | number (number : Nat)
  | address (address : Nat)
  /-- The code behind a name; absent when its address is null. -/
  | code (address : Option CodeAddress)
  | kind (kind : AllocationKind)
  | flag (flag : Bool)
  | info (info : DeviceInfo)
  /-- The duration of a launch, unless it is unknown. -/
  | elapsed (elapsed : Option Elapsed)
  deriving DecidableEq, Repr

/-- How an operation ends: with a reply, or interrupted. -/
abbrev Outcome := Except Interruption Reply

/-! ## Error handlers -/

/-- An error handler: the standard one, which ends the process, or one of the host program. -/
inductive Handler where
  | standard
  | named (name : String)
  deriving DecidableEq, Repr

/-- A failure that a handler of the host program noted. -/
structure Note where
  handler : String
  kind : FailureKind
  message : String
  deriving DecidableEq, Repr

/-- How the process ended. -/
inductive Exit where
  /-- The standard handler ended it, with a status and a line for the user. -/
  | terminated (status : Nat) (line : String)
  /-- Handlers failed inside handlers until no room was left, or one waits for ever. -/
  | stuck
  deriving DecidableEq, Repr

/-! ## Waiting clients -/

/-- What a client waits for, with the outcome it will have where that is decided already. -/
inductive Stage where
  /-- Room for a job; the job's future, if it has one, is exported afterwards. -/
  | room (queue : ObjectId) (job : Job)
  /-- The end of everything a queue has accepted. -/
  | drained (queue : ObjectId)
  /-- The same, because the client gave up the last reference to the queue. -/
  | discarded (queue : ObjectId) (outcome : Outcome)

namespace Stage

/-- The queue a client waits for. -/
def queue : Stage → ObjectId
  | room queue _ => queue
  | drained queue => queue
  | discarded queue _ => queue

/-- The objects a waiting client keeps alive. -/
def references : Stage → List ObjectId
  | room queue job => queue :: job.references
  | drained queue => [queue]
  | discarded queue _ => [queue]

end Stage

/-- How the outcome of an operation reaches its client: through the error boundary, which reports
interruptions and gives a fixed reply instead, or as it is. -/
inductive Manner where
  | guarded (sentinel : Reply)
  | direct
  deriving DecidableEq, Repr

/-- A client's operation is identified by its ticket. -/
abbrev Ticket := Nat

/-- A client that waits in the middle of an operation. It sleeps from the moment it found that what
it waits for had not come, until something wakes it to look again. -/
structure Waiting where
  ticket : Ticket
  manner : Manner
  stage : Stage
  awake : Bool := false

/-- Wakes a client that waits for a queue. -/
def Waiting.wake (queue : ObjectId) (client : Waiting) : Waiting :=
  if client.stage.queue = queue then { client with awake := true } else client

/-- What a client gets in the end, with the failures noted on the way. -/
structure Answer where
  outcome : Outcome
  notes : List Note := []

/-! ## The session -/

/-- The state of the runtime and its clients. -/
structure Session where
  ambient : Ambient := {}
  registry : Registry ObjectId := Registry.empty
  heap : Heap := {}
  host : HostState := {}
  allocator : Allocator := {}
  handler : Option Handler := some .standard
  waiting : List Waiting := []
  nextTicket : Ticket := 0
  /-- The answers of operations that have ended. -/
  answers : List (Ticket × Answer) := []
  exit : Option Exit := none

instance : Inhabited Session := ⟨{}⟩

namespace Session

/-- Notes events. -/
def note (session : Session) (events : Journal) : Session :=
  { session with ambient := session.ambient.note events }

/-- Everything outside the heap that refers to an object: handles, waiting clients and jobs. -/
def roots (session : Session) : List ObjectId :=
  session.registry.values.map (·.object) ++
    session.waiting.flatMap (·.stage.references) ++
    session.heap.jobs.flatMap (·.references)

/-- Whether a handle or a waiting client refers to an object. -/
def refersTo (session : Session) (id : ObjectId) : Bool :=
  session.registry.values.any (·.object == id) ||
    session.waiting.any (·.stage.references.contains id)

/-- Wakes every client that waits for a queue. -/
def wake (session : Session) (queue : ObjectId) : Session :=
  { session with waiting := session.waiting.map (·.wake queue) }

/-- The session without the objects nothing refers to, and without the static data of libraries
that no module keeps loaded. -/
def collect (session : Session) : Session :=
  let heap := session.heap.collect session.roots
  { session with heap, host := session.host.keepStatics heap.files }

/-! ## Tickets -/

/-- Gives out the next ticket. -/
def takeTicket (session : Session) : Session × Ticket :=
  ({ session with nextTicket := session.nextTicket + 1 }, session.nextTicket)

/-- The session in which one more client waits. -/
def withClient (session : Session) (client : Waiting) : Session :=
  { session with waiting := session.waiting ++ [client] }

/-- The session without a client among the waiting ones. -/
def withoutClient (session : Session) (ticket : Ticket) : Session :=
  { session with waiting := session.waiting.filter (·.ticket != ticket) }

/-! ## Looking handles up -/

/-- The object of a handle, for kinds whose objects `find?` reads out of the heap. -/
def lookup {α : Type} (session : Session) (kind : Kind) (find? : Heap → ObjectId → Option α)
    (handle : Handle) : Except Failure (ObjectId × α) := do
  let id ← session.registry.lookup kind handle
  match find? session.heap id with
  | some object => .ok (id, object)
  | none => .error (.invalidHandle handle)

/-- The context of a handle. -/
def context (session : Session) : Handle → Except Failure (ObjectId × Context) :=
  session.lookup .context Heap.context?

/-- The device of a handle. -/
def device (session : Session) : Handle → Except Failure (ObjectId × Device) :=
  session.lookup .device Heap.device?

/-- The view of a handle. -/
def view (session : Session) : Handle → Except Failure (ObjectId × View) :=
  session.lookup .memoryView Heap.view?

/-- The module of a handle. -/
def module (session : Session) : Handle → Except Failure (ObjectId × CodeModule) :=
  session.lookup .module Heap.module?

/-- The kernel of a handle. -/
def kernel (session : Session) : Handle → Except Failure (ObjectId × Kernel) :=
  session.lookup .kernel Heap.kernel?

/-- The queue of a handle. -/
def queue (session : Session) : Handle → Except Failure (ObjectId × TaskQueue) :=
  session.lookup .taskQueue Heap.queue?

/-- The future of a handle. -/
def future (session : Session) : Handle → Except Failure (ObjectId × Future) :=
  session.lookup .future Heap.future?

/-- The parameters of a launch; the null handle stands for none. -/
def parameters (session : Session) (handle : Handle) :
    Except Failure (Option (ObjectId × View)) :=
  if handle = 0 then .ok none else (session.view handle).map some

/-! ## Handles -/

/-- Gives out a handle for an object. -/
def expose (session : Session) (kind : Kind) (id : ObjectId) : Session × Handle :=
  let (registry, handle) := session.registry.register kind id
  let event : Event :=
    ⟨.trace, "Handle created",
      [("handle", toString handle), ("kind", Quoted.quote kind.name)]⟩
  ({ session.note [event] with registry }, handle)

end Session

end Offload
