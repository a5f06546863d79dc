import Offload.Session.Basic

/-!
# Committing decisions

An operation first decides and then commits. A decision has passed all checks: committing it cannot
find anything else wrong with the arguments. Only two things remain open. A hook of foreign code
may itself refuse, and a client may have to wait for a queue.
-/

namespace Offload

/-- What a decision does to the session. -/
inductive Effect where
  /-- Nothing; the reply is known. -/
  | answer (reply : Reply)
  /-- Nothing; foreign code refused. -/
  | refuse (failure : Failure)
  /-- Makes an object and gives out a handle for it. -/
  | create (creation : Creation)
  /-- Gives out another handle for an object. -/
  | expose (kind : Kind) (id : ObjectId)
  | retain (handle : Handle)
  | release (handle : Handle)
  /-- Makes modules peers of each other. -/
  | link (modules : List ObjectId)
  /-- Submits a job to a host queue. -/
  | submit (queue : ObjectId) (job : Job)
  /-- Submits a job to a host queue with a future of its own, and gives out a handle for it. -/
  | launch (queue : ObjectId) (job : Job)
  /-- Waits for everything a host queue has accepted. -/
  | drain (queue : ObjectId)
  /-- Settles a future. -/
  | settle (future : ObjectId) (next : FutureState)
  /-- Installs an error handler, or none. -/
  | install (handler : Option Handler)

/-- What an operation has decided: the calls of foreign hooks it makes, and its effect. -/
structure Decision where
  records : List CallRecord := []
  effect : Effect

namespace Decision

/-- A decision that only answers. -/
def answer (reply : Reply) : Decision := { effect := .answer reply }

/-- A decision that makes an object. -/
def create (creation : Creation) : Decision := { effect := .create creation }

end Decision

/-- How far an operation has come: it has ended, or waits. -/
inductive Progressed where
  | ended (outcome : Outcome)
  | waits (stage : Stage)

namespace Progressed

/-- An operation that ends with a reply. -/
def reply (reply : Reply) : Progressed := .ended (.ok reply)

/-- An operation that ends with a failure. -/
def failed (failure : Failure) : Progressed := .ended (.error (.failure failure))

end Progressed

namespace Session

/-! ## Making objects -/

/-- Puts an object on the heap. -/
def place (session : Session) (object : Object) : Session × ObjectId :=
  let (heap, id) := session.heap.insert object
  ({ session with heap }, id)

/-- Puts a view on the heap: its memory is taken, and its range registered in its context. -/
def placeView (session : Session) (view : View) : Session × ObjectId :=
  match view with
  | .foreign _ _ _ _ _ => session.place (.view view)
  | .host host =>
    let allocator :=
      if host.owned then session.allocator.commit host.address host.size else session.allocator
    match session.heap.context? host.context with
    | some (.host _ ranges) =>
      let (ranges, registration) := ranges.track host.address host.size host.kind
      let heap := session.heap.modifyContext host.context (·.mapRanges fun _ => ranges)
      let session := { session with allocator, heap }
      session.place (.view (.host { host with registration }))
    | _ => { session with allocator }.place (.view view)

/-- Puts the object of a creation on the heap, with what it needs of its own. -/
def placeCreation (session : Session) : Creation → Session × ObjectId
  | .context context => session.place (.context context)
  | .device device => session.place (.device device)
  | .deviceWithContext index =>
    let (session, context) := session.place (.context (.host false {}))
    session.place (.device (.host index context))
  | .view view => session.placeView view
  | .module module => session.place (.module module)
  | .kernel kernel => session.place (.kernel kernel)
  | .queue queue => session.place (.queue queue)
  | .queueWithDevice capacity =>
    let (session, context) := session.place (.context (.host false {}))
    let (session, device) := session.place (.device (.host 0 context))
    session.place (.queue (.host (HostQueue.new device capacity)))
  | .future future => session.place (.future future)

end Session

/-- The kind of the object a creation makes. -/
def Creation.kind : Creation → Kind
  | .context _ => .context
  | .device _ | .deviceWithContext _ => .device
  | .view _ => .memoryView
  | .module _ => .module
  | .kernel _ => .kernel
  | .queue _ | .queueWithDevice _ => .taskQueue
  | .future _ => .future

namespace Session

/-- Makes an object and gives out a handle for it. -/
def create (session : Session) (creation : Creation) : Session × Handle :=
  let (session, id) := session.placeCreation creation
  session.expose creation.kind id

/-! ## Waiting for queues -/

/-- An operation on a queue has its outcome. If the queue has lost its last other reference in the
meantime, the client gives up the last one and waits for the queue to end. -/
def leave (session : Session) (queue : ObjectId) (outcome : Outcome) : Session × Progressed :=
  if session.refersTo queue then (session, .ended outcome)
  else (session, .waits (.discarded queue outcome))

/-- Moves a client on that waits for a queue, if what it waits for has come. -/
def advance? (session : Session) : Stage → Option (Session × Progressed)
  | .room id job => do
    let queue ← session.heap.hostQueue? id
    let progress ← queue.progress.acquire? queue.capacity
    let heap := session.heap.modifyQueue id fun queue =>
      { queue with progress, jobs := queue.jobs ++ [job] }
    let session := { session with heap }
    match job.future with
    | none => some (session.leave id (.ok .nothing))
    | some future =>
      let (session, handle) := session.expose .future future
      some (session.leave id (.ok (.handle handle)))
  | .drained id => do
    let queue ← session.heap.hostQueue? id
    let (progress, failure) ← queue.progress.drain?
    let heap := session.heap.modifyQueue id ({ · with progress })
    let outcome : Outcome :=
      match failure with
      | none => .ok .nothing
      | some failure => .error (.failure failure)
    some (({ session with heap } : Session).leave id outcome)
  | .discarded id outcome => do
    let queue ← session.heap.hostQueue? id
    let (progress, failure) ← queue.progress.drain?
    let heap := session.heap.modifyQueue id ({ · with progress })
    let warnings : Journal :=
      match failure with
      | none => []
      | some failure =>
        [⟨.warn, "CPU task queue dropped with unreported failure",
          [("error", failure.message)]⟩]
    some (({ session with heap } : Session).note warnings, .ended outcome)

/-- Moves an operation on as far as it comes without anyone else. When it has ended, what only it
referred to is given up. -/
def pursue (session : Session) : Progressed → Session × Progressed
  | .ended outcome => (session.collect, .ended outcome)
  | .waits stage =>
    match session.advance? stage with
    | none => (session, .waits stage)
    | some (session, .ended outcome) => (session.collect, .ended outcome)
    | some (session, .waits last) =>
      match session.advance? last with
      | some (session, .ended outcome) => (session.collect, .ended outcome)
      | _ => (session, .waits last)

/-! ## Committing -/

/-- Takes a reference of a handle away. With its last reference the handle is gone; the client that
gives up the last reference to a queue waits for the queue to end. -/
def release (session : Session) (handle : Handle) : Session × Progressed :=
  match session.registry.release handle with
  | .error failure => (session, .failed failure)
  | .ok (registry, none) => ({ session with registry }, .reply .nothing)
  | .ok (registry, some slot) =>
    let event : Event :=
      ⟨.trace, "Handle destroyed",
        [("handle", toString handle), ("kind", Quoted.quote slot.kind.name)]⟩
    let session := { session.note [event] with registry }
    match session.heap.hostQueue? slot.object with
    | none => (session, .reply .nothing)
    | some _ => session.leave slot.object (.ok .nothing)

/-- Commits a decision. -/
def commit (session : Session) (decision : Decision) : Session × Progressed :=
  let session := { session with host := decision.records.foldl .record session.host }
  match decision.effect with
  | .answer reply => (session, .reply reply)
  | .refuse failure => (session, .failed failure)
  | .create creation =>
    let (session, handle) := session.create creation
    (session, .reply (.handle handle))
  | .expose kind id =>
    let (session, handle) := session.expose kind id
    (session, .reply (.handle handle))
  | .retain handle =>
    match session.registry.retain handle with
    | .error failure => (session, .failed failure)
    | .ok registry => ({ session with registry }, .reply .nothing)
  | .release handle => session.release handle
  | .link modules => ({ session with heap := session.heap.link modules }, .reply .nothing)
  | .submit queue job => (session, .waits (.room queue job))
  | .launch queue job =>
    let (session, future) := session.place (.future (.cell .pending))
    (session, .waits (.room queue { job with future := some future }))
  | .drain queue => (session, .waits (.drained queue))
  | .settle future next =>
    let changed :=
      match session.heap.future? future with
      | some (.cell state) => state.isPending
      | _ => false
    ({ session with heap := session.heap.settleFuture future next }, .reply (.flag changed))
  | .install handler => ({ session with handler }, .reply .nothing)

/-- Decides and commits an operation, and moves it on as far as it comes without anyone else. An
interrupted decision leaves everything but the settings and the journal as it was. -/
def perform (session : Session) (decide : Deciding Decision) : Session × Progressed :=
  let (outcome, ambient) := decide.run.run session.ambient
  let session := { session with ambient }
  match outcome with
  | .error interruption => (session, .ended (.error interruption))
  | .ok decision =>
    let (session, progressed) := session.commit decision
    session.pursue progressed

end Session

end Offload
