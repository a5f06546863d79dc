import Offload.Clients
import Offload.Proofs.Session.Work

/-!
# A queue and a run without one

One client gives commands on one queue, and what it does next may depend on everything it has seen.
It is served in two ways. In an errand the queue has a worker of its own: the client and the worker
take turns in any order, and the client may have to wait. In an immediate run each accepted job is
run at once, at the command that submits it, so nobody ever waits and nothing is ever pending.
-/

namespace Offload

/-! ## Commands and what is seen of them -/

/-- What a client asks for on its queue. -/
inductive Command where
  | copyToDevice (view : Handle)
  | copyToHost (view : Handle)
  | copy (destination source : Handle) (size : Nat)
  | launch (kernel parameters : Handle) (extent : Extent)
  | barrier
  | sync
  /-- Gives up a reference of a handle, which may be any. -/
  | release (handle : Handle)
  deriving DecidableEq, Repr

/-- The request a command stands for. -/
def Command.request (queue : Handle) : Command → Request
  | copyToDevice view => .copyToDevice queue view
  | copyToHost view => .copyToHost queue view
  | copy destination source size => .copyView queue destination source size
  | launch kernel parameters extent => .launch queue kernel parameters extent
  | barrier => .barrier queue
  | sync => .sync queue
  | release handle => .release handle

/-- The entry that a job's work calls, with its arguments. -/
def Work.entered : Work → List (Entry × Invocation)
  | .enter entry invocation => [(entry, invocation)]
  | _ => []

/-- What can be seen when a `sync` returns: the memory, the futures and the calls of entries. -/
structure Snapshot where
  memory : Memory
  futures : Handle → Option FutureState
  entered : List (Entry × Invocation)

/-- What a client sees of a command: its outcome and, after a `sync` of its queue, a snapshot. -/
structure Sight where
  outcome : Outcome
  snapshot : Option Snapshot

/-- What a client does next, by what it has seen; nothing when it is done. -/
abbrev Client := List Sight → Option Command

namespace Session

/-- The state of the future of a handle. -/
def futureState? (session : Session) (handle : Handle) : Option FutureState :=
  match session.future handle with
  | .ok (_, .cell state) => some state
  | _ => none

def snapshot (session : Session) (entered : List (Entry × Invocation)) : Snapshot :=
  ⟨session.host.memory, session.futureState?, entered⟩

/-- What is seen of a command when it has its outcome. A `sync` of a queue that is not there syncs
nothing. -/
def sight (session : Session) (entered : List (Entry × Invocation)) (queue : Handle)
    (command : Command) (outcome : Outcome) : Sight :=
  match command, session.queue queue with
  | .sync, .ok _ => ⟨outcome, some (session.snapshot entered)⟩
  | _, _ => ⟨outcome, none⟩

end Session

/-! ## Immediate runs -/

/-- A run that executes each job at once: a session in which no queue is used, the failure that the
next `sync` gets, the entries that have been called, and what the client has seen. -/
structure Immediate where
  session : Session
  failure : Option Failure := none
  entered : List (Entry × Invocation) := []
  seen : List Sight := []

namespace Immediate

/-- A job has ended: its future is settled, and its failure is kept if it is the first. -/
def conclude (state : Immediate) (job : Job) (host : HostState) (failure : Option Failure) :
    Immediate :=
  { state with
    session :=
      { state.session with host, heap := Session.settled state.session.heap job failure }
    failure := state.failure.or failure
    entered := state.entered ++ job.work.entered }

/-- Runs a job to its end. -/
def execute (routine : Entry → Routine) (state : Immediate) (job : Job) : Immediate :=
  match job.work.run routine job.operation state.session.host with
  | .done host => state.conclude job host none
  | .failed failure host => state.conclude job host (some failure)
  | .waiting => state

/-- Does at once what a client of a queue would wait for. -/
def attend (routine : Entry → Routine) (id : ObjectId) (state : Immediate) :
    Stage → Immediate × Outcome
  | .room _ job =>
    let state := state.execute routine job
    let (session, outcome) := state.session.deliver job
    ({ state with session }, outcome)
  | .drained _ => ({ state with failure := none }, Session.drainOutcome state.failure)
  | .discarded queue outcome =>
    (if queue = id then { state with failure := none } else state, outcome)

/-- Does at once what is left to do of an operation. -/
def follow (routine : Entry → Routine) (id : ObjectId) (state : Immediate) :
    Progressed → Immediate × Outcome
  | .ended outcome => (state, outcome)
  | .waits stage => state.attend routine id stage

/-- Decides and commits a request, and does at once what it would wait for. -/
def perform (platform : Platform) (id : ObjectId) (state : Immediate) (request : Request) :
    Immediate × Outcome :=
  let (outcome, ambient) :=
    (request.decide platform state.session).run.run state.session.ambient
  let session := { state.session with ambient }
  match outcome with
  | .error interruption => ({ state with session }, .error interruption)
  | .ok decision =>
    let (session, progressed) := session.commit decision
    { state with session }.follow platform.routine id progressed

/-- The client sees the outcome of a command. -/
def witness (queue : Handle) (command : Command) (state : Immediate) (outcome : Outcome) :
    Immediate :=
  { state with
    seen := state.seen ++ [state.session.sight state.entered queue command outcome] }

/-- The client's next command. -/
def next (platform : Platform) (queue : Handle) (id : ObjectId) (client : Client)
    (state : Immediate) : Immediate :=
  match client state.seen with
  | none => state
  | some command =>
    let (after, outcome) := state.perform platform id (command.request queue)
    after.witness queue command outcome

/-- The client's first commands. -/
def run (platform : Platform) (queue : Handle) (id : ObjectId) (client : Client) :
    Nat → Immediate → Immediate
  | 0, state => state
  | count + 1, state => (run platform queue id client count state).next platform queue id client

end Immediate

/-- An immediate run starts with the failure a queue has recorded, whatever the queue could hold. -/
def Session.immediately (session : Session) (id : ObjectId) (ordered : HostQueue) (capacity : Nat) :
    Immediate where
  session := { session with heap := session.heap.modifyQueue id ({ · with capacity }) }
  failure := ordered.progress.failure

/-! ## Errands -/

/-- A client that is served by a queue: the session, the entries the worker has called, the command
that has been started but whose outcome has not been seen, and what the client has seen. -/
structure Errand where
  session : Session
  entered : List (Entry × Invocation) := []
  inFlight : Option (Command × Ticket) := none
  seen : List Sight := []

namespace Errand

/-- A turn of the client or of the worker of its queue. -/
inductive Turn (program : Program) (queue : Handle) (id : ObjectId) (client : Client) :
    Errand → Errand → Prop where
  /-- The client starts its next command. -/
  | start {errand : Errand} {command : Command} (hidle : errand.inFlight = none)
    (hnext : client errand.seen = some command) :
    Turn program queue id client errand
      { errand with
        session := (errand.session.startRequest program (command.request queue)).1
        inFlight := some (command, (errand.session.startRequest program
          (command.request queue)).2) }
  /-- The worker runs the oldest job of the queue. -/
  | work {errand : Errand} {ordered : HostQueue} {job : Job} {rest : List Job} {after : Session}
    (hqueue : errand.session.heap.hostQueue? id = some ordered) (hjobs : ordered.jobs = job :: rest)
    (hwork : errand.session.work? program.toPlatform id = some after) :
    Turn program queue id client errand
      { errand with session := after, entered := errand.entered ++ job.work.entered }
  /-- The client was woken while it waits, and looks again. -/
  | resume {errand : Errand} {waiting : Waiting} {after : Session}
    (hclient : waiting ∈ errand.session.waiting)
    (hresume : errand.session.resume? program waiting = some after) :
    Turn program queue id client errand { errand with session := after }
  /-- The client sees the outcome of its command. -/
  | see {errand : Errand} {command : Command} {ticket : Ticket} {answer : Answer}
    (hflight : errand.inFlight = some (command, ticket))
    (hanswer : errand.session.answer? ticket = some answer) :
    Turn program queue id client errand
      { errand with
        inFlight := none
        seen := errand.seen ++
          [errand.session.sight errand.entered queue command answer.outcome] }

/-- Any number of turns. -/
inductive Turns (program : Program) (queue : Handle) (id : ObjectId) (client : Client) :
    Errand → Errand → Prop where
  | refl (errand : Errand) : Turns program queue id client errand errand
  | turn {start errand after : Errand} (hturns : Turns program queue id client start errand)
    (hturn : Turn program queue id client errand after) :
    Turns program queue id client start after

theorem Turns.trans {program : Program} {queue : Handle} {id : ObjectId} {client : Client}
    {first middle last : Errand} (hfirst : Turns program queue id client first middle)
    (hsecond : Turns program queue id client middle last) :
    Turns program queue id client first last := by
  induction hsecond with
  | refl => exact hfirst
  | turn _ hturn ih => exact ih.turn hturn

/-! ## Schedules -/

/-- Whose turn it is. -/
inductive Move where
  | start
  | work
  | resume
  | see

/-- The errand after a move, if the move is possible. -/
def move? (program : Program) (queue : Handle) (id : ObjectId) (client : Client)
    (errand : Errand) : Move → Option Errand
  | .start =>
    match errand.inFlight, client errand.seen with
    | none, some command =>
      let (session, ticket) := errand.session.startRequest program (command.request queue)
      some { errand with session, inFlight := some (command, ticket) }
    | _, _ => none
  | .work => do
    let ordered ← errand.session.heap.hostQueue? id
    let job ← ordered.jobs.head?
    let session ← errand.session.work? program.toPlatform id
    some { errand with session, entered := errand.entered ++ job.work.entered }
  | .resume => do
    let waiting ← errand.session.waiting.head?
    let session ← errand.session.resume? program waiting
    some { errand with session }
  | .see => do
    let (command, ticket) ← errand.inFlight
    let answer ← errand.session.answer? ticket
    some
      { errand with
        inFlight := none
        seen := errand.seen ++
          [errand.session.sight errand.entered queue command answer.outcome] }

/-- The errand after some moves, one after the other. -/
def moves? (program : Program) (queue : Handle) (id : ObjectId) (client : Client)
    (schedule : List Move) (errand : Errand) : Option Errand :=
  schedule.foldlM (move? program queue id client) errand

/-- A possible move is a turn. -/
theorem turn_of_move? {program : Program} {queue : Handle} {id : ObjectId} {client : Client}
    {errand next : Errand} {move : Move}
    (hmove : errand.move? program queue id client move = some next) :
    Turn program queue id client errand next := by
  cases move with
  | start =>
    simp only [move?] at hmove
    split at hmove
    · next command hidle hnext =>
      obtain rfl := Option.some.inj hmove
      exact .start hidle hnext
    · exact absurd hmove (by simp)
  | work =>
    simp only [move?, bind, Option.bind_eq_some_iff] at hmove
    obtain ⟨ordered, hqueue, job, hhead, after, hwork, hnext⟩ := hmove
    obtain rfl := Option.some.inj hnext
    obtain ⟨rest, hjobs⟩ := List.head?_eq_some_iff.1 hhead
    exact .work hqueue hjobs hwork
  | resume =>
    simp only [move?, bind, Option.bind_eq_some_iff] at hmove
    obtain ⟨waiting, hhead, after, hresume, hnext⟩ := hmove
    obtain rfl := Option.some.inj hnext
    exact .resume (List.mem_of_head? hhead) hresume
  | see =>
    simp only [move?, bind, Option.bind_eq_some_iff] at hmove
    obtain ⟨⟨command, ticket⟩, hflight, answer, hanswer, hnext⟩ := hmove
    obtain rfl := Option.some.inj hnext
    exact .see hflight hanswer

theorem turns_of_moves? {program : Program} {queue : Handle} {id : ObjectId} {client : Client}
    {schedule : List Move} {errand last : Errand}
    (hmoves : errand.moves? program queue id client schedule = some last) :
    Turns program queue id client errand last := by
  induction schedule generalizing errand with
  | nil =>
    obtain rfl := Option.some.inj hmoves
    exact .refl errand
  | cons move rest ih =>
    unfold moves? at hmoves
    rw [List.foldlM_cons, Option.bind_eq_bind, Option.bind_eq_some_iff] at hmoves
    obtain ⟨next, hmove, hrest⟩ := hmoves
    exact ((Turns.refl errand).turn (turn_of_move? hmove)).trans (ih hrest)

end Errand

end Offload
