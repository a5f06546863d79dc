import Offload.Platform
import Offload.Session.Commit

/-!
# Workers

Each host queue has one worker, which takes the oldest accepted job, runs it to its end, and only
then takes the next. When the job has run, its future is settled, the objects it held are given up,
and the queue counts it as finished and wakes the clients that wait for it.
-/

namespace Offload.Session

/-- The state a job's future is settled to, by the failure of the job. -/
def futureOutcome : Option Failure → FutureState
  | none => .completed .clocked
  | some _ => .invalid

/-- Counts the oldest job of a queue as finished, and wakes the clients of the queue. A failure that
no drain will take is noted. -/
def finish (session : Session) (id : ObjectId) (queue : HostQueue) (job : Job)
    (rest : List Job) (failure : Option Failure) : Session :=
  let (progress, dropped) := queue.progress.finish failure
  let heap :=
    match job.future with
    | none => session.heap
    | some future => session.heap.settleFuture future (futureOutcome failure)
  let heap := heap.modifyQueue id ({ · with progress, jobs := rest })
  let warnings : Journal :=
    match dropped with
    | none => []
    | some failure =>
      [⟨.warn, "Dropping additional CPU queue failure until next sync",
        [("error", failure.message)]⟩]
  (({ session with heap } : Session).note warnings).collect.wake id

/-- The session after the worker of a queue has run its oldest job; none when there is no job, or
the job waits for the gate. -/
def work? (platform : Platform) (session : Session) (id : ObjectId) : Option Session :=
  match session.heap.hostQueue? id with
  | none => none
  | some queue =>
    match queue.jobs with
    | [] => none
    | job :: rest =>
      match job.work.run platform.routine job.operation session.host with
      | .done host => some ({ session with host }.finish id queue job rest none)
      | .failed failure host =>
        some ({ session with host }.finish id queue job rest (some failure))
      | .waiting => none

/-- One job of the oldest queue whose worker can run one. -/
def workSome? (platform : Platform) (session : Session) : Option Session :=
  session.heap.hostQueues.findSome? (session.work? platform ·)

/-- Runs jobs until no worker can run one, or `fuel` jobs have run. -/
def workAll (platform : Platform) : Nat → Session → Session
  | 0, session => session
  | fuel + 1, session =>
    match session.workSome? platform with
    | none => session
    | some session => workAll platform fuel session

end Offload.Session
