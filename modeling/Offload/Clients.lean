import Offload.Boundary
import Offload.Request

/-!
# Clients

A client starts an operation, which ends at once or waits for a queue. Meanwhile workers run jobs
and other clients start operations of their own. Whether a worker runs its next job, or a client
that was woken looks again, is a step of the session that may be taken whenever it is possible; a
run of the session is any sequence of such steps. `settle` takes them until none is left.
-/

namespace Offload.Session

/-- How deep handlers may fail inside handlers. -/
def nesting : Nat := 100

/-- Files the state an operation has come to: its answer when it has ended, its client among the
waiting ones otherwise. -/
def file (program : Program) (session : Session) (ticket : Ticket) (manner : Manner) :
    Progressed → Session
  | .waits stage => session.withClient { ticket, manner, stage }
  | .ended outcome =>
    match manner with
    | .direct =>
      { session with answers := session.answers ++ [(ticket, ⟨outcome, []⟩)] }
    | .guarded sentinel =>
      let (session, reply, notes) := session.guard program nesting sentinel outcome
      { session with answers := session.answers ++ [(ticket, ⟨.ok reply, notes⟩)] }

/-- Starts a boundary call. -/
def startCall (program : Program) (session : Session) (call : Call) : Session × Ticket :=
  let (session, ticket) := session.takeTicket
  let (session, progressed) := call.enter program.toPlatform session
  (session.file program ticket (.guarded call.sentinel) progressed, ticket)

/-- Starts a request. -/
def startRequest (program : Program) (session : Session) (request : Request) :
    Session × Ticket :=
  let (session, ticket) := session.takeTicket
  let (session, progressed) := request.enter program.toPlatform session
  (session.file program ticket .direct progressed, ticket)

/-- The session in which a client sleeps again. -/
def putToSleep (session : Session) (ticket : Ticket) : Session :=
  { session with
    waiting := session.waiting.map fun client =>
      if client.ticket = ticket then { client with awake := false } else client }

/-- The session after a waiting client that is awake has looked again: it moves on if what it waits
for has come, and sleeps again otherwise. -/
def resume? (program : Program) (session : Session) (client : Waiting) : Option Session :=
  if client.awake then
    let others := session.withoutClient client.ticket
    match others.advance? client.stage with
    | none => some (session.putToSleep client.ticket)
    | some _ =>
      let (after, progressed) := others.pursue (.waits client.stage)
      some (after.file program client.ticket client.manner progressed)
  else none

/-- One step of a worker or, when no worker can run a job, of a waiting client. -/
def tick? (program : Program) (session : Session) : Option Session :=
  match session.workSome? program.toPlatform with
  | some session => some session
  | none => session.waiting.findSome? (session.resume? program ·)

/-- Takes steps of workers and waiting clients until none is possible, or `fuel` have been
taken. -/
def settle (program : Program) : Nat → Session → Session
  | 0, session => session
  | fuel + 1, session =>
    match session.tick? program with
    | none => session
    | some session => settle program fuel session

/-- The answer of an operation that has ended. -/
def answer? (session : Session) (ticket : Ticket) : Option Answer :=
  (session.answers.find? (·.1 == ticket)).map (·.2)

end Offload.Session
