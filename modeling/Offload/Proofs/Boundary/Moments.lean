import Offload.Proofs.Boundary.Slot

/-!
# Moments at the boundary

What happens at the boundary in the course of a run, told in order: calls are entered, their bodies
end, handlers are invoked, calls return, and handlers are installed. The telling goes along with the
operations themselves: without what it tells, every one of them is the operation of the session.
-/

namespace Offload

/-- One thing that happens at the boundary. A call is identified by the position of the moment at
which it is entered. -/
inductive Moment where
  /-- A call is entered, by a client under its ticket or inside a handler. -/
  | entered (id : Nat) (client : Option Ticket) (call : Call)
  /-- The body of a call has ended. -/
  | ended (id : Nat) (outcome : Outcome)
  /-- A handler is invoked, for a failed call or for a failure the host program reports itself. -/
  | invoked (id : Option Nat) (handler : Handler) (kind : FailureKind) (message : String)
  | returned (id : Nat) (reply : Reply)
  | installed (handler : Option Handler)
  | noted (note : Note)

namespace Moment

/-- The call a moment belongs to. -/
def call? : Moment → Option Nat
  | entered id _ _ | ended id _ | returned id _ => some id
  | invoked id _ _ _ => id
  | installed _ | noted _ => none

/-- The ticket under which a client enters a call. -/
def ticket? : Moment → Option Ticket
  | entered _ client _ => client
  | _ => none

/-- What the slot of the handler holds after a moment. -/
def slot (before : Option Handler) : Moment → Option Handler
  | installed handler => handler
  | _ => before

/-- What a handler notes at a moment. -/
def note? : Moment → Option Note
  | noted note => some note
  | _ => none

end Moment

/-- The moments of a call, in order. -/
def momentsOf (id : Nat) (log : List Moment) : List Moment :=
  log.filter (·.call? == some id)

/-- What the slot of the handler holds after some moments: the handler that was installed last. -/
def slotAfter (start : Option Handler) (log : List Moment) : Option Handler :=
  log.foldl Moment.slot start

def notesOf (log : List Moment) : List Note :=
  log.filterMap Moment.note?

/-- Who is told of a failure: the handler in the slot, once, or nobody. -/
def invocation (id : Option Nat) (slot : Option Handler) (kind : FailureKind) (message : String) :
    List Moment :=
  match slot with
  | none => []
  | some handler => [.invoked id handler kind (withoutNulls message)]

/-- What follows at once when the body of a call ends: nothing after a reply, and after an
interruption whoever is in the slot is told of it. -/
def delivery (id : Nat) (slot : Option Handler) : Outcome → List Moment
  | .ok _ => []
  | .error interruption => invocation (some id) slot interruption.kind interruption.message

/-- What a call gives back for an outcome of its body. -/
def Call.reply (call : Call) : Outcome → Reply
  | .ok reply => reply
  | .error _ => call.sentinel

/-- What the body of a call installs. -/
def Call.installs : Call → List Moment
  | setHandler handler => [.installed handler]
  | _ => []

/-! ## Telling -/

/-- A session, and what has happened at its boundary. -/
structure Recorded where
  session : Session
  log : List Moment

namespace Recorded

/-- Tells moments. -/
def tell (recorded : Recorded) (moments : List Moment) : Recorded :=
  { recorded with log := recorded.log ++ moments }

/-- The process comes to its end. -/
def stop (recorded : Recorded) (exit : Exit) : Recorded :=
  { recorded with session := { recorded.session with exit := some exit } }

/-- A call returns, unless the process has come to its end. -/
def giveBack (recorded : Recorded) (id : Nat) (reply : Reply) : Recorded :=
  match recorded.session.exit with
  | some _ => recorded
  | none => recorded.tell [.returned id reply]

/-- Takes the outcome of a call across the boundary; `deliver` takes a failure to the handler. -/
def cross (deliver : Recorded → Option Nat → FailureKind → String → Recorded) (recorded : Recorded)
    (id : Nat) (call : Call) (outcome : Outcome) : Recorded :=
  let ended := recorded.tell [.ended id outcome]
  match outcome with
  | .ok reply => ended.tell [.returned id reply]
  | .error interruption =>
    (deliver ended (some id) interruption.kind interruption.message).giveBack id call.sentinel

/-- A call is entered, under the next number; its body leads to another session. -/
def onEnter (recorded : Recorded) (after : Session) (client : Option Ticket) (call : Call) :
    Recorded :=
  ⟨after, recorded.log ++ (.entered recorded.log.length client call :: call.installs)⟩

/-- A handler makes a call. -/
def visit (program : Program)
    (deliver : Recorded → Option Nat → FailureKind → String → Recorded) (recorded : Recorded)
    (call : Call) : Recorded :=
  let (entered, progressed) := call.enter program.toPlatform recorded.session
  match entered.await program.toPlatform progressed with
  | (hung, none) => (recorded.onEnter hung none call).stop .stuck
  | (after, some outcome) =>
    cross deliver (recorded.onEnter after none call) recorded.log.length call outcome

/-- A handler that was invoked with a failure does one thing. -/
def act (program : Program)
    (deliver : Recorded → Option Nat → FailureKind → String → Recorded) (note : Note)
    (recorded : Recorded) (deed : Deed) : Recorded :=
  match recorded.session.exit, deed with
  | some _, _ => recorded
  | none, .install handler =>
    ⟨{ recorded.session with handler }, recorded.log ++ [.installed handler]⟩
  | none, .note => recorded.tell [.noted note]
  | none, .call call => recorded.visit program deliver call

/-- Takes a failure to the installed handler, which does what its script says. Handlers may fail
inside handlers `depth` times. -/
def deliver (program : Program) : Nat → Recorded → Option Nat → FailureKind → String → Recorded
  | depth, recorded, id, kind, message =>
    match recorded.session.handler with
    | none => recorded
    | some .standard =>
      ⟨recorded.session.terminate kind (received message),
        recorded.log ++ [.invoked id .standard kind (received message)]⟩
    | some (.named name) =>
      let invoked := recorded.tell [.invoked id (.named name) kind (received message)]
      match depth with
      | 0 => invoked.stop .stuck
      | depth + 1 =>
        (program.script name).foldl
          (act program (deliver program depth) ⟨name, kind, received message⟩) invoked

/-- Files the state a client's call has come to, after `depth` levels of handlers at most. -/
def file (program : Program) (depth : Nat) (recorded : Recorded) (id : Nat) (call : Call)
    (ticket : Ticket) : Progressed → Recorded
  | .waits stage =>
    { recorded with
      session := recorded.session.withClient ⟨ticket, .guarded call.sentinel, stage, false⟩ }
  | .ended outcome =>
    let crossed := recorded.cross (deliver program depth) id call outcome
    let notes := (notesOf crossed.log).drop (notesOf recorded.log).length
    { crossed with
      session :=
        { crossed.session with
          answers := crossed.session.answers ++ [(ticket, ⟨.ok (call.reply outcome), notes⟩)] } }

/-- A client starts a call. -/
def startCall (program : Program) (depth : Nat) (recorded : Recorded) (call : Call) : Recorded :=
  let (session, ticket) := recorded.session.takeTicket
  let (entered, progressed) := call.enter program.toPlatform session
  file program depth (recorded.onEnter entered (some ticket) call) recorded.log.length call ticket
    progressed

/-- One step of a session, and what it tells. -/
inductive Step (program : Program) (depth : Nat) : Recorded → Recorded → Prop where
  | call (recorded : Recorded) (call : Call) :
    Step program depth recorded (recorded.startCall program depth call)
  | request (recorded : Recorded) (request : Request) :
    Step program depth recorded
      { recorded with session := (recorded.session.startRequest program request).1 }
  | work {recorded : Recorded} {after : Session} (id : ObjectId)
    (hwork : recorded.session.work? program.toPlatform id = some after) :
    Step program depth recorded { recorded with session := after }
  /-- A client looks again in vain. -/
  | sleep (recorded : Recorded) (ticket : Ticket) :
    Step program depth recorded { recorded with session := recorded.session.putToSleep ticket }
  /-- A client that waits in a call moves on. -/
  | resumeCall {recorded : Recorded} {client : Waiting} {moved : Session} {progressed : Progressed}
    {id : Nat} {call : Call} (hclient : client ∈ recorded.session.waiting)
    (hmanner : client.manner = .guarded call.sentinel)
    (hentered : .entered id (some client.ticket) call ∈ recorded.log)
    (hpursue : (recorded.session.withoutClient client.ticket).pursue (.waits client.stage) =
      (moved, progressed)) :
    Step program depth recorded
      (file program depth { recorded with session := moved } id call client.ticket progressed)
  /-- A client that waits in a request moves on. -/
  | resumeRequest {recorded : Recorded} {client : Waiting} {moved : Session}
    {progressed : Progressed} (hclient : client ∈ recorded.session.waiting)
    (hmanner : client.manner = .direct)
    (hpursue : (recorded.session.withoutClient client.ticket).pursue (.waits client.stage) =
      (moved, progressed)) :
    Step program depth recorded
      { recorded with session := moved.file program client.ticket .direct progressed }
  | report (recorded : Recorded) (kind : FailureKind) (message : String) :
    Step program depth recorded (deliver program depth recorded none kind message)
  | outside (recorded : Recorded) (ambient : Ambient) (memory : Memory) (calls : List CallRecord)
    (gateOpen : Bool) :
    Step program depth recorded
      { recorded with
        session :=
          { recorded.session with
            ambient, host := { recorded.session.host with memory, calls, gateOpen } } }

end Recorded

/-! ## Logs -/

variable {start : Option Handler} {id : Nat} {log more : List Moment}

@[simp]
theorem momentsOf_append (id : Nat) (log more : List Moment) :
    momentsOf id (log ++ more) = momentsOf id log ++ momentsOf id more :=
  List.filter_append _ _

@[simp]
theorem slotAfter_append (start : Option Handler) (log more : List Moment) :
    slotAfter start (log ++ more) = slotAfter (slotAfter start log) more :=
  List.foldl_append

@[simp]
theorem notesOf_append (log more : List Moment) :
    notesOf (log ++ more) = notesOf log ++ notesOf more :=
  List.filterMap_append

@[simp]
theorem notesOf_nil : notesOf [] = [] := rfl

@[simp]
theorem notesOf_cons (moment : Moment) (log : List Moment) :
    notesOf (moment :: log) = moment.note?.toList ++ notesOf log := by
  unfold notesOf
  cases hnote : moment.note? with
  | none => rw [List.filterMap_cons_none hnote, Option.toList_none, List.nil_append]
  | some note => rw [List.filterMap_cons_some hnote, Option.toList_some, List.singleton_append]

@[simp]
theorem momentsOf_nil (id : Nat) : momentsOf id [] = [] := rfl

@[simp]
theorem momentsOf_cons (id : Nat) (moment : Moment) (log : List Moment) :
    momentsOf id (moment :: log) =
      if moment.call? = some id then moment :: momentsOf id log else momentsOf id log := by
  simp [momentsOf, List.filter_cons]

theorem momentsOf_eq_nil (hmore : ∀ moment ∈ more, moment.call? ≠ some id) :
    momentsOf id more = [] :=
  List.filter_eq_nil_iff.2 fun moment hmoment ↦ by simpa using hmore moment hmoment

@[simp]
theorem momentsOf_delivery (id : Nat) (slot : Option Handler) (outcome : Outcome) :
    momentsOf id (delivery id slot outcome) = delivery id slot outcome := by
  rcases outcome with interruption | reply
  · cases slot <;> simp [delivery, invocation, momentsOf, Moment.call?]
  · rfl

theorem Call.installs_eq_nil {call : Call} (hcall : ∀ handler, call ≠ .setHandler handler) :
    call.installs = [] := by
  cases call with
  | setHandler handler => exact absurd rfl (hcall handler)
  | _ => rfl

theorem momentsOf_installs (id : Nat) (call : Call) : momentsOf id call.installs = [] := by
  cases call <;> rfl

theorem mem_installs {call : Call} {moment : Moment} (hmoment : moment ∈ call.installs) :
    moment.call? = none ∧ moment.ticket? = none := by
  cases call with
  | setHandler handler => exact List.mem_singleton.1 hmoment ▸ ⟨rfl, rfl⟩
  | _ => exact absurd hmoment List.not_mem_nil

end Offload
