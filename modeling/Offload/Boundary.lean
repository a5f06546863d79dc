import Offload.Call
import Offload.Session.Worker

/-!
# The error boundary

No failure and no panic crosses the boundary. A call that is interrupted reports it once, to the
handler installed at that moment, and then gives its sentinel. Handlers are code of the host program:
they may install another handler and make calls of their own, whose failures are reported in turn.
-/

namespace Offload

/-- One thing a handler of the host program does. -/
inductive Deed where
  | install (handler : Option Handler)
  | call (call : Call)
  /-- Notes the failure the handler was invoked with. -/
  | note
  deriving DecidableEq, Repr

/-- The platform together with what the handlers of the host program do. -/
structure Program extends Platform where
  script : String → List Deed := fun _ => [.note]

/-! ## Messages -/

/-- A message without its null characters, which would end it early. -/
def withoutNulls (message : String) : String :=
  String.ofList (message.toList.filter (· != '\x00'))

/-- A text with the null character that ends it, unless it holds one itself. -/
def terminated? (text : String) : Option (List Char) :=
  if '\x00' ∈ text.toList then none else some (text.toList ++ ['\x00'])

/-- What is read off characters in memory: the text before the first null character. -/
def readText (characters : List Char) : String :=
  String.ofList (characters.takeWhile (· != '\x00'))

/-- A message as a handler receives it: a terminated text that it reads, and the empty one for a
message that cannot be terminated. -/
def received (message : String) : String :=
  readText ((terminated? (withoutNulls message)).getD ['\x00'])

namespace Session

/-! ## The standard handler -/

/-- The exit status of a process that the standard handler ends. -/
def failureStatus : Nat := 255

/-- The standard handler: notes the failure, prints it and ends the process. -/
def terminate (session : Session) (kind : FailureKind) (message : String) : Session :=
  let event : Event :=
    ⟨.error, "Unhandled hcrt error, terminating", [("kind", kind.name), ("message", message)]⟩
  { session.note [event] with
    exit := some (.terminated failureStatus s!"HCRT Error ({kind.name}): {message}") }

/-! ## Calls inside handlers -/

/-- The outcome of an operation whose client is not served by anyone else: it waits while the
workers run, until what it waits for has come. If that never happens the operation has no outcome,
and its client keeps waiting. -/
def await (platform : Platform) (session : Session) (progressed : Progressed) :
    Session × Option Outcome :=
  match progressed with
  | .ended outcome => (session, some outcome)
  | .waits stage =>
    let (session, ticket) := session.takeTicket
    let session := session.withClient { ticket, manner := .direct, stage }
    let session := session.workAll platform session.heap.jobs.length
    match (session.withoutClient ticket).pursue (.waits stage) with
    | (after, .ended outcome) => (after, some outcome)
    | (_, .waits _) => (session, none)

/-- Reports a failure to the installed handler, and gives what was noted meanwhile, in order.
Handlers may fail inside handlers `depth` times. -/
def report (program : Program) : Nat → Session → FailureKind → String → Session × List Note
  | depth, session, kind, message =>
    match session.handler with
    | none => (session, [])
    | some .standard => (session.terminate kind (received message), [])
    | some (.named name) =>
      match depth with
      | 0 => ({ session with exit := some .stuck }, [])
      | depth + 1 =>
        (program.script name).foldl
          (fun (session, notes) deed =>
            match session.exit, deed with
            | some _, _ => (session, notes)
            | none, .install handler => ({ session with handler }, notes)
            | none, .note => (session, notes ++ [⟨name, kind, received message⟩])
            | none, .call call =>
              let (session, progressed) := call.enter program.toPlatform session
              match session.await program.toPlatform progressed with
              | (session, none) => ({ session with exit := some .stuck }, notes)
              | (session, some (.ok _)) => (session, notes)
              | (session, some (.error interruption)) =>
                let (session, inner) :=
                  report program depth session interruption.kind interruption.message
                (session, notes ++ inner))
          (session, [])

/-- Reports how an operation was interrupted. -/
def reportInterruption (program : Program) (depth : Nat) (session : Session)
    (interruption : Interruption) : Session × List Note :=
  session.report program depth interruption.kind interruption.message

/-- Takes the outcome of an operation across the boundary: an interruption is reported, and the
sentinel stands in for the reply. -/
def guard (program : Program) (depth : Nat) (session : Session) (sentinel : Reply)
    (outcome : Outcome) : Session × Reply × List Note :=
  match outcome with
  | .ok reply => (session, reply, [])
  | .error interruption =>
    let (session, notes) := session.reportInterruption program depth interruption
    (session, sentinel, notes)

end Session

end Offload
