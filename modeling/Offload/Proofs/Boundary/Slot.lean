import Offload.Proofs.Session.Effects
import Offload.Proofs.Session.Steps

/-!
# The slot of the error handler

The host program installs an error handler with one call, and nothing else a client, a worker or the
runtime does touches the slot: no other call, no request, no job and no waiting. The end of the
process is no effect of an operation at all; only a handler brings it about.
-/

namespace Offload

open Deciding

variable {platform : Platform} {session : Session}

/-! ## What decisions keep -/

theorem Decision.Plain.keeps {decision : Decision} (hplain : decision.Plain) : decision.Keeps := by
  obtain ⟨records, effect⟩ := decision
  cases effect with
  | install handler => exact hplain.elim
  | _ => trivial

open Session

/-- The handler that a call installs, where it is the call that installs one, and the one that was
installed before otherwise. -/
def Call.slot (slot : Option Handler) : Call → Option Handler
  | setHandler handler => handler
  | _ => slot

theorem Call.slot_eq {call : Call} (hcall : ∀ handler, call ≠ .setHandler handler)
    (slot : Option Handler) : call.slot slot = slot := by
  cases call with
  | setHandler handler => exact absurd rfl (hcall handler)
  | _ => rfl

end Offload
