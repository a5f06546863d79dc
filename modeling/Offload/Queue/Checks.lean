import Offload.Extent
import Offload.View.Flags

/-!
# Checks before an operation is enqueued

Every queue, whatever back-end implements it, takes its operations through the same checks. What
passes is handed to the back-end's hook unchanged; what does not never reaches it.
-/

namespace Offload

/-- What a view tells about itself. -/
structure ViewReport where
  family : Family
  hostAddress : Nat
  deviceAddress : Nat
  size : Nat
  kind : AllocationKind
  hint : SharingHint
  deriving DecidableEq, Repr

namespace ViewReport

/-- Whether host and device both see the view. -/
def isShared (view : ViewReport) : Bool := view.kind == .shared

/-- Whether a transfer finds memory on the host; an empty view needs none. -/
def hasHostSide (view : ViewReport) : Bool :=
  view.isShared && (view.hostAddress != 0 || view.size == 0)

end ViewReport

/-- The hooks a back-end implements for its queues, over its own views and kernels. -/
structure QueueHooks (View Kernel Result : Type) where
  family : Family
  report : View → ViewReport
  kernelFamily : Kernel → Family
  copyToDevice : View → Result
  copyToHost : View → Result
  copy : View → View → Nat → Result
  launch : Kernel → Option View → Extent → Result

namespace QueueHooks

variable {View Kernel Result : Type}

/-- Refuses an object of another family than the queue's. -/
def requireFamily (hooks : QueueHooks View Kernel Result) (found : Family) :
    Except Failure Unit :=
  if hooks.family = found then .ok () else .error (.familyMismatch hooks.family found)

/-- Refuses a host transfer of a view without host memory. -/
def requireHostSide (view : ViewReport) (operation : String) : Except Failure Unit :=
  if view.hasHostSide then .ok () else .error (.noHostMemory operation view.size)

/-- Transfers the host contents of a view to the device. -/
def transferToDevice (hooks : QueueHooks View Kernel Result) (view : View) :
    Except Failure Result := do
  hooks.requireFamily (hooks.report view).family
  requireHostSide (hooks.report view) "copy_to_device"
  .ok (hooks.copyToDevice view)

/-- Transfers the device contents of a view to the host. -/
def transferToHost (hooks : QueueHooks View Kernel Result) (view : View) :
    Except Failure Result := do
  hooks.requireFamily (hooks.report view).family
  requireHostSide (hooks.report view) "copy_to_host"
  .ok (hooks.copyToHost view)

/-- Copies the first `size` bytes of a view to the start of another. A copy of nothing passes the
checks and reaches no hook. -/
def copyView (hooks : QueueHooks View Kernel Result) (destination source : View) (size : Nat) :
    Except Failure (Option Result) := do
  let target := hooks.report destination
  let origin := hooks.report source
  if target.size < size then .error (.copyExceedsDestination size target.size)
  else if origin.size < size then .error (.copyExceedsSource size origin.size)
  else
    hooks.requireFamily target.family
    hooks.requireFamily origin.family
    .ok (if size = 0 then none else some (hooks.copy destination source size))

/-- Launches a kernel, with or without parameters. -/
def launchKernel (hooks : QueueHooks View Kernel Result) (kernel : Kernel)
    (parameters : Option View) (extent : Extent) : Except Failure Result := do
  hooks.requireFamily (hooks.kernelFamily kernel)
  match parameters with
  | none => .ok (hooks.launch kernel none extent)
  | some view =>
    hooks.requireFamily (hooks.report view).family
    .ok (hooks.launch kernel (some view) extent)

end QueueHooks

end Offload
