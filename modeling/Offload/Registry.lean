import Offload.Failure
import Offload.Table

/-!
# The handle registry

Objects leave the runtime as handles. A handle is a number, never zero and never used twice, that
names a slot with a reference count and a tagged object. Looking a handle up checks that it is live
and that its object has the kind the caller expects, so stale or mismatched handles are failures.
-/

namespace Offload

/-- The kinds of objects that handles name. -/
inductive Kind where
  | device
  | context
  | memoryView
  | module
  | kernel
  | taskQueue
  | future
  deriving DecidableEq, Repr, Inhabited

/-- The name of a kind in messages. -/
def Kind.name : Kind → String
  | .device => "Device"
  | .context => "Context"
  | .memoryView => "MemoryView"
  | .module => "Module"
  | .kernel => "Kernel"
  | .taskQueue => "TaskQueue"
  | .future => "Future"

/-- A handle as callers write it. -/
abbrev Handle := Nat

/-- An object behind a handle, with the number of references the handle has. -/
structure Slot (α : Type) where
  count : Nat
  kind : Kind
  object : α
  deriving Repr

/-- The slots under their handles. -/
abbrev Registry (α : Type) := Table (Slot α)

namespace Registry

variable {α : Type}

/-- A registry without handles; the first one it gives is 1. -/
def empty : Registry α := ⟨1, []⟩

/-- The slot of a handle; the null handle and handles that are not live are refused. -/
def locate (registry : Registry α) (handle : Handle) : Except Failure (Slot α) :=
  if handle = 0 then .error (.nullPointer "handle")
  else
    match registry.get? handle with
    | none => .error (.invalidHandle handle)
    | some slot => .ok slot

/-- Registers an object with one reference and gives its handle. -/
def register (registry : Registry α) (kind : Kind) (object : α) : Registry α × Handle :=
  registry.insert ⟨1, kind, object⟩

/-- The object of a live handle of the expected kind. -/
def lookup (registry : Registry α) (expected : Kind) (handle : Handle) : Except Failure α := do
  let slot ← registry.locate handle
  if slot.kind = expected then .ok slot.object
  else .error (.kindMismatch handle expected.name slot.kind.name)

/-- Adds a reference. -/
def retain (registry : Registry α) (handle : Handle) : Except Failure (Registry α) := do
  let _ ← registry.locate handle
  .ok (registry.modify handle fun slot => { slot with count := slot.count + 1 })

/-- Takes a reference away; the last one removes the slot, which is then returned. -/
def release (registry : Registry α) (handle : Handle) :
    Except Failure (Registry α × Option (Slot α)) := do
  let slot ← registry.locate handle
  if 1 < slot.count then
    .ok (registry.modify handle fun slot => { slot with count := slot.count - 1 }, none)
  else .ok (registry.erase handle, some slot)

/-- The number of references of a live handle. -/
def useCount (registry : Registry α) (handle : Handle) : Except Failure Nat :=
  (registry.locate handle).map (·.count)

end Registry

end Offload
