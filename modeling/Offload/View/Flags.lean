import Offload.Failure

/-!
# Flags of memory views

How a view's memory is shared between host and device, and the access pattern its creator
announced. Boundary callers give both as numbers.
-/

namespace Offload

/-- Where the memory of a view lives. -/
inductive AllocationKind where
  /-- Visible to host and device. -/
  | shared
  /-- On the device only, without a host address. -/
  | device
  /-- Not known to the runtime. -/
  | unknown
  deriving DecidableEq, Repr, Inhabited

namespace AllocationKind

/-- The number of a kind at the boundary. -/
def code : AllocationKind → Nat
  | shared => 0
  | device => 1
  | unknown => 2

/-- Reads a boundary number. -/
def ofCode? : Nat → Option AllocationKind
  | 0 => some shared
  | 1 => some device
  | 2 => some unknown
  | _ => none

@[simp]
theorem ofCode?_code (kind : AllocationKind) : ofCode? kind.code = some kind := by
  cases kind <;> rfl

end AllocationKind

/-- The announced access pattern of a shared view. -/
inductive SharingHint where
  | none
  | hostDeviceReadWrite
  | hostWriteDeviceRead
  | hostReadDeviceWrite
  deriving DecidableEq, Repr, Inhabited

namespace SharingHint

/-- The number of a hint at the boundary. -/
def code : SharingHint → Nat
  | none => 0
  | hostDeviceReadWrite => 1
  | hostWriteDeviceRead => 2
  | hostReadDeviceWrite => 3

/-- Reads a boundary number. -/
def ofCode? : Nat → Option SharingHint
  | 0 => some none
  | 1 => some hostDeviceReadWrite
  | 2 => some hostWriteDeviceRead
  | 3 => some hostReadDeviceWrite
  | _ => Option.none

@[simp]
theorem ofCode?_code (hint : SharingHint) : ofCode? hint.code = some hint := by
  cases hint <;> rfl

end SharingHint

/-- What the creator of a view asks for. -/
structure ViewFlags where
  kind : AllocationKind
  hint : SharingHint
  deriving DecidableEq, Repr, Inhabited

namespace ViewFlags

/-- A shared view without a hint. -/
def shared : ViewFlags := ⟨.shared, .none⟩

/-- A device-only view without a hint. -/
def device : ViewFlags := ⟨.device, .none⟩

/-- The same flags with another hint. -/
def withHint (flags : ViewFlags) (hint : SharingHint) : ViewFlags := { flags with hint }

/-- Reads the two boundary numbers; of two bad numbers the kind is the one refused. -/
def ofCodes (kind hint : Nat) : Except Failure ViewFlags :=
  match AllocationKind.ofCode? kind, SharingHint.ofCode? hint with
  | none, _ => .error (.unsupportedAllocation kind)
  | some _, none => .error (.invalidArgument "sm_hint" s!"unknown shared memory hint {hint}")
  | some kind, some hint => .ok ⟨kind, hint⟩

end ViewFlags

end Offload
