/-!
# Back-end families

Every device, context, view, module, kernel and queue belongs to one family of back-ends. The third
family asks the runtime to choose: it names no back-end of its own.
-/

namespace Offload

/-- A family of back-ends. -/
inductive Family where
  /-- The host processor. -/
  | cpu
  /-- A graphics processor behind a compute driver. -/
  | gpu
  /-- The graphics processor where one is usable, otherwise the host. -/
  | auto
  deriving DecidableEq, Repr, Inhabited

namespace Family

/-- The number that stands for a family at the boundary. -/
def code : Family → Nat
  | cpu => 0
  | gpu => 1
  | auto => 2

/-- Reads a boundary number; every other number names no family. -/
def ofCode? : Nat → Option Family
  | 0 => some cpu
  | 1 => some gpu
  | 2 => some auto
  | _ => none

/-- The name used in messages. -/
def name : Family → String
  | cpu => "CPU"
  | gpu => "GPU"
  | auto => "AUTO"

/-- The capitalised name used in descriptions of objects. -/
def title : Family → String
  | cpu => "Cpu"
  | gpu => "Gpu"
  | auto => "Auto"

@[simp]
theorem ofCode?_code (family : Family) : ofCode? family.code = some family := by
  cases family <;> rfl

end Family

end Offload
