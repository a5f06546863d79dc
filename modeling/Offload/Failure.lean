import Offload.Family

/-!
# Failures

A failure is a cause. Its kind is the coarse classification an error callback receives, and its
message is the sentence that goes with it; both are functions of the cause, so no caller spells a
message out.
-/

namespace Offload

/-- The classification of a failure, in the order of the numbers used at the boundary. -/
inductive FailureKind where
  | none
  | unknown
  | invalidArgument
  | invalidOperation
  | notSupported
  | deviceFailure
  | outOfMemory
  deriving DecidableEq, Repr, Inhabited

namespace FailureKind

/-- The number of a kind at the boundary. -/
def code : FailureKind → Nat
  | none => 0
  | unknown => 1
  | invalidArgument => 2
  | invalidOperation => 3
  | notSupported => 4
  | deviceFailure => 5
  | outOfMemory => 6

/-- Reads a boundary number. -/
def ofCode? : Nat → Option FailureKind
  | 0 => some none
  | 1 => some unknown
  | 2 => some invalidArgument
  | 3 => some invalidOperation
  | 4 => some notSupported
  | 5 => some deviceFailure
  | 6 => some outOfMemory
  | _ => Option.none

/-- The name of a kind in text. -/
def name : FailureKind → String
  | none => "no error"
  | unknown => "unknown error"
  | invalidArgument => "invalid argument"
  | invalidOperation => "invalid operation"
  | notSupported => "not supported"
  | deviceFailure => "device failure"
  | outOfMemory => "out of memory"

@[simp]
theorem ofCode?_code (kind : FailureKind) : ofCode? kind.code = some kind := by
  cases kind <;> rfl

end FailureKind

/-- A number in lower-case hexadecimal with the mark `0x`. -/
def hexadecimal (number : Nat) : String :=
  "0x" ++ String.ofList (Nat.toDigits 16 number)

/-- Why an operation failed. -/
inductive Failure where
  /-- The back-end is not part of this build. -/
  | backendNotEnabled (family : Family)
  /-- The back-end is part of this build but unusable on this machine. -/
  | backendUnavailable (family : Family) (reason : String)
  /-- A boundary number names no family. -/
  | unknownFamily (code : Nat)
  /-- An explicit family is needed where the caller left the choice open. -/
  | familyRequired
  /-- A device index at or past the number of devices. -/
  | indexOutOfRange (family : Family) (index count : Nat)
  /-- A required pointer argument is null. -/
  | nullPointer (what : String)
  /-- A handle that names no live object. -/
  | invalidHandle (handle : Nat)
  /-- A handle that names an object of another kind. -/
  | kindMismatch (handle : Nat) (expected found : String)
  /-- An object of one family used with another. -/
  | familyMismatch (expected found : Family)
  /-- An allocation kind a device cannot make a view of. -/
  | unsupportedAllocation (code : Nat)
  /-- A view made on a context that is not shared. -/
  | contextRequiresShared
  /-- A copy larger than its destination. -/
  | copyExceedsDestination (size capacity : Nat)
  /-- A copy larger than its source. -/
  | copyExceedsSource (size capacity : Nat)
  /-- A host transfer of a view without host memory. -/
  | noHostMemory (operation : String) (size : Nat)
  /-- A module file that could not be loaded. -/
  | moduleLoad (path reason : String)
  /-- Linking without any module. -/
  | emptyModuleList
  /-- A name that neither a module nor its peers define. -/
  | symbolNotFound (name : String)
  /-- An argument value out of range. -/
  | invalidArgument (argument reason : String)
  /-- An allocation the host refused. -/
  | outOfMemory (size : Nat)
  /-- A failure a back-end reported. -/
  | backend (text : String)
  /-- A queued operation that failed while it ran. -/
  | execution (text : String)
  /-- A failure with an explicit kind and message. -/
  | typed (kind : FailureKind) (message : String)
  /-- A failure of the runtime's own machinery. -/
  | internal (text : String)
  deriving DecidableEq, Repr

namespace Failure

/-- The classification of a failure. -/
def kind : Failure → FailureKind
  | backendNotEnabled _ | backendUnavailable _ _ => .notSupported
  | unknownFamily _ | indexOutOfRange _ _ _ | symbolNotFound _ | moduleLoad _ _
  | invalidArgument _ _ => .invalidArgument
  | familyRequired | nullPointer _ | invalidHandle _ | kindMismatch _ _ _ | familyMismatch _ _
  | unsupportedAllocation _ | contextRequiresShared | emptyModuleList
  | copyExceedsDestination _ _ | copyExceedsSource _ _ | noHostMemory _ _ => .invalidOperation
  | outOfMemory _ => .outOfMemory
  | backend _ | execution _ => .deviceFailure
  | typed kind _ => kind
  | internal _ => .unknown

/-- The sentence that describes a failure. -/
def message : Failure → String
  | backendNotEnabled family => s!"{family.name} support not enabled"
  | backendUnavailable family reason => s!"{family.name} back-end unavailable: {reason}"
  | unknownFamily code => s!"Unknown device type queried ({code})"
  | familyRequired => "Device type must be specified"
  | indexOutOfRange family index count =>
    s!"Device index {index} out of range: {count} {family.name} device(s) available"
  | nullPointer what => s!"{what} cannot be null"
  | invalidHandle handle =>
    s!"Invalid handle {hexadecimal handle}: object does not exist or was released"
  | kindMismatch handle expected found =>
    s!"Handle {hexadecimal handle} refers to a {found}, expected a {expected}"
  | familyMismatch expected found =>
    s!"Object created by a {found.name} back-end cannot be used with a {expected.name} device"
  | unsupportedAllocation code => s!"Unsupported memory allocation type requested ({code})"
  | contextRequiresShared => "Only shared memory allocation is allowed for context"
  | copyExceedsDestination size capacity =>
    s!"Requested copy size is bigger than destination buffer size ({size} > {capacity})"
  | copyExceedsSource size capacity =>
    s!"Requested copy size is bigger than source buffer size ({size} > {capacity})"
  | noHostMemory operation size =>
    s!"Memory view of {size} bytes has no host side; {operation} requires a shared view"
  | moduleLoad path reason => s!"Failed to load module '{path}': {reason}"
  | emptyModuleList => "At least one module is required for linking"
  | symbolNotFound name => s!"Symbol '{name}' not found in module"
  | invalidArgument argument reason => s!"Invalid argument '{argument}': {reason}"
  | outOfMemory size => s!"Out of memory: failed to allocate {size} bytes"
  | backend text => s!"Backend error: {text}"
  | execution text => s!"Execution failed: {text}"
  | typed _ message => message
  | internal text => s!"Internal error: {text}"

end Failure

/-- The way a computation ends before it has a result: with a failure of its own, or because code
it called gave up, with or without a text. -/
inductive Interruption where
  | failure (failure : Failure)
  | panic (text : Option String)
  deriving DecidableEq, Repr

namespace Interruption

/-- The classification of an interruption; the cause of a panic is not known. -/
def kind : Interruption → FailureKind
  | failure cause => cause.kind
  | panic _ => .unknown

/-- The sentence that describes an interruption. -/
def message : Interruption → String
  | failure cause => cause.message
  | panic text => text.getD "an unrecognized panic was caught"

end Interruption

end Offload
