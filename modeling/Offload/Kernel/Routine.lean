import Offload.Memory
import Offload.Module.Code

/-!
# Routines

Kernel code is run once per launch, with the address of its parameters and the launch extent. It
may change the host state and ends in one of three ways: it returns, it panics with or without a
text, or it has to wait for something outside.
-/

namespace Offload

/-- An argument of a recorded call. -/
inductive CallArgument where
  | address (address : Nat)
  | number (number : Nat)
  | numbers (numbers : List Nat)
  | text (text : String)
  | texts (texts : List String)
  | flag (flag : Bool)
  | absent
  deriving DecidableEq, Repr

/-- A call of outside code that recorded itself. -/
structure CallRecord where
  name : String
  arguments : List CallArgument
  deriving DecidableEq, Repr

/-- What outside code reads and changes: memory, the calls recorded so far, the static data of the
loaded libraries, and a gate that routines may wait for. -/
structure HostState where
  memory : Memory := .zero
  calls : List CallRecord := []
  statics : List (String × Nat) := []
  gateOpen : Bool := false

namespace HostState

instance : Inhabited HostState := ⟨{}⟩

/-- Appends to the recorded calls. -/
def record (host : HostState) (call : CallRecord) : HostState :=
  { host with calls := host.calls ++ [call] }

/-- The static datum of a library; it is zero when the library has just been loaded. -/
def static (host : HostState) (file : String) : Nat :=
  ((host.statics.find? (·.1 == file)).map (·.2)).getD 0

/-- Sets the static datum of a library. -/
def setStatic (host : HostState) (file : String) (value : Nat) : HostState :=
  { host with statics := (file, value) :: host.statics.filter (·.1 != file) }

/-- Drops the static data of every library that is no longer loaded. -/
def keepStatics (host : HostState) (files : List String) : HostState :=
  { host with statics := host.statics.filter (files.contains ·.1) }

end HostState

/-- The arguments of one run of a routine. A launch without parameters passes the null address. -/
structure Invocation where
  parameters : Nat
  extent : Extent
  deriving DecidableEq, Repr

/-- How a run of a routine ends. -/
inductive Ending where
  | returned (after : HostState)
  | panicked (text : Option String) (after : HostState)
  /-- The routine waits for the gate and has changed nothing yet. -/
  | waiting

/-- Code that can be launched. -/
abbrev Routine := Invocation → HostState → Ending

end Offload
