import Offload.Kernel.Routine

/-!
# Routines on hand

The routines a host program brings along, and the libraries a loader finds beside it. Routines that
write do nothing to memory when they are launched without parameters.
-/

namespace Offload.Catalog

/-- Stores words one behind the other, from the parameters on. -/
def storeWords (invocation : Invocation) (words : List Nat) (host : HostState) : HostState :=
  if invocation.parameters = 0 then host
  else
    { host with
      memory := host.memory.write invocation.parameters
        (words.flatMap (Memory.wordBytes 8)).toArray }

/-- Replaces the number in the first `width` bytes of the parameters. -/
def update (width : Nat) (change : Nat → Nat) (invocation : Invocation) (host : HostState) :
    HostState :=
  if invocation.parameters = 0 then host
  else
    let number := host.memory.word width invocation.parameters
    { host with memory := host.memory.writeWord width invocation.parameters (change number) }

/-- Records the call under a name. -/
def recordCall (name : String) (invocation : Invocation) (host : HostState) : HostState :=
  host.record ⟨name, .address invocation.parameters :: invocation.extent.toList.map .number⟩

/-- A routine that always returns. -/
def plain (run : Invocation → HostState → HostState) : Routine :=
  fun invocation host => .returned (run invocation host)

/-- The routine of the host program with a given name. Routines without a meaning of their own
record that they were called. -/
def hostRoutine (name : String) : Routine :=
  match name with
  | "record_dims" => plain fun invocation => storeWords invocation invocation.extent.toList
  | "increment" => plain (update 8 (· + 1))
  | "double_first" => plain (update 4 (2 * ·))
  | "fill" => plain fun invocation host =>
    if invocation.parameters = 0 then host
    else
      { host with
        memory := host.memory.fill invocation.parameters invocation.extent.width
          (UInt8.ofNat (invocation.extent.height % 256)) }
  | "explode" => fun _ host => .panicked (some "kernel exploded") host
  | "explode_dims" => fun invocation host =>
    let extent := invocation.extent
    .panicked (some s!"lost {extent.width}x{extent.height}x{extent.depth}") host
  | "explode_any" => fun _ host => .panicked none host
  | "gate" => fun _ host => if host.gateOpen then .returned host else .waiting
  | _ => plain (recordCall name)

/-- Adds one to the static datum of a library and stores the sum. -/
def countStatic (file : String) (invocation : Invocation) (host : HostState) : HostState :=
  let next := host.static file + 1
  storeWords invocation [next] (host.setStatic file next)

/-- The symbols each library exports with an address. -/
def exports? (file : String) : Option (List String) :=
  match file with
  | "libkernels_a.so" => some ["add_one", "set_42", "shared_name", "counter", "table"]
  | "libkernels_b.so" | "plugin.v2" | "libядро.so" => some ["shared_name", "only_b"]
  | _ => none

/-- The routine behind a symbol of a library. -/
def libraryRoutine (file symbol : String) : Routine :=
  match symbol with
  | "add_one" => plain (update 8 (· + 1))
  | "set_42" => plain (update 8 fun _ => 42)
  | "shared_name" =>
    plain (update 1 fun _ => if file = "libkernels_a.so" then 0xa1 else 0xb2)
  | "counter" => plain (countStatic file)
  | "only_b" => plain fun invocation => storeWords invocation invocation.extent.toList.reverse
  | _ => plain fun _ host => host

/-- The routine that starts at an entry. -/
def routine : Entry → Routine
  | .host name => hostRoutine name
  | .library file symbol => libraryRoutine file symbol

end Offload.Catalog
