import Offload.Future
import Offload.Module.Options
import Offload.Queue.Checks
import Offload.Queue.Job
import Offload.Queue.Progress
import Offload.RangeTracker
import Offload.Registry

/-!
# Objects

The objects behind handles. Each kind has the runtime's own implementation for the host processor
and foreign ones, which are known only by what they report about themselves. An object names the
objects it holds by their numbers; what it holds lives at least as long as it does.
-/

namespace Offload

/-! ## Contexts and devices -/

/-- A context groups the allocations made through it and through the devices on it. -/
inductive Context where
  /-- A context of the host: whether it was adopted from a native handle, and its live ranges. -/
  | host (adopted : Bool) (ranges : RangeTracker)
  | foreign (family : Family) (native : Nat) (adopted : Bool)
  deriving DecidableEq, Repr

namespace Context

/-- The family of a context. -/
def family : Context → Family
  | host _ _ => .cpu
  | foreign family _ _ => family

/-- The native handle of a context; the host has none. -/
def native : Context → Nat
  | host _ _ => 0
  | foreign _ native _ => native

/-- Whether a context belongs to the caller. -/
def adopted : Context → Bool
  | host adopted _ => adopted
  | foreign _ _ adopted => adopted

/-- Whether a context is foreign. -/
def isForeign : Context → Bool
  | host _ _ => false
  | foreign _ _ _ => true

/-- The tracked ranges of a host context. -/
def ranges? : Context → Option RangeTracker
  | host _ ranges => some ranges
  | foreign _ _ _ => none

/-- Changes the tracked ranges of a host context. -/
def mapRanges (change : RangeTracker → RangeTracker) : Context → Context
  | host adopted ranges => host adopted (change ranges)
  | other => other

end Context

/-- The vendor and device numbers of a device. -/
structure DeviceInfo where
  vendor : Nat := 0
  device : Nat := 0
  deriving DecidableEq, Repr, Inhabited

/-- The host processor is the only device of its family. -/
def hostDeviceCount : Nat := 1

/-- A device runs kernels and makes views. -/
inductive Device where
  /-- The host processor on a context. -/
  | host (index : Nat) (context : ObjectId)
  /-- A foreign device, with the class it gives to every address. -/
  | foreign (family : Family) (index native : Nat) (kind : AllocationKind)
  deriving DecidableEq, Repr

namespace Device

/-- The family of a device. -/
def family : Device → Family
  | host _ _ => .cpu
  | foreign family _ _ _ => family

/-- Whether a device is foreign. -/
def isForeign : Device → Bool
  | host _ _ => false
  | foreign _ _ _ _ => true

/-- The number of a device within its family. -/
def index : Device → Nat
  | host index _ => index
  | foreign _ index _ _ => index

/-- The name of a device. -/
def name : Device → String
  | host _ _ => "cpu"
  | foreign family index _ _ => s!"{family.name}:{index}"

/-- The vendor and device numbers of a device; the host has none. -/
def info : Device → DeviceInfo
  | host _ _ => {}
  | foreign _ index _ _ => ⟨0x10de, index⟩

/-- The native platform handle of a device. -/
def platformNative : Device → Nat
  | host _ _ => 0
  | foreign _ _ native _ => native

/-- The native handle of a device. -/
def native : Device → Nat
  | host _ _ => 0
  | foreign _ _ native _ => (native + 1) % wordLimit

/-- The native handle of the context a device runs on. -/
def contextNative : Device → Nat
  | host _ _ => 0
  | foreign _ _ native _ => (native + 2) % wordLimit

end Device

/-! ## Views -/

/-- A view of host memory. -/
structure HostView where
  address : Nat
  size : Nat
  kind : AllocationKind
  hint : SharingHint
  /-- Whether the runtime allocated the memory. -/
  owned : Bool
  /-- The context whose ranges include the view, and the number of its range there. -/
  context : ObjectId
  registration : Option Nat := none
  deriving DecidableEq, Repr

/-- A view is a stretch of memory of a fixed size and kind. -/
inductive View where
  | host (view : HostView)
  | foreign (family : Family) (hostAddress deviceAddress size : Nat) (kind : AllocationKind)
  deriving DecidableEq, Repr

/-- What a view tells about itself. Only a shared view of the host has a host address. -/
def View.report : View → ViewReport
  | host view =>
    ⟨.cpu, if view.kind = .shared then view.address else 0, view.address, view.size, view.kind,
      view.hint⟩
  | foreign family hostAddress deviceAddress size kind =>
    ⟨family, hostAddress, deviceAddress, size, kind, .none⟩

/-! ## Modules and kernels -/

/-- A module of the host. Its peers are the modules it was dynamically linked with; they may be
gone. -/
structure HostModule where
  name : String
  code : Code
  options : ModuleOptions := {}
  peers : List ObjectId := []
  deriving Repr

/-- A module is a unit of kernel code. -/
inductive CodeModule where
  | host (module : HostModule)
  | foreign (family : Family) (name : String) (symbols : List (String × Nat))
  deriving Repr

namespace CodeModule

/-- The family of a module. -/
def family : CodeModule → Family
  | host _ => .cpu
  | foreign family _ _ => family

/-- The name of a module. -/
def name : CodeModule → String
  | host module => module.name
  | foreign _ name _ => name

end CodeModule

/-- A kernel of the host: the module it was asked from, and the one whose code its entry is in. -/
structure HostKernel where
  name : String
  entry : Entry
  module : ObjectId
  owner : ObjectId
  deriving DecidableEq, Repr

/-- A kernel is a resolved entry of a module. -/
inductive Kernel where
  | host (kernel : HostKernel)
  | foreign (family : Family) (name : String) (module : ObjectId)
  deriving DecidableEq, Repr

namespace Kernel

/-- The family of a kernel. -/
def family : Kernel → Family
  | host _ => .cpu
  | foreign family _ _ => family

/-- The name of a kernel. -/
def name : Kernel → String
  | host kernel => kernel.name
  | foreign _ name _ => name

/-- The module a kernel was asked from. -/
def module : Kernel → ObjectId
  | host kernel => kernel.module
  | foreign _ _ module => module

end Kernel

/-- The code behind a name: an entry, or a number only its foreign module understands. -/
inductive CodeAddress where
  | entry (entry : Entry)
  | number (number : Nat)
  deriving DecidableEq, Repr

/-! ## Queues and futures -/

/-- A queue of the host, with its accepted jobs, oldest first. -/
structure HostQueue where
  device : ObjectId
  capacity : Nat
  progress : Progress := {}
  jobs : List Job := []
  deriving DecidableEq, Repr

/-- A queue of a device for `capacity` operations; it always takes at least one. -/
def HostQueue.new (device : ObjectId) (capacity : Nat) : HostQueue :=
  { device, capacity := max capacity 1 }

/-- A queue runs operations in order. -/
inductive TaskQueue where
  | host (queue : HostQueue)
  | foreign (family : Family) (native : Nat)
  deriving DecidableEq, Repr

namespace TaskQueue

/-- The family of a queue. -/
def family : TaskQueue → Family
  | host _ => .cpu
  | foreign family _ => family

/-- The native handle of a queue; the host has none. -/
def native : TaskQueue → Nat
  | host _ => 0
  | foreign _ native => native

end TaskQueue

/-- The outcome of a launch. -/
inductive Future where
  | cell (state : FutureState)
  | foreign (valid complete : Bool) (time : Option Nat)
  deriving DecidableEq, Repr

namespace Future

/-- Whether the launch is pending or finished. -/
def isValid : Future → Bool
  | cell state => state.isValid
  | foreign valid _ _ => valid

/-- Whether the launch has finished. -/
def isComplete : Future → Bool
  | cell state => state.isComplete
  | foreign _ complete _ => complete

/-- The duration of the launch, once known. -/
def elapsed? : Future → Option Elapsed
  | cell state => state.elapsed?
  | foreign _ _ time => time.map .given

/-- Settles a pending cell. Foreign futures settle themselves. -/
def settle (next : FutureState) : Future → Future
  | cell state => cell (state.settle next)
  | other => other

end Future

/-! ## Objects -/

/-- An object behind a handle. -/
inductive Object where
  | context (context : Context)
  | device (device : Device)
  | view (view : View)
  | module (module : CodeModule)
  | kernel (kernel : Kernel)
  | queue (queue : TaskQueue)
  | future (future : Future)
  deriving Repr

namespace Object

/-- The kind of an object. -/
def kind : Object → Kind
  | context _ => .context
  | device _ => .device
  | view _ => .memoryView
  | module _ => .module
  | kernel _ => .kernel
  | queue _ => .taskQueue
  | future _ => .future

/-- The objects an object holds, all of them older than itself. A module does not hold its peers,
and a view holds no more of its context than the range it registered. -/
def holds : Object → List ObjectId
  | device (.host _ parent) => [parent]
  | module (.host loaded) => loaded.code.partIds
  | kernel (.host resolved) => [resolved.module, resolved.owner]
  | kernel (.foreign _ _ parent) => [parent]
  | queue (.host ordered) => [ordered.device]
  | _ => []

end Object

end Offload
