import Offload.Call

/-!
# Requests

The operations of the runtime for clients that hold typed values: families and kinds rather than
numbers, texts rather than octets. A request resolves its handles in order, the owner first, and
its failures go back to the client as they are.
-/

namespace Offload

/-- A request with typed arguments. -/
inductive Request where
  | lookup (handle : Handle) (kind : Kind)
  | retain (handle : Handle)
  | release (handle : Handle)
  | useCount (handle : Handle)
  /-- Gives out one more handle for the object of a handle. -/
  | exposeAgain (handle : Handle)
  | device (family : Family) (index : Nat)
  | context (family : Family) (native : Option Nat)
  | deviceOn (context : Handle) (index : Nat)
  | deviceOnNative (context : Handle) (native : Nat)
  | deviceCount (family : Family)
  | deviceInfo (family : Family) (index : Nat)
  | newView (device : Handle) (address size kind hint : Nat)
  /-- Makes a view on a context without asking for a shared one. -/
  | createContextView (context : Handle) (address size kind hint : Nat)
  | loadModule (device : Handle) (path : String) (options : RawModuleOptions)
  | functionAddress (module : Handle) (name : String)
  | linkStatic (device : Handle) (modules : List Handle)
  | linkDynamic (device : Handle) (modules : List Handle)
  | newKernel (device module : Handle) (name : String)
  | launch (queue kernel parameters : Handle) (extent : Extent)
  | copyView (queue destination source : Handle) (size : Nat)
  | copyToDevice (queue view : Handle)
  | copyToHost (queue view : Handle)
  | barrier (queue : Handle)
  | sync (queue : Handle)
  /-- Makes a host device, whether or not the build has the host. -/
  | hostDevice (index : Nat)
  /-- Makes a host queue for `capacity` operations, with a device of its own. -/
  | queueWithCapacity (capacity : Nat)
  /-- Makes a module of routines of the host program, given as pairs of symbol and routine. -/
  | symbolModule (name : String) (symbols : List (String × String))
  /-- Gives out a handle for an object made outside. -/
  | offer (creation : Creation) (outside : creation.isOutside = true := by rfl)
  /-- Gives out a handle for a foreign kernel of a module. -/
  | offerKernel (family : Family) (name : String) (module : Handle)
  | settle (future : Handle) (state : FutureState)
  | gpuCount
  | gpuInfo (index : Nat)
  | gpuDevice (index : Nat)
  | gpuContext (index : Nat)
  | gpuAdopt (native : Nat)
  /-- Whether the driver has a device. -/
  | gpuAvailable
  deriving Repr

namespace Request

/-- What a request decides to do in a session. -/
def decide (platform : Platform) (session : Session) : Request → Deciding Decision
  | lookup handle kind => do
    let _ ← session.registry.lookup kind handle
    pure (.answer .nothing)
  | retain handle => pure { effect := .retain handle }
  | release handle => pure { effect := .release handle }
  | useCount handle => do
    let count ← session.registry.useCount handle
    pure (.answer (.number count))
  | exposeAgain handle => do
    let slot ← session.registry.locate handle
    pure { effect := .expose slot.kind slot.object }
  | device family index => return .create (← Selection.device platform family index)
  | context family native => return .create (← Selection.context platform family native)
  | deviceOn handle index => do
    let (id, parent) ← session.context handle
    return .create (← Selection.deviceOn platform id parent index)
  | deviceOnNative handle native => do
    let (id, parent) ← session.context handle
    return .create (← Selection.deviceOnNative platform id parent native)
  | deviceCount family => return .answer (.number (← Selection.deviceCount platform family))
  | deviceInfo family index =>
    return .answer (.info (← Selection.deviceInfo platform family index))
  | newView owner address size kind hint => do
    let (_, target) ← session.device owner
    let flags ← ViewFlags.ofCodes kind hint
    session.newDeviceView platform target address size flags
  | createContextView owner address size kind hint => do
    let (id, parent) ← session.context owner
    let flags ← ViewFlags.ofCodes kind hint
    session.createContextView platform id parent address size flags
  | loadModule owner path options => do
    let (_, target) ← session.device owner
    let options ← options.decode
    Session.loadModule platform target path options
  | functionAddress module name => do
    let (_, module) ← session.module module
    return .answer (.code (← session.functionAddress module name))
  | linkStatic owner modules => do
    let (_, target) ← session.device owner
    let modules ← (modules.mapM session.module : Except Failure _)
    Session.linkStatic target modules
  | linkDynamic owner modules => do
    let (_, target) ← session.device owner
    let modules ← (modules.mapM session.module : Except Failure _)
    Session.linkDynamic target modules
  | newKernel owner module name => do
    let (_, target) ← session.device owner
    let module ← session.module module
    session.newKernel target module name
  | launch queue kernel parameters extent => do
    let queue ← session.queue queue
    let kernel ← session.kernel kernel
    let parameters ← session.parameters parameters
    Session.launch queue kernel parameters extent
  | copyView queue destination source size => do
    let queue ← session.queue queue
    let destination ← session.view destination
    let source ← session.view source
    Session.copyView queue destination source size
  | copyToDevice queue view => do
    let queue ← session.queue queue
    let view ← session.view view
    Session.copyToDevice queue view
  | copyToHost queue view => do
    let queue ← session.queue queue
    let view ← session.view view
    Session.copyToHost queue view
  | barrier queue => do
    let (_, queue) ← session.queue queue
    pure (Session.barrier queue)
  | sync queue => do
    let queue ← session.queue queue
    pure (Session.sync queue)
  | hostDevice index => return .create (← Selection.newHostDevice index)
  | queueWithCapacity capacity => do
    let _ ← Selection.newHostDevice 0
    Session.noteQueue capacity
    pure (.create (.queueWithDevice capacity))
  | symbolModule name symbols =>
    let code := Code.ofSymbols (symbols.map fun symbol => (symbol.1, .host symbol.2))
    pure (.create (.module (.host { name, code })))
  | offer creation _ => pure (.create creation)
  | offerKernel family name module => do
    let (id, _) ← session.module module
    pure (.create (.kernel (.foreign family name id)))
  | settle future state => do
    let (id, _) ← session.future future
    pure { effect := .settle id state }
  | gpuCount => return .answer (.number (← Deciding.ofDriver platform.driver.count))
  | gpuInfo index => return .answer (.info (← Deciding.ofDriver (platform.driver.info index)))
  | gpuDevice index => return .create (.device (← Selection.newGpuDevice platform index))
  | gpuContext index => return .create (.context (← Selection.newGpuContext platform index))
  | gpuAdopt native => return .create (.context (← Selection.adoptGpuContext platform native))
  | gpuAvailable =>
    match platform.driver.count with
    | .ok count => pure (.answer (.flag (0 < count)))
    | .error _ => pure (.answer (.flag false))

/-- Decides and commits a request. -/
def enter (platform : Platform) (session : Session) (request : Request) : Session × Progressed :=
  session.perform (request.decide platform session)

end Request

end Offload
