import Offload.Module.Path
import Offload.Session.Commit

/-!
# Operations on objects

What devices, contexts, modules and queues do, decided on looked-up objects. Each operation treats
the runtime's own implementation itself and hands foreign ones to their hooks, which record their
calls.
-/

namespace Offload.Session

open Deciding

/-! ## Views -/

/-- A view of the host, over the caller's memory when it is shared and memory is given, and over
memory of its own otherwise. -/
def hostView (session : Session) (platform : Platform) (context : ObjectId) (address size : Nat)
    (flags : ViewFlags) : Deciding View :=
  if flags.kind = .shared ∧ address ≠ 0 then
    pure (.host ⟨address, size, flags.kind, flags.hint, false, context, none⟩)
  else do
    let settings ← settings platform
    let address ← session.allocator.locate size settings.hostAlignment
    pure (.host ⟨address, size, flags.kind, flags.hint, true, context, none⟩)

/-- The recorded call of a foreign hook that makes a view. -/
def recordCreateView (size : Nat) (flags : ViewFlags) : CallRecord :=
  ⟨"create_memory_view", [.number size, .number flags.kind.code, .number flags.hint.code]⟩

/-- Makes a view on a context, whatever its kind. -/
def createContextView (session : Session) (platform : Platform) (id : ObjectId)
    (context : Context) (address size : Nat) (flags : ViewFlags) : Deciding Decision :=
  match context with
  | .host _ _ => return .create (.view (← session.hostView platform id address size flags))
  | .foreign family _ _ =>
    pure ⟨[recordCreateView size flags],
      .create (.view (.foreign family address address size flags.kind))⟩

/-- Makes a view on a context; it has to be shared. -/
def newContextView (session : Session) (platform : Platform) (id : ObjectId)
    (context : Context) (address size : Nat) (flags : ViewFlags) : Deciding Decision :=
  if flags.kind = .shared then session.createContextView platform id context address size flags
  else refuse .contextRequiresShared

/-- Makes a view on a device; its kind has to be known. -/
def newDeviceView (session : Session) (platform : Platform) (device : Device)
    (address size : Nat) (flags : ViewFlags) : Deciding Decision :=
  if flags.kind = .unknown then refuse (.unsupportedAllocation flags.kind.code)
  else
    match device with
    | .host _ context =>
      return .create (.view (← session.hostView platform context address size flags))
    | .foreign family _ _ _ =>
      pure ⟨[recordCreateView size flags],
        .create (.view (.foreign family address address size flags.kind))⟩

/-- The class of an address among the views made on a device's context. -/
def classify (session : Session) (device : Device) (address : Nat) : AllocationKind :=
  match device with
  | .foreign _ _ _ kind => kind
  | .host _ context =>
    match (session.heap.context? context).bind Context.ranges? with
    | some ranges => ranges.classify address
    | none => .unknown

/-! ## Modules and kernels -/

/-- Loads a module file. -/
def loadModule (platform : Platform) (device : Device) (path : String)
    (options : ModuleOptions) : Deciding Decision :=
  match device with
  | .host _ _ => do
    if path.isEmpty then refuse (.invalidArgument "path" "module path is empty")
    else
      let file := ModulePath.file path
      remark "Loading CPU module"
        [("path", Quoted.quote path), ("file", file), ("options", options.describe)]
      match platform.library? file with
      | none => refuse (.moduleLoad file "the loader does not find the file")
      | some code => pure (.create (.module (.host ⟨path, code, options, []⟩)))
  | .foreign family _ _ _ =>
    pure ⟨[⟨"load_module",
        [.text path, .number options.stackSize, .flag options.libraryCompilation,
          .number options.kind.code, .flag options.debug, .number options.optimization]⟩],
      .create (.module (.foreign family path []))⟩

/-- Refuses a module that is not one of the host's own. -/
def requireHostModule (found : ObjectId × CodeModule) :
    Except Failure (ObjectId × HostModule) :=
  match found with
  | (id, .host module) => .ok (id, module)
  | (_, .foreign family _ _) => .error (.familyMismatch .cpu family)

/-- Refuses an empty list and the first module that is not one of the host's own. -/
def requireHostModules (modules : List (ObjectId × CodeModule)) :
    Except Failure (List (ObjectId × HostModule)) :=
  if modules.isEmpty then .error .emptyModuleList
  else modules.mapM requireHostModule

/-- The module that consists of parts, named after them. -/
def composite (parts : List (ObjectId × HostModule)) : HostModule :=
  { name := "+".intercalate (parts.map (·.2.name))
    code := .composite (parts.map fun part => (part.1, part.2.name, part.2.code)) }

/-- Links modules into a new one. -/
def linkStatic (device : Device) (modules : List (ObjectId × CodeModule)) : Deciding Decision :=
  match device with
  | .host _ _ => do
    let parts ← requireHostModules modules
    let whole := composite parts
    remark "Statically linking CPU modules"
      [("name", whole.name), ("parts", toString parts.length)]
    pure (.create (.module (.host whole)))
  | .foreign _ _ _ _ =>
    pure ⟨[⟨"static_link_modules", [.texts (modules.map (·.2.name))]⟩],
      .refuse (.typed .notSupported "no static linking")⟩

/-- Makes modules resolve names from each other. -/
def linkDynamic (device : Device) (modules : List (ObjectId × CodeModule)) : Deciding Decision :=
  match device with
  | .host _ _ => do
    let parts ← requireHostModules modules
    remark "Dynamically linking CPU modules" [("modules", toString parts.length)]
    pure { effect := .link (parts.map (·.1)) }
  | .foreign _ _ _ _ =>
    pure ⟨[⟨"dynamic_link_modules", [.texts (modules.map (·.2.name))]⟩], .answer .nothing⟩

/-- The code behind a name of a module, its live peers included; a foreign module may define a name
without giving it an address. -/
def functionAddress (session : Session) (module : CodeModule) (name : String) :
    Except Failure (Option CodeAddress) :=
  match module with
  | .host module =>
    match session.heap.resolveEntry? module name with
    | some entry => .ok (some (.entry entry))
    | none => .error (.symbolNotFound name)
  | .foreign _ _ symbols =>
    match symbols.find? (·.1 == name) with
    | some (_, 0) => .ok none
    | some (_, number) => .ok (some (.number number))
    | none => .error (.symbolNotFound name)

/-- Resolves a kernel from a module. -/
def newKernel (session : Session) (device : Device) (module : ObjectId × CodeModule)
    (name : String) : Deciding Decision :=
  match device with
  | .host _ _ => do
    let (id, found) ← requireHostModule module
    match session.heap.resolveOwner? id found name with
    | some (entry, owner) => pure (.create (.kernel (.host ⟨name, entry, id, owner⟩)))
    | none => refuse (.symbolNotFound name)
  | .foreign family _ _ _ =>
    pure ⟨[⟨"new_kernel", [.text module.2.name, .text name]⟩],
      .create (.kernel (.foreign family name module.1))⟩

/-! ## Queues -/

/-- Notes the creation of a host queue. -/
def noteQueue (capacity : Nat) : Deciding Unit :=
  remark "Creating CPU task queue" [("max_pending", toString (max capacity 1))]

/-- Makes a queue on a device; the settings say how much a host queue accepts. -/
def newQueue (platform : Platform) (id : ObjectId) (device : Device) : Deciding Decision :=
  match device with
  | .host _ _ => do
    let settings ← settings platform
    noteQueue settings.maxPending
    pure (.create (.queue (.host (HostQueue.new id settings.maxPending))))
  | .foreign family _ native _ =>
    pure ⟨[⟨"new_task_queue", []⟩], .create (.queue (.foreign family native))⟩

/-- The hooks of a host queue: each submits a job. Only kernels of the host can be entered. -/
def hostHooks (queue : ObjectId) :
    QueueHooks (ObjectId × View) (ObjectId × Kernel) (Deciding Decision) where
  family := .cpu
  report := (·.2.report)
  kernelFamily := (·.2.family)
  copyToDevice view := pure { effect := .submit queue ⟨.copyToDevice, .transfer, [view.1], none⟩ }
  copyToHost view := pure { effect := .submit queue ⟨.copyToHost, .transfer, [view.1], none⟩ }
  copy destination source size :=
    let work := .move destination.2.report.deviceAddress source.2.report.deviceAddress size
    pure { effect := .submit queue ⟨.copy, work, [destination.1, source.1], none⟩ }
  launch kernel parameters extent :=
    match kernel with
    | (_, .foreign family _ _) => refuse (.familyMismatch .cpu family)
    | (id, .host kernel) =>
      let address := (parameters.map (·.2.report.deviceAddress)).getD 0
      let work := .enter kernel.entry ⟨address, extent⟩
      pure { effect := .launch queue ⟨.launch, work, id :: (parameters.map (·.1)).toList, none⟩ }

/-- The hooks of a foreign queue: each records its call. -/
def foreignHooks (family : Family) :
    QueueHooks (ObjectId × View) (ObjectId × Kernel) (Deciding Decision) where
  family
  report := (·.2.report)
  kernelFamily := (·.2.family)
  copyToDevice view :=
    pure ⟨[⟨"enqueue_copy_to_device", [.number view.2.report.size]⟩], .answer .nothing⟩
  copyToHost view :=
    pure ⟨[⟨"enqueue_copy_to_host", [.number view.2.report.size]⟩], .answer .nothing⟩
  copy destination source size :=
    pure ⟨[⟨"enqueue_copy",
        [.number destination.2.report.size, .number source.2.report.size, .number size]⟩],
      .answer .nothing⟩
  launch kernel parameters extent :=
    let size : CallArgument :=
      match parameters with
      | none => .absent
      | some view => .number view.2.report.size
    pure ⟨[⟨"enqueue_launch", [.text kernel.2.name, size, .numbers extent.toList]⟩],
      .create (.future (.foreign true false none))⟩

/-- The hooks of a queue. -/
def hooks (queue : ObjectId × TaskQueue) :
    QueueHooks (ObjectId × View) (ObjectId × Kernel) (Deciding Decision) :=
  match queue.2 with
  | .host _ => hostHooks queue.1
  | .foreign family _ => foreignHooks family

/-- Enqueues the transfer of a view's host contents to the device. -/
def copyToDevice (queue : ObjectId × TaskQueue) (view : ObjectId × View) :
    Deciding Decision := do
  (← (hooks queue).transferToDevice view)

/-- Enqueues the transfer of a view's device contents to the host. -/
def copyToHost (queue : ObjectId × TaskQueue) (view : ObjectId × View) : Deciding Decision := do
  (← (hooks queue).transferToHost view)

/-- Enqueues a copy between two views. -/
def copyView (queue : ObjectId × TaskQueue) (destination source : ObjectId × View)
    (size : Nat) : Deciding Decision := do
  match ← (hooks queue).copyView destination source size with
  | none => pure (.answer .nothing)
  | some enqueue => enqueue

/-- Enqueues a launch. -/
def launch (queue : ObjectId × TaskQueue) (kernel : ObjectId × Kernel)
    (parameters : Option (ObjectId × View)) (extent : Extent) : Deciding Decision := do
  (← (hooks queue).launchKernel kernel parameters extent)

/-- Enqueues an ordering point. The jobs of a host queue run one after the other anyway. -/
def barrier (queue : TaskQueue) : Decision :=
  match queue with
  | .host _ => .answer .nothing
  | .foreign _ _ => ⟨[⟨"barrier", []⟩], .answer .nothing⟩

/-- Waits for everything a queue has accepted, and takes its failure. -/
def sync (queue : ObjectId × TaskQueue) : Decision :=
  match queue.2 with
  | .host _ => { effect := .drain queue.1 }
  | .foreign _ _ => ⟨[⟨"sync", []⟩], .refuse (.backend "stream lost")⟩

end Offload.Session
