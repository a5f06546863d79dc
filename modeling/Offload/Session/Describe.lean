import Offload.Session.Operations

/-!
# Descriptions

What a session tells about the object of a handle.
-/

namespace Offload

/-- A description of an object, by its kind. -/
inductive Description where
  | device (device : Device)
  /-- A context with the number of its tracked ranges, where it tracks any. -/
  | context (context : Context) (tracked : Option Nat)
  | view (report : ViewReport)
  /-- A module with the description of its code and its options, where they are known. -/
  | module (family : Family) (name : String) (details : Option (String × ModuleOptions))
  /-- A kernel with the name of its module and, where they are known, its owner's name and its
  entry. -/
  | kernel (family : Family) (name module : String) (details : Option (String × Entry))
  | queue (family : Family) (native : Nat) (text : String)
  | future (valid complete : Bool) (elapsed : Option Elapsed)
  deriving Repr

namespace Code

/-- The texts of a list between brackets. -/
def bracketed (opening closing : String) (texts : List String) : String :=
  opening ++ ", ".intercalate texts ++ closing

/-- Whether a text contains another. -/
def containsText (pattern : List Char) : List Char → Bool
  | [] => pattern.isEmpty
  | character :: rest =>
    pattern.isPrefixOf (character :: rest) || containsText pattern rest

/-- A description of code. Routines of the host program have no order of their own, so several of
them are not spelled out. -/
def describe : Code → String
  | library _ _ => "Library"
  | symbols routines =>
    let text := bracketed "\x7b" "\x7d" (routines.map (Quoted.quote ·.1))
    if containsText "\", \"".toList text.toList then "\x7b...\x7d" else text
  | composite parts => bracketed "[" "]" (parts.map (Quoted.quote ·.2.1))

end Code

/-- A description of a queue. -/
def describeQueue (heap : Heap) : TaskQueue → String
  | .host queue =>
    let index := ((heap.device? queue.device).map (·.index)).getD 0
    s!"CpuTaskQueue \x7b device: {index}, pending: {queue.progress.pending}, " ++
      s!"max_pending: {queue.capacity} \x7d"
  | .foreign family native =>
    s!"FakeQueue \x7b dt: {family.title}, native: {native} \x7d"

namespace Session

/-- The name of a module on the heap. -/
def moduleName (session : Session) (id : ObjectId) : String :=
  ((session.heap.module? id).map (·.name)).getD ""

/-- The description of an object on the heap. -/
def describeObject (session : Session) : Object → Description
  | .device device => .device device
  | .context context => .context context (context.ranges?.map (·.size))
  | .view view => .view view.report
  | .module (.host module) =>
    .module .cpu module.name (some (module.code.describe, module.options))
  | .module (.foreign family name _) => .module family name none
  | .kernel (.host kernel) =>
    .kernel .cpu kernel.name (session.moduleName kernel.module)
      (some (session.moduleName kernel.owner, kernel.entry))
  | .kernel (.foreign family name module) =>
    .kernel family name (session.moduleName module) none
  | .queue queue => .queue queue.family queue.native (describeQueue session.heap queue)
  | .future future => .future future.isValid future.isComplete future.elapsed?

/-- The description of the object of a handle. -/
def describe (session : Session) (handle : Handle) : Except Failure Description := do
  let slot ← session.registry.locate handle
  match session.heap.get? slot.object with
  | some object => .ok (session.describeObject object)
  | none => .error (.invalidHandle handle)

end Session

end Offload
