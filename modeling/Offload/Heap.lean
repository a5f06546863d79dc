import Offload.Object

/-!
# The object heap

All objects that are alive, under the numbers they got when they were made. An object is alive as
long as something outside the heap refers to it or an object that is alive holds it. Objects hold
only older ones, so one pass from the newest object to the oldest finds everything to keep.
-/

namespace Offload

/-- The live objects under their numbers, newest first. -/
abbrev Heap := Table Object

namespace Heap

/-- The context under a number. -/
def context? (heap : Heap) (id : ObjectId) : Option Context :=
  match heap.get? id with
  | some (.context context) => some context
  | _ => none

/-- The device under a number. -/
def device? (heap : Heap) (id : ObjectId) : Option Device :=
  match heap.get? id with
  | some (.device device) => some device
  | _ => none

/-- The view under a number. -/
def view? (heap : Heap) (id : ObjectId) : Option View :=
  match heap.get? id with
  | some (.view view) => some view
  | _ => none

/-- The module under a number. -/
def module? (heap : Heap) (id : ObjectId) : Option CodeModule :=
  match heap.get? id with
  | some (.module module) => some module
  | _ => none

/-- The host module under a number. -/
def hostModule? (heap : Heap) (id : ObjectId) : Option HostModule :=
  match heap.get? id with
  | some (.module (.host module)) => some module
  | _ => none

/-- The kernel under a number. -/
def kernel? (heap : Heap) (id : ObjectId) : Option Kernel :=
  match heap.get? id with
  | some (.kernel kernel) => some kernel
  | _ => none

/-- The queue under a number. -/
def queue? (heap : Heap) (id : ObjectId) : Option TaskQueue :=
  match heap.get? id with
  | some (.queue queue) => some queue
  | _ => none

/-- The host queue under a number. -/
def hostQueue? (heap : Heap) (id : ObjectId) : Option HostQueue :=
  match heap.get? id with
  | some (.queue (.host queue)) => some queue
  | _ => none

/-- The future under a number. -/
def future? (heap : Heap) (id : ObjectId) : Option Future :=
  match heap.get? id with
  | some (.future future) => some future
  | _ => none

/-- Changes the context under a number. -/
def modifyContext (heap : Heap) (id : ObjectId) (change : Context → Context) : Heap :=
  heap.modify id fun object =>
    match object with
    | .context context => .context (change context)
    | other => other

/-- Changes the host module under a number. -/
def modifyModule (heap : Heap) (id : ObjectId) (change : HostModule → HostModule) : Heap :=
  heap.modify id fun object =>
    match object with
    | .module (.host module) => .module (.host (change module))
    | other => other

/-- Changes the host queue under a number. -/
def modifyQueue (heap : Heap) (id : ObjectId) (change : HostQueue → HostQueue) : Heap :=
  heap.modify id fun object =>
    match object with
    | .queue (.host queue) => .queue (.host (change queue))
    | other => other

/-- Settles the future under a number. -/
def settleFuture (heap : Heap) (id : ObjectId) (next : FutureState) : Heap :=
  heap.modify id fun object =>
    match object with
    | .future future => .future (future.settle next)
    | other => other

/-- The jobs of all queues, in the order of their queues, newest queue first. -/
def jobs (heap : Heap) : List Job :=
  heap.values.flatMap fun object =>
    match object with
    | .queue (.host queue) => queue.jobs
    | _ => []

/-- The numbers of the host queues, oldest first. -/
def hostQueues (heap : Heap) : List ObjectId :=
  (heap.entries.filterMap fun entry =>
    match entry.2 with
    | .queue (.host _) => some entry.1
    | _ => none).reverse

/-- The library files that live modules keep loaded. -/
def files (heap : Heap) : List String :=
  heap.values.filterMap fun object =>
    match object with
    | .module (.host module) => module.code.file?
    | _ => none

/-! ## Dynamic linking -/

/-- Makes every module of a set a peer of every other one. -/
def link (heap : Heap) (set : List ObjectId) : Heap :=
  set.foldl (fun (heap : Heap) id =>
    heap.modifyModule id fun module =>
      { module with peers := Peers.link heap.contains id set module.peers }) heap

/-- The peers of a module that are still alive, in the order they were linked. -/
def livePeers (heap : Heap) (module : HostModule) : List (ObjectId × HostModule) :=
  module.peers.filterMap fun id => (heap.hostModule? id).map (id, ·)

/-- The entry of a name in a module's own code or, failing that, in the first live peer that
defines it. -/
def resolveEntry? (heap : Heap) (module : HostModule) (name : String) : Option Entry :=
  match module.code.resolve name with
  | some entry => some entry
  | none => (heap.livePeers module).findSome? (·.2.code.resolve name)

/-- The entry of a name together with the module whose own code it is in. -/
def resolveOwner? (heap : Heap) (id : ObjectId) (module : HostModule) (name : String) :
    Option (Entry × ObjectId) :=
  match module.code.resolve name with
  | some entry => some (entry, id)
  | none =>
    (heap.livePeers module).findSome? fun peer =>
      (peer.2.code.resolve name).map (·, peer.1)

/-! ## Collection -/

/-- The objects to keep, of a list with the newest first: those already referred to, and what they
hold. -/
def survivors (referred : List ObjectId) : List (ObjectId × Object) → List (ObjectId × Object)
  | [] => []
  | entry :: older =>
    if referred.contains entry.1 then
      entry :: survivors (entry.2.holds ++ referred) older
    else survivors referred older

/-- Gives up the ranges of views that are not kept. -/
def forgetRanges (kept : Heap) (objects : List (ObjectId × Object)) : Heap :=
  objects.foldl (fun (heap : Heap) entry =>
    match entry.2 with
    | .view (.host view) =>
      match view.registration with
      | some number =>
        if kept.contains entry.1 then heap
        else heap.modifyContext view.context (·.mapRanges (·.forget number))
      | none => heap
    | _ => heap) kept

/-- The heap without the objects that neither a root refers to nor a live object holds, and with
the ranges of lost views given up. -/
def collect (heap : Heap) (roots : List ObjectId) : Heap :=
  forgetRanges ⟨heap.next, survivors roots heap.entries⟩ heap.entries

end Heap

end Offload
