import Offload.Proofs.Session.Remarks

/-!
# What decisions draw on

A decision that puts a job into a queue, drains a queue or gives out another handle takes the objects
for it from handles. So an object that no handle names comes into no new job. A new view of the host
belongs to a context of the host that is alive, and the memory the runtime allocates for it is not
null.
-/

namespace Offload

open Deciding Heap

variable {platform : Platform} {resolved : Settings} {session : Session}

/-- A launch over an extent: it holds its kernel and its parameters, if it has any, and enters the
entry of the kernel at the device address of the parameters, or at null without any. -/
def Job.Launches (find? : ObjectId → Option Object) (job : Job) (extent : Extent) : Prop :=
  ∃ (id : ObjectId) (own : HostKernel) (parameters : Option (ObjectId × View)),
    find? id = some (.kernel (.host own)) ∧
    (∀ found, parameters = some found → find? found.1 = some (.view found.2)) ∧
    job.operation = .launch ∧
    job.work = .enter own.entry ⟨(parameters.map (·.2.report.deviceAddress)).getD 0, extent⟩ ∧
    job.holds = id :: (parameters.map (·.1)).toList

/-- What an effect draws on: queues, views and kernels that handles name, and for a view of the host
its context and the settings for its memory. -/
def Effect.Drawn (session : Session) (resolved : Settings) : Effect → Prop
  | .create (.view (.host view)) =>
    (∃ adopted ranges, session.heap.context? view.context = some (.host adopted ranges)) ∧
      (view.size ≠ 0 → view.address ≠ 0 ∨
        view.address = alignUp session.allocator.frontier resolved.hostAlignment)
  | .expose _ id => session.registry.Names id
  | .submit queue job => session.registry.Names queue ∧
    (∀ id ∈ job.holds, session.registry.Names id) ∧ job.future = none ∧
      ∀ entry invocation, job.work ≠ .enter entry invocation
  | .launch queue job => session.registry.Names queue ∧
    (∀ id ∈ job.holds, session.registry.Names id) ∧
      ∃ extent, job.Launches session.heap.get? extent
  | .drain queue => session.registry.Names queue
  | _ => True

/-- What a decision draws on. -/
def Decision.Drawn (session : Session) (resolved : Settings) (decision : Decision) : Prop :=
  decision.effect.Drawn session resolved

theorem drawn_create {creation : Creation} (hnoView : creation.NoView) :
    (Decision.create creation).Drawn session resolved := by
  rcases creation with _ | _ | _ | (view | _) | _ | _ | _ | _ | _
  case view.host => exact absurd rfl (hnoView view)
  all_goals trivial

namespace Session

/-- A looked-up object is named by its handle. -/
theorem names_of_lookup {α : Type} {kind : Kind} {read? : Heap → ObjectId → Option α}
    {handle : Handle} {found : ObjectId × α} (hlookup : session.lookup kind read? handle = .ok found) :
    session.registry.Names found.1 := by
  obtain ⟨slot, hslot, -, hid⟩ := Registry.lookup_eq_ok (lookup_eq_ok hlookup).1
  exact hid ▸ Registry.names_of_get? hslot

/-! ## Views -/

/-- Memory of a view of the host is the caller's or comes from the allocator. -/
theorem drawn_hostView {context : ObjectId} {adopted : Bool} {ranges : RangeTracker}
    (address size : Nat) (flags : ViewFlags)
    (hcontext : session.heap.context? context = some (.host adopted ranges)) :
    (session.hostView platform context address size flags).Remarks platform.environment resolved
      fun view ↦ (Decision.create (.view view)).Drawn session resolved := by
  unfold hostView
  split
  · next hshared => exact remarks_pure ⟨⟨adopted, ranges, hcontext⟩, fun _ ↦ .inl hshared.2⟩
  · refine remarks_bind (remarks_settings platform) fun settings hsettings ↦ ?_
    obtain rfl := hsettings
    refine remarks_found fun located hlocated ↦ remarks_pure ⟨⟨adopted, ranges, hcontext⟩, ?_⟩
    intro hsize
    unfold Allocator.locate at hlocated
    rw [if_neg hsize] at hlocated
    split at hlocated
    · exact absurd hlocated (by simp)
    · split at hlocated
      · exact absurd hlocated (by simp)
      · exact .inr (Except.ok.inj hlocated).symm

theorem drawn_createContextView {id : ObjectId} {context : Context} (address size : Nat)
    (flags : ViewFlags) (hcontext : session.heap.context? id = some context) :
    (session.createContextView platform id context address size flags).Remarks
      platform.environment resolved (Decision.Drawn session resolved) := by
  cases context with
  | host =>
    exact remarks_bind (drawn_hostView address size flags hcontext) fun _ hview ↦
      remarks_pure hview
  | foreign => exact remarks_pure trivial

theorem drawn_newContextView {id : ObjectId} {context : Context} (address size : Nat)
    (flags : ViewFlags) (hcontext : session.heap.context? id = some context) :
    (session.newContextView platform id context address size flags).Remarks
      platform.environment resolved (Decision.Drawn session resolved) :=
  remarks_ite (drawn_createContextView address size flags hcontext) (remarks_refuse _)

theorem drawn_newDeviceView {id : ObjectId} {device : Device} (address size : Nat)
    (flags : ViewFlags) (hsound : session.Sound [])
    (hdevice : session.heap.device? id = some device) :
    (session.newDeviceView platform device address size flags).Remarks platform.environment
      resolved (Decision.Drawn session resolved) := by
  unfold newDeviceView
  split
  · exact remarks_refuse _
  · cases device with
    | host index context =>
      obtain ⟨adopted, ranges, hcontext⟩ :=
        hsound.rooted.sound.supported (device?_eq_some.1 hdevice)
      exact remarks_bind (drawn_hostView address size flags (context?_eq_some.2 hcontext))
        fun _ hview ↦ remarks_pure hview
    | foreign => exact remarks_pure trivial

/-! ## Modules and kernels -/

theorem drawn_loadModule (device : Device) (path : String) (options : ModuleOptions) :
    (Session.loadModule platform device path options).Remarks platform.environment resolved
      (Decision.Drawn session resolved) := by
  cases device with
  | foreign => exact remarks_pure trivial
  | host =>
    refine remarks_ite (remarks_refuse _) (remarks_after (remarks_remark _ _) fun _ ↦ ?_)
    cases platform.library? (ModulePath.file path) with
    | none => exact remarks_refuse _
    | some code => exact remarks_pure trivial

theorem drawn_linkStatic (device : Device) (modules : List (ObjectId × CodeModule)) :
    (Session.linkStatic device modules).Remarks platform.environment resolved
      (Decision.Drawn session resolved) := by
  cases device with
  | foreign => exact remarks_pure trivial
  | host =>
    exact remarks_found fun _ _ ↦ remarks_after (remarks_remark _ _) fun _ ↦ remarks_pure trivial

theorem drawn_linkDynamic (device : Device) (modules : List (ObjectId × CodeModule)) :
    (Session.linkDynamic device modules).Remarks platform.environment resolved
      (Decision.Drawn session resolved) := by
  cases device with
  | foreign => exact remarks_pure trivial
  | host =>
    exact remarks_found fun _ _ ↦ remarks_after (remarks_remark _ _) fun _ ↦ remarks_pure trivial

theorem drawn_newKernel (device : Device) (module : ObjectId × CodeModule) (name : String) :
    (session.newKernel device module name).Remarks platform.environment resolved
      (Decision.Drawn session resolved) := by
  cases device with
  | foreign => exact remarks_pure trivial
  | host =>
    refine remarks_found fun found _ ↦ ?_
    cases hresolve : session.heap.resolveOwner? found.1 found.2 name with
    | none =>
      simp only [hresolve]
      exact remarks_refuse _
    | some resolution =>
      simp only [hresolve]
      exact remarks_pure trivial

/-! ## Queues -/

theorem drawn_newQueue (id : ObjectId) (device : Device) :
    (Session.newQueue platform id device).Remarks platform.environment resolved
      (Decision.Drawn session resolved) := by
  cases device with
  | foreign => exact remarks_pure trivial
  | host =>
    exact remarks_after (remarks_settings platform) fun _ ↦
      remarks_after (remarks_remark _ _) fun _ ↦ remarks_pure trivial

/-- An enqueue that passes its checks holds the queue, the views and the kernel it was given. -/
theorem drawn_hooks {queue : ObjectId × TaskQueue} {view : ObjectId × View}
    (hqueue : session.registry.Names queue.1) (hview : session.registry.Names view.1) :
    ((hooks queue).copyToDevice view).Remarks platform.environment resolved
        (Decision.Drawn session resolved) ∧
      ((hooks queue).copyToHost view).Remarks platform.environment resolved
        (Decision.Drawn session resolved) ∧
      ∀ (source : ObjectId × View) (size : Nat), session.registry.Names source.1 →
        ((hooks queue).copy view source size).Remarks platform.environment resolved
          (Decision.Drawn session resolved) := by
  have hone : ∀ id ∈ [view.1], session.registry.Names id := by
    intro id hid
    rwa [List.mem_singleton.1 hid]
  obtain ⟨id, queue⟩ := queue
  cases queue with
  | foreign => exact ⟨remarks_pure trivial, remarks_pure trivial, fun _ _ _ ↦ remarks_pure trivial⟩
  | host =>
    refine ⟨remarks_pure ⟨hqueue, hone, rfl, fun _ _ ↦ nofun⟩,
      remarks_pure ⟨hqueue, hone, rfl, fun _ _ ↦ nofun⟩, ?_⟩
    intro source size hsource
    refine remarks_pure ⟨hqueue, ?_, rfl, fun _ _ ↦ nofun⟩
    intro held hheld
    simp only [List.mem_cons, List.not_mem_nil, or_false] at hheld
    rcases hheld with rfl | rfl
    · exact hview
    · exact hsource

theorem drawn_copyToDevice {queue : ObjectId × TaskQueue} {view : ObjectId × View}
    (hqueue : session.registry.Names queue.1) (hview : session.registry.Names view.1) :
    (Session.copyToDevice queue view).Remarks platform.environment resolved
      (Decision.Drawn session resolved) := by
  refine remarks_found fun _ hpass ↦ ?_
  rw [QueueHooks.transferToDevice_eq_ok hpass]
  exact (drawn_hooks hqueue hview).1

theorem drawn_copyToHost {queue : ObjectId × TaskQueue} {view : ObjectId × View}
    (hqueue : session.registry.Names queue.1) (hview : session.registry.Names view.1) :
    (Session.copyToHost queue view).Remarks platform.environment resolved
      (Decision.Drawn session resolved) := by
  refine remarks_found fun _ hpass ↦ ?_
  rw [QueueHooks.transferToHost_eq_ok hpass]
  exact (drawn_hooks hqueue hview).2.1

theorem drawn_copyView {queue : ObjectId × TaskQueue} {destination source : ObjectId × View}
    (size : Nat) (hqueue : session.registry.Names queue.1)
    (hdestination : session.registry.Names destination.1)
    (hsource : session.registry.Names source.1) :
    (Session.copyView queue destination source size).Remarks platform.environment resolved
      (Decision.Drawn session resolved) := by
  refine remarks_found fun _ hpass ↦ ?_
  rw [QueueHooks.copyView_eq_ok hpass]
  by_cases hsize : size = 0
  · rw [if_pos hsize]
    exact remarks_pure trivial
  · rw [if_neg hsize]
    exact (drawn_hooks hqueue hdestination).2.2 source size hsource

/-- A launch on a queue of the host enters the entry of its kernel, at the device address of its
parameters or at null, and over its extent. -/
theorem remarks_launch_eq (queue : ObjectId × TaskQueue) (kernel : ObjectId × Kernel)
    (parameters : Option (ObjectId × View)) (extent : Extent) :
    (Session.launch queue kernel parameters extent).Remarks platform.environment resolved
      fun decision ↦ (∃ family native, queue.2 = .foreign family native ∧
          ∃ creation, decision.effect = .create creation ∧ creation.NoView) ∨
        ∃ ordered own, queue.2 = .host ordered ∧ kernel.2 = .host own ∧
          decision.effect = .launch queue.1 ⟨.launch,
            .enter own.entry ⟨(parameters.map (·.2.report.deviceAddress)).getD 0, extent⟩,
            kernel.1 :: (parameters.map (·.1)).toList, none⟩ := by
  refine remarks_found fun _ hpass ↦ ?_
  rw [QueueHooks.launchKernel_eq_ok hpass]
  obtain ⟨id, queue⟩ := queue
  cases queue with
  | foreign family native =>
    exact remarks_pure (.inl ⟨family, native, rfl, _, rfl, fun _ ↦ nofun⟩)
  | host ordered =>
    obtain ⟨held, kernel⟩ := kernel
    cases kernel with
    | foreign => exact remarks_refuse _
    | host own => exact remarks_pure (.inr ⟨ordered, own, rfl, rfl, rfl⟩)

theorem drawn_launch {queue : ObjectId × TaskQueue} {kernel : ObjectId × Kernel}
    {parameters : Option (ObjectId × View)} (extent : Extent)
    (hqueue : session.registry.Names queue.1) (hkernel : session.registry.Names kernel.1)
    (hfound : session.heap.kernel? kernel.1 = some kernel.2)
    (hparameters : ∀ view, parameters = some view →
      session.registry.Names view.1 ∧ session.heap.view? view.1 = some view.2) :
    (Session.launch queue kernel parameters extent).Remarks platform.environment resolved
      (Decision.Drawn session resolved) := by
  refine remarks_weaken (remarks_launch_eq queue kernel parameters extent) fun decision hdecision ↦ ?_
  unfold Decision.Drawn
  rcases hdecision with ⟨_, _, _, creation, heffect, hnoView⟩ | ⟨_, own, _, hown, heffect⟩
  · rw [heffect]
    exact drawn_create hnoView
  · rw [heffect]
    refine ⟨hqueue, ?_, extent, kernel.1, own, parameters, ?_, ?_, rfl, rfl, rfl⟩
    · intro id (hid : id ∈ _ :: _)
      rcases List.mem_cons.1 hid with rfl | hview
      · exact hkernel
      · obtain ⟨view, hsome, rfl⟩ := Option.map_eq_some_iff.1 (Option.mem_toList.1 hview)
        exact (hparameters view hsome).1
    · exact hown ▸ kernel?_eq_some.1 hfound
    · exact fun view hsome ↦ view?_eq_some.1 (hparameters view hsome).2

theorem names_of_parameters {handle : Handle} {parameters : Option (ObjectId × View)}
    (hparameters : session.parameters handle = .ok parameters) :
    ∀ view, parameters = some view →
      session.registry.Names view.1 ∧ session.heap.view? view.1 = some view.2 := by
  unfold Session.parameters at hparameters
  split at hparameters
  · obtain rfl := Except.ok.inj hparameters
    exact fun _ hview ↦ absurd hview (by simp)
  · cases hview : session.view handle with
    | error failure => simp [hview, Except.map] at hparameters
    | ok found =>
      obtain rfl : some found = parameters := by simpa [hview, Except.map] using hparameters
      intro view heq
      obtain rfl := Option.some.inj heq
      exact ⟨names_of_lookup hview, (lookup_eq_ok hview).2⟩

theorem drawn_sync {queue : ObjectId × TaskQueue} (hqueue : session.registry.Names queue.1) :
    (Session.sync queue).Drawn session resolved := by
  obtain ⟨id, queue⟩ := queue
  cases queue with
  | foreign => trivial
  | host => exact hqueue

theorem drawn_barrier (queue : TaskQueue) : (Session.barrier queue).Drawn session resolved := by
  cases queue <;> trivial

end Session

/-! ## Calls and requests -/

open Session Selection

/-- What a boundary call decides draws on what handles name. -/
theorem Call.drawn_decide (hsound : session.Sound []) (call : Call) :
    (call.decide platform session).Remarks platform.environment resolved
      (Decision.Drawn session resolved) := by
  cases call with
  | retain handle | release handle | setHandler handle => exact remarks_pure trivial
  | getDevice family index =>
    exact remarks_found fun family _ ↦ remarks_bind (remarks_device family index) fun _ hmade ↦
      remarks_pure (drawn_create hmade)
  | getDeviceOn context index =>
    exact remarks_found fun found _ ↦
      remarks_bind (remarks_deviceOn found.1 found.2 index) fun _ hmade ↦
        remarks_pure (drawn_create hmade)
  | getDeviceOnNative context native =>
    exact remarks_found fun found _ ↦
      remarks_bind (remarks_deviceOnNative found.1 found.2 native) fun _ hmade ↦
        remarks_pure (drawn_create hmade)
  | deviceCount family =>
    exact remarks_found fun family _ ↦
      remarks_after (remarks_deviceCount family) fun _ ↦ remarks_pure trivial
  | deviceInfo family index null =>
    cases null with
    | true => exact remarks_refuse _
    | false =>
      exact remarks_found fun family _ ↦
        remarks_after (remarks_deviceInfo family index) fun _ ↦ remarks_pure trivial
  | newContext family =>
    exact remarks_found fun family _ ↦ remarks_bind (remarks_context family none) fun _ hmade ↦
      remarks_pure (drawn_create hmade)
  | adoptContext family native =>
    exact remarks_found fun family _ ↦
      remarks_bind (remarks_context family (some native)) fun _ hmade ↦
        remarks_pure (drawn_create hmade)
  | useCount handle | platformNative handle | deviceNative handle | deviceContextNative handle
  | contextNative handle | hostAddress handle | deviceAddress handle | sharedAddress handle
  | viewSize handle | viewKind handle | classify handle _ | futureIsValid handle
  | queueNative handle => exact remarks_found fun _ _ ↦ remarks_pure trivial
  | newView device address size flags =>
    exact remarks_found fun flags _ ↦ remarks_found fun found hfound ↦
      drawn_newDeviceView address size flags hsound (lookup_eq_ok hfound).2
  | newContextView context address size flags =>
    exact remarks_found fun flags _ ↦ remarks_found fun found hfound ↦
      drawn_newContextView address size flags (lookup_eq_ok hfound).2
  | loadModule device path options =>
    exact remarks_found fun path _ ↦ remarks_found fun options _ ↦ remarks_found fun found _ ↦
      drawn_loadModule found.2 path options
  | linkDynamic device modules count =>
    exact remarks_found fun modules _ ↦ remarks_found fun found _ ↦
      drawn_linkDynamic found.2 modules
  | linkStatic device modules count =>
    exact remarks_found fun modules _ ↦ remarks_found fun found _ ↦
      drawn_linkStatic found.2 modules
  | functionAddress module name =>
    exact remarks_found fun _ _ ↦ remarks_found fun _ _ ↦ remarks_found fun _ _ ↦
      remarks_pure trivial
  | newKernel device module name =>
    exact remarks_found fun name _ ↦ remarks_found fun found _ ↦ remarks_found fun module _ ↦
      drawn_newKernel found.2 module name
  | newQueue device => exact remarks_found fun found _ ↦ drawn_newQueue found.1 found.2
  | barrier queue => exact remarks_found fun found _ ↦ remarks_pure (drawn_barrier found.2)
  | copyToDevice queue view =>
    exact remarks_found fun _ hqueue ↦ remarks_found fun _ hview ↦
      drawn_copyToDevice (names_of_lookup hqueue) (names_of_lookup hview)
  | copyToHost queue view =>
    exact remarks_found fun _ hqueue ↦ remarks_found fun _ hview ↦
      drawn_copyToHost (names_of_lookup hqueue) (names_of_lookup hview)
  | copyView queue destination source size =>
    exact remarks_found fun _ hqueue ↦ remarks_found fun _ hdestination ↦
      remarks_found fun _ hsource ↦ drawn_copyView size (names_of_lookup hqueue)
        (names_of_lookup hdestination) (names_of_lookup hsource)
  | launch queue kernel parameters extent =>
    exact remarks_found fun _ hqueue ↦ remarks_found fun _ hkernel ↦
      remarks_found fun _ hparameters ↦ drawn_launch extent (names_of_lookup hqueue)
        (names_of_lookup hkernel) (lookup_eq_ok hkernel).2 (names_of_parameters hparameters)
  | sync queue =>
    exact remarks_found fun _ hqueue ↦ remarks_pure (drawn_sync (names_of_lookup hqueue))
  | futureTime future =>
    exact remarks_ite (remarks_pure trivial) (remarks_found fun _ _ ↦ remarks_pure trivial)

/-- What a request decides draws on what handles name. -/
theorem Request.drawn_decide (hsound : session.Sound []) (request : Request) :
    (request.decide platform session).Remarks platform.environment resolved
      (Decision.Drawn session resolved) := by
  cases request with
  | retain handle | release handle => exact remarks_pure trivial
  | lookup handle kind => exact remarks_found fun _ _ ↦ remarks_pure trivial
  | useCount handle => exact remarks_found fun _ _ ↦ remarks_pure trivial
  | exposeAgain handle =>
    exact remarks_found fun slot hslot ↦
      remarks_pure (Registry.names_of_get? (Registry.get?_of_locate_eq_ok hslot))
  | device family index =>
    exact remarks_bind (remarks_device family index) fun _ hmade ↦
      remarks_pure (drawn_create hmade)
  | context family native =>
    exact remarks_bind (remarks_context family native) fun _ hmade ↦
      remarks_pure (drawn_create hmade)
  | deviceOn context index =>
    exact remarks_found fun found _ ↦
      remarks_bind (remarks_deviceOn found.1 found.2 index) fun _ hmade ↦
        remarks_pure (drawn_create hmade)
  | deviceOnNative context native =>
    exact remarks_found fun found _ ↦
      remarks_bind (remarks_deviceOnNative found.1 found.2 native) fun _ hmade ↦
        remarks_pure (drawn_create hmade)
  | deviceCount family =>
    exact remarks_after (remarks_deviceCount family) fun _ ↦ remarks_pure trivial
  | deviceInfo family index =>
    exact remarks_after (remarks_deviceInfo family index) fun _ ↦ remarks_pure trivial
  | newView owner address size kind hint =>
    exact remarks_found fun found hfound ↦ remarks_found fun flags _ ↦
      drawn_newDeviceView address size flags hsound (lookup_eq_ok hfound).2
  | createContextView owner address size kind hint =>
    exact remarks_found fun found hfound ↦ remarks_found fun flags _ ↦
      drawn_createContextView address size flags (lookup_eq_ok hfound).2
  | loadModule owner path options =>
    exact remarks_found fun found _ ↦ remarks_found fun options _ ↦
      drawn_loadModule found.2 path options
  | functionAddress module name =>
    exact remarks_found fun _ _ ↦ remarks_found fun _ _ ↦ remarks_pure trivial
  | linkStatic owner modules =>
    exact remarks_found fun found _ ↦ remarks_found fun modules _ ↦
      drawn_linkStatic found.2 modules
  | linkDynamic owner modules =>
    exact remarks_found fun found _ ↦ remarks_found fun modules _ ↦
      drawn_linkDynamic found.2 modules
  | newKernel owner module name =>
    exact remarks_found fun found _ ↦ remarks_found fun module _ ↦
      drawn_newKernel found.2 module name
  | launch queue kernel parameters extent =>
    exact remarks_found fun _ hqueue ↦ remarks_found fun _ hkernel ↦
      remarks_found fun _ hparameters ↦ drawn_launch extent (names_of_lookup hqueue)
        (names_of_lookup hkernel) (lookup_eq_ok hkernel).2 (names_of_parameters hparameters)
  | copyView queue destination source size =>
    exact remarks_found fun _ hqueue ↦ remarks_found fun _ hdestination ↦
      remarks_found fun _ hsource ↦ drawn_copyView size (names_of_lookup hqueue)
        (names_of_lookup hdestination) (names_of_lookup hsource)
  | copyToDevice queue view =>
    exact remarks_found fun _ hqueue ↦ remarks_found fun _ hview ↦
      drawn_copyToDevice (names_of_lookup hqueue) (names_of_lookup hview)
  | copyToHost queue view =>
    exact remarks_found fun _ hqueue ↦ remarks_found fun _ hview ↦
      drawn_copyToHost (names_of_lookup hqueue) (names_of_lookup hview)
  | barrier queue => exact remarks_found fun found _ ↦ remarks_pure (drawn_barrier found.2)
  | sync queue =>
    exact remarks_found fun _ hqueue ↦ remarks_pure (drawn_sync (names_of_lookup hqueue))
  | hostDevice index =>
    exact remarks_bind (remarks_newHostDevice index) fun _ hmade ↦
      remarks_pure (drawn_create hmade)
  | queueWithCapacity capacity =>
    exact remarks_after (remarks_newHostDevice 0) fun _ ↦
      remarks_after (remarks_remark _ _) fun _ ↦ remarks_pure trivial
  | symbolModule name symbols => exact remarks_pure trivial
  | offer creation houtside =>
    refine remarks_pure (drawn_create fun view heq ↦ ?_)
    subst heq
    exact absurd houtside (by simp [Creation.isOutside])
  | offerKernel family name module =>
    exact remarks_found fun _ _ ↦ remarks_pure trivial
  | settle future state => exact remarks_found fun _ _ ↦ remarks_pure trivial
  | gpuCount => exact remarks_after (remarks_ofDriver _) fun _ ↦ remarks_pure trivial
  | gpuInfo index => exact remarks_after (remarks_ofDriver _) fun _ ↦ remarks_pure trivial
  | gpuDevice index =>
    exact remarks_after (remarks_newGpuDevice index) fun _ ↦ remarks_pure trivial
  | gpuContext index =>
    exact remarks_after (remarks_newGpuContext index) fun _ ↦ remarks_pure trivial
  | gpuAdopt native =>
    exact remarks_after (remarks_adoptGpuContext native) fun _ ↦ remarks_pure trivial
  | gpuAvailable =>
    unfold Request.decide
    cases platform.driver.count with
    | ok count => exact remarks_pure trivial
    | error interruption => exact remarks_pure trivial

end Offload
