import Offload.Proofs.Module.Leaves
import Offload.Proofs.Session.Decisions

/-!
# What decisions leave alone

Hardly any operation does more than its name says. Only one call installs an error handler and only
dynamic linking makes modules peers of each other. In particular every new module comes without
peers, whether it is loaded, put together from others, or made of routines of the host program.
-/

namespace Offload

open Deciding

variable {α : Type} {platform : Platform} {session : Session}

/-- A decision that neither installs an error handler nor links modules; a module of the host that it
makes has no peers, and is named after its parts if it has any. -/
def Decision.Plain (decision : Decision) : Prop :=
  match decision.effect with
  | .install _ | .link _ => False
  | .create (.module (.host module)) => module.AsMade
  | _ => True

/-! ## Choosing a back-end -/

namespace Selection

/-- The computation makes an object, but no module. -/
def MakesNoModule (body : Deciding Creation) : Prop :=
  body.Ensures fun creation ↦ ∀ module, creation ≠ .module module

theorem makesNoModule_newHostDevice (index : Nat) : MakesNoModule (newHostDevice index) :=
  ensures_after _ fun _ ↦ ensures_after _ fun _ ↦ ensures_pure fun _ ↦ nofun

theorem makesNoModule_hostDevice (index : Nat) : MakesNoModule (hostDevice platform index) :=
  ensures_ite (makesNoModule_newHostDevice index) (ensures_refuse _)

theorem makesNoModule_hostContext (native : Option Nat) :
    MakesNoModule (hostContext platform native) := by
  refine ensures_ite ?_ (ensures_refuse _)
  cases native <;> exact ensures_after _ fun _ ↦ ensures_pure fun _ ↦ nofun

theorem makesNoModule_map (change : α → Creation)
    (hchange : ∀ made module, change made ≠ .module module)
    (body : Deciding α) : MakesNoModule (change <$> body) :=
  ensures_map fun _ made _ ↦ hchange made

theorem makesNoModule_gpuDevice (index : Nat) : MakesNoModule (gpuDevice platform index) :=
  ensures_ite (ensures_guardDriver (makesNoModule_map .device (fun _ _ ↦ nofun) _))
    (ensures_refuse _)

theorem makesNoModule_gpuContext (native : Option Nat) :
    MakesNoModule (gpuContext platform native) := by
  refine ensures_ite (ensures_guardDriver ?_) (ensures_refuse _)
  cases native with
  | some native => exact makesNoModule_map .context (fun _ _ ↦ nofun) _
  | none => exact ensures_after _ fun _ ↦ makesNoModule_map .context (fun _ _ ↦ nofun) _

theorem makesNoModule_device (family : Family) (index : Nat) :
    MakesNoModule (device platform family index) := by
  cases family with
  | cpu => exact makesNoModule_hostDevice index
  | gpu => exact makesNoModule_gpuDevice index
  | auto => exact ensures_preferGpu (makesNoModule_gpuDevice index) (makesNoModule_hostDevice 0)

theorem makesNoModule_context (family : Family) (native : Option Nat) :
    MakesNoModule (context platform family native) := by
  cases family with
  | cpu => exact makesNoModule_hostContext native
  | gpu => exact makesNoModule_gpuContext native
  | auto =>
    exact ensures_preferGpu (makesNoModule_gpuContext native) (makesNoModule_hostContext native)

theorem makesNoModule_deviceOn (id : ObjectId) (parent : Context) (index : Nat) :
    MakesNoModule (deviceOn platform id parent index) := by
  refine ensures_ite ?_ (ensures_refuse _)
  cases parent with
  | host => exact ensures_after _ fun _ ↦ ensures_pure fun _ ↦ nofun
  | foreign => exact ensures_refuse _

theorem makesNoModule_deviceOnNative (id : ObjectId) (parent : Context) (native : Nat) :
    MakesNoModule (deviceOnNative platform id parent native) :=
  ensures_ite (ensures_after _ fun _ ↦ makesNoModule_deviceOn id parent 0)
    (makesNoModule_deviceOn id parent 0)

end Selection

open Selection

theorem Decision.plain_create {creation : Creation} (hcreation : ∀ module, creation ≠ .module module) :
    (Decision.create creation).Plain := by
  cases creation with
  | module module => exact absurd rfl (hcreation module)
  | _ => trivial

theorem plain_make {body : Deciding Creation} (hbody : MakesNoModule body) :
    (do return .create (← body) : Deciding Decision).Ensures Decision.Plain :=
  ensures_bind hbody fun _ hcreation ↦ ensures_pure (Decision.plain_create hcreation)

theorem Decision.plain_offer {creation : Creation} (houtside : creation.isOutside = true) :
    (Decision.create creation).Plain := by
  rcases creation with _ | _ | _ | _ | (module | _) | _ | _ | _ | _
  case module.host => exact absurd houtside (by simp [Creation.isOutside])
  all_goals trivial

namespace Session

/-! ## Operations on objects -/

theorem plain_createContextView (id : ObjectId) (context : Context) (address size : Nat)
    (flags : ViewFlags) :
    (session.createContextView platform id context address size flags).Ensures Decision.Plain := by
  cases context with
  | host => exact ensures_after _ fun _ ↦ ensures_pure trivial
  | foreign => exact ensures_pure trivial

theorem plain_newDeviceView (device : Device) (address size : Nat) (flags : ViewFlags) :
    (session.newDeviceView platform device address size flags).Ensures Decision.Plain := by
  refine ensures_ite (ensures_refuse _) ?_
  cases device with
  | host => exact ensures_after _ fun _ ↦ ensures_pure trivial
  | foreign => exact ensures_pure trivial

theorem plain_loadModule (device : Device) (path : String) (options : ModuleOptions) :
    (Session.loadModule platform device path options).Ensures Decision.Plain := by
  cases device with
  | foreign => exact ensures_pure trivial
  | host =>
    refine ensures_ite (ensures_refuse _) (ensures_after _ fun _ ↦ ?_)
    cases hcode : platform.library? (ModulePath.file path) with
    | none => exact ensures_refuse _
    | some code =>
      obtain ⟨name, exports, rfl⟩ := library?_eq_some hcode
      exact ensures_pure (HostModule.asMade_of_isLeaf rfl fun _ ↦ nofun)

theorem asMade_composite {parts : List (ObjectId × HostModule)} (hparts : parts ≠ []) :
    (composite parts).AsMade := by
  refine ⟨rfl, fun copies hcopies ↦ ?_⟩
  obtain rfl := Code.composite.inj hcopies
  refine ⟨by simpa using hparts, ?_⟩
  rw [List.map_map]
  rfl

theorem plain_linkStatic (device : Device) (modules : List (ObjectId × CodeModule)) :
    (Session.linkStatic device modules).Ensures Decision.Plain := by
  cases device with
  | foreign => exact ensures_pure trivial
  | host =>
    exact ensures_found fun parts hparts ↦ ensures_after _ fun _ ↦
      ensures_pure (asMade_composite (requireHostModules_iff.1 hparts).1)

theorem plain_newKernel (device : Device) (module : ObjectId × CodeModule) (name : String) :
    (session.newKernel device module name).Ensures Decision.Plain := by
  cases device with
  | foreign => exact ensures_pure trivial
  | host =>
    refine ensures_after _ fun found ↦ ?_
    cases hresolve : session.heap.resolveOwner? found.1 found.2 name with
    | none =>
      simp only [hresolve]
      exact ensures_refuse _
    | some resolution =>
      simp only [hresolve]
      exact ensures_pure trivial

theorem plain_newQueue (id : ObjectId) (device : Device) :
    (Session.newQueue platform id device).Ensures Decision.Plain := by
  cases device with
  | foreign => exact ensures_pure trivial
  | host => exact ensures_after _ fun _ ↦ ensures_after _ fun _ ↦ ensures_pure trivial

/-- The hooks of a queue submit jobs or record calls. -/
theorem plain_copy (queue : ObjectId × TaskQueue) (destination source : ObjectId × View)
    (size : Nat) :
    ((hooks queue).copyToDevice source).Ensures Decision.Plain ∧
      ((hooks queue).copyToHost source).Ensures Decision.Plain ∧
      ((hooks queue).copy destination source size).Ensures Decision.Plain := by
  obtain ⟨id, queue⟩ := queue
  cases queue <;> exact ⟨ensures_pure trivial, ensures_pure trivial, ensures_pure trivial⟩

theorem plain_copyToDevice (queue : ObjectId × TaskQueue) (view : ObjectId × View) :
    (Session.copyToDevice queue view).Ensures Decision.Plain := by
  refine ensures_found fun _ hpass ↦ ?_
  rw [QueueHooks.transferToDevice_eq_ok hpass]
  exact (plain_copy queue view view 0).1

theorem plain_copyToHost (queue : ObjectId × TaskQueue) (view : ObjectId × View) :
    (Session.copyToHost queue view).Ensures Decision.Plain := by
  refine ensures_found fun _ hpass ↦ ?_
  rw [QueueHooks.transferToHost_eq_ok hpass]
  exact (plain_copy queue view view 0).2.1

theorem plain_copyView (queue : ObjectId × TaskQueue) (destination source : ObjectId × View)
    (size : Nat) : (Session.copyView queue destination source size).Ensures Decision.Plain := by
  refine ensures_found fun _ hpass ↦ ?_
  rw [QueueHooks.copyView_eq_ok hpass]
  by_cases hsize : size = 0
  · rw [if_pos hsize]
    exact ensures_pure trivial
  · rw [if_neg hsize]
    exact (plain_copy queue destination source size).2.2

theorem plain_launch (queue : ObjectId × TaskQueue) (kernel : ObjectId × Kernel)
    (parameters : Option (ObjectId × View)) (extent : Extent) :
    (Session.launch queue kernel parameters extent).Ensures Decision.Plain := by
  refine ensures_found fun _ hpass ↦ ?_
  rw [QueueHooks.launchKernel_eq_ok hpass]
  obtain ⟨id, queue⟩ := queue
  obtain ⟨held, kernel⟩ := kernel
  cases queue with
  | foreign => exact ensures_pure trivial
  | host =>
    cases kernel with
    | foreign => exact ensures_refuse _
    | host => exact ensures_pure trivial

theorem plain_sync (queue : ObjectId × TaskQueue) : (Session.sync queue).Plain := by
  obtain ⟨id, queue⟩ := queue
  cases queue <;> trivial

theorem plain_barrier (queue : TaskQueue) : (Session.barrier queue).Plain := by
  cases queue <;> trivial

end Session

open Session

/-- Calls that neither install a handler nor link dynamically decide on nothing of the kind. -/
theorem Call.plain_decide {call : Call} (hinstall : ∀ handler, call ≠ .setHandler handler)
    (hlink : ∀ device modules count, call ≠ .linkDynamic device modules count) :
    (call.decide platform session).Ensures Decision.Plain := by
  cases call with
  | setHandler handler => exact absurd rfl (hinstall handler)
  | retain handle | release handle => exact ensures_pure trivial
  | getDevice family index => exact ensures_after _ fun _ ↦ plain_make (makesNoModule_device _ _)
  | getDeviceOn context index =>
    exact ensures_after _ fun _ ↦ plain_make (makesNoModule_deviceOn _ _ _)
  | getDeviceOnNative context native =>
    exact ensures_after _ fun _ ↦ plain_make (makesNoModule_deviceOnNative _ _ _)
  | newContext family | adoptContext family native =>
    exact ensures_after _ fun _ ↦ plain_make (makesNoModule_context _ _)
  | deviceCount family =>
    exact ensures_after _ fun _ ↦ ensures_after _ fun _ ↦ ensures_pure trivial
  | deviceInfo family index null =>
    refine ensures_ite (ensures_refuse _) ?_
    exact ensures_after _ fun _ ↦ ensures_after _ fun _ ↦ ensures_pure trivial
  | useCount handle | platformNative handle | deviceNative handle | deviceContextNative handle
  | contextNative handle | hostAddress handle | deviceAddress handle | sharedAddress handle
  | viewSize handle | viewKind handle | classify handle _ | futureIsValid handle
  | queueNative handle => exact ensures_after _ fun _ ↦ ensures_pure trivial
  | newView device address size flags =>
    exact ensures_after _ fun _ ↦ ensures_after _ fun _ ↦ plain_newDeviceView _ _ _ _
  | newContextView context address size flags =>
    exact ensures_after _ fun _ ↦ ensures_after _ fun _ ↦
      ensures_ite (plain_createContextView _ _ _ _ _) (ensures_refuse _)
  | loadModule device path options =>
    exact ensures_after _ fun _ ↦ ensures_after _ fun _ ↦ ensures_after _ fun _ ↦
      plain_loadModule _ _ _
  | linkDynamic device modules count => exact absurd rfl (hlink device modules count)
  | linkStatic device modules count =>
    exact ensures_after _ fun _ ↦ ensures_after _ fun _ ↦ plain_linkStatic _ _
  | functionAddress module name =>
    exact ensures_after _ fun _ ↦ ensures_after _ fun _ ↦ ensures_after _ fun _ ↦
      ensures_pure trivial
  | newKernel device module name =>
    exact ensures_after _ fun _ ↦ ensures_after _ fun _ ↦ ensures_after _ fun _ ↦
      plain_newKernel _ _ _
  | newQueue device => exact ensures_after _ fun _ ↦ plain_newQueue _ _
  | barrier queue => exact ensures_after _ fun _ ↦ ensures_pure (plain_barrier _)
  | copyToDevice queue view =>
    exact ensures_after _ fun _ ↦ ensures_after _ fun _ ↦ plain_copyToDevice _ _
  | copyToHost queue view =>
    exact ensures_after _ fun _ ↦ ensures_after _ fun _ ↦ plain_copyToHost _ _
  | copyView queue destination source size =>
    exact ensures_after _ fun _ ↦ ensures_after _ fun _ ↦ ensures_after _ fun _ ↦
      plain_copyView _ _ _ _
  | launch queue kernel parameters extent =>
    exact ensures_after _ fun _ ↦ ensures_after _ fun _ ↦ ensures_after _ fun _ ↦
      plain_launch _ _ _ _
  | sync queue => exact ensures_after _ fun _ ↦ ensures_pure (plain_sync _)
  | futureTime future =>
    exact ensures_ite (ensures_pure trivial) (ensures_after _ fun _ ↦ ensures_pure trivial)

/-- Requests that do not link dynamically install no handler and link nothing. -/
theorem Request.plain_decide {request : Request}
    (hlink : ∀ owner modules, request ≠ .linkDynamic owner modules) :
    (request.decide platform session).Ensures Decision.Plain := by
  cases request with
  | retain handle | release handle => exact ensures_pure trivial
  | symbolModule name symbols =>
    exact ensures_pure (HostModule.asMade_of_isLeaf rfl fun _ ↦ nofun)
  | offer creation houtside => exact ensures_pure (Decision.plain_offer houtside)
  | lookup handle kind | useCount handle | exposeAgain handle | deviceCount family
  | deviceInfo family index | offerKernel family name module | settle future state | gpuCount
  | gpuInfo index | gpuDevice index | gpuContext index | gpuAdopt native =>
    exact ensures_after _ fun _ ↦ ensures_pure trivial
  | device family index => exact plain_make (makesNoModule_device _ _)
  | context family native => exact plain_make (makesNoModule_context _ _)
  | hostDevice index => exact plain_make (makesNoModule_newHostDevice index)
  | deviceOn context index =>
    exact ensures_after _ fun _ ↦ plain_make (makesNoModule_deviceOn _ _ _)
  | deviceOnNative context native =>
    exact ensures_after _ fun _ ↦ plain_make (makesNoModule_deviceOnNative _ _ _)
  | functionAddress module name | queueWithCapacity capacity =>
    exact ensures_after _ fun _ ↦ ensures_after _ fun _ ↦ ensures_pure trivial
  | newView owner address size kind hint =>
    exact ensures_after _ fun _ ↦ ensures_after _ fun _ ↦ plain_newDeviceView _ _ _ _
  | createContextView owner address size kind hint =>
    exact ensures_after _ fun _ ↦ ensures_after _ fun _ ↦ plain_createContextView _ _ _ _ _
  | loadModule owner path options =>
    exact ensures_after _ fun _ ↦ ensures_after _ fun _ ↦ plain_loadModule _ _ _
  | linkStatic owner modules =>
    exact ensures_after _ fun _ ↦ ensures_after _ fun _ ↦ plain_linkStatic _ _
  | linkDynamic owner modules => exact absurd rfl (hlink owner modules)
  | newKernel owner module name =>
    exact ensures_after _ fun _ ↦ ensures_after _ fun _ ↦ plain_newKernel _ _ _
  | launch queue kernel parameters extent =>
    exact ensures_after _ fun _ ↦ ensures_after _ fun _ ↦ ensures_after _ fun _ ↦
      plain_launch _ _ _ _
  | copyView queue destination source size =>
    exact ensures_after _ fun _ ↦ ensures_after _ fun _ ↦ ensures_after _ fun _ ↦
      plain_copyView _ _ _ _
  | copyToDevice queue view =>
    exact ensures_after _ fun _ ↦ ensures_after _ fun _ ↦ plain_copyToDevice _ _
  | copyToHost queue view =>
    exact ensures_after _ fun _ ↦ ensures_after _ fun _ ↦ plain_copyToHost _ _
  | barrier queue => exact ensures_after _ fun _ ↦ ensures_pure (plain_barrier _)
  | sync queue => exact ensures_after _ fun _ ↦ ensures_pure (plain_sync _)
  | gpuAvailable =>
    unfold Request.decide
    cases platform.driver.count <;> exact ensures_pure trivial

end Offload
