import Offload.Platform

/-!
# Choosing a back-end

Devices and contexts are made for a family. An explicit family names its back-end. The open choice
tries the graphics back-end and takes the host wherever that does not work out; in a build without
the host it is the same as asking for the graphics back-end.
-/

namespace Offload

/-- An object that is to be made. -/
inductive Creation where
  | context (context : Context)
  | device (device : Device)
  /-- A host device with a context of its own. -/
  | deviceWithContext (index : Nat)
  | view (view : View)
  | module (module : CodeModule)
  | kernel (kernel : Kernel)
  | queue (queue : TaskQueue)
  /-- A host queue with a device and a context of its own. -/
  | queueWithDevice (capacity : Nat)
  | future (future : Future)
  deriving Repr

/-- Whether an object is made outside the runtime: it is foreign, or the outcome of a foreign
launch, and refers to no object of the runtime. -/
def Creation.isOutside : Creation → Bool
  | context (.foreign _ _ _) | device (.foreign _ _ _ _) | view (.foreign _ _ _ _ _)
  | module (.foreign _ _ _) | queue (.foreign _ _) | future _ => true
  | _ => false

namespace Selection

open Deciding

/-! ## The host back-end -/

/-- Refuses an index the host has no device for. -/
def checkHostIndex (index : Nat) : Deciding Unit :=
  if hostDeviceCount ≤ index then refuse (.indexOutOfRange .cpu index hostDeviceCount)
  else remark "Creating CPU device" [("index", toString index)]

/-- A host device with a context of its own. -/
def newHostDevice (index : Nat) : Deciding Creation := do
  remark "Creating CPU context"
  checkHostIndex index
  pure (.deviceWithContext index)

/-- A host device, in a build that has the host. -/
def hostDevice (platform : Platform) (index : Nat) : Deciding Creation :=
  if platform.hasHost then newHostDevice index else refuse (.backendNotEnabled .cpu)

/-- A host context; a native handle is only noted. -/
def hostContext (platform : Platform) (native : Option Nat) : Deciding Creation :=
  if platform.hasHost then
    match native with
    | none => do
      remark "Creating CPU context"
      pure (.context (.host false {}))
    | some native => do
      remark "Adopting CPU context (native handle ignored)" [("native", toString native)]
      pure (.context (.host true {}))
  else refuse (.backendNotEnabled .cpu)

/-! ## The graphics back-end -/

/-- A new context of the driver on a device. -/
def newGpuContext (platform : Platform) (index : Nat) : Deciding Context := do
  remark "Creating CUDA context" [("ordinal", toString index)]
  ofDriver (platform.driver.context index)

/-- A context of the driver for a native handle. -/
def adoptGpuContext (platform : Platform) (native : Nat) : Deciding Context :=
  if native = 0 then refuse (.nullPointer "native context")
  else ofDriver (platform.driver.adopt native)

/-- A device of the driver, on a context of its own. -/
def newGpuDevice (platform : Platform) (index : Nat) : Deciding Device := do
  let count ← ofDriver platform.driver.count
  if count ≤ index then refuse (.indexOutOfRange .gpu index count)
  else
    remark "Creating CUDA context" [("ordinal", toString index)]
    ofDriver (platform.driver.device index)

/-- A graphics device, in a build that has the back-end. -/
def gpuDevice (platform : Platform) (index : Nat) : Deciding Creation :=
  if platform.hasGpu then guardDriver (.device <$> newGpuDevice platform index)
  else refuse (.backendNotEnabled .gpu)

/-- A graphics context, in a build that has the back-end: on the device the settings name, or for
a native handle. -/
def gpuContext (platform : Platform) (native : Option Nat) : Deciding Creation :=
  if platform.hasGpu then
    guardDriver <|
      match native with
      | some native => .context <$> adoptGpuContext platform native
      | none => do
        let settings ← settings platform
        .context <$> newGpuContext platform settings.gpuDevice
  else refuse (.backendNotEnabled .gpu)

/-! ## The open choice -/

/-- Tries the graphics back-end before the host. A build without it never enters it, and a build
without the host has nothing to fall back to. -/
def preferGpu {α : Type} (platform : Platform) (what : String) (gpu host : Deciding α) :
    Deciding α :=
  if !platform.hasHost then guardDriver gpu
  else if !platform.hasGpu then host
  else
    tryCatch (guardDriver gpu) fun interruption => do
      remark "GPU unavailable, falling back to CPU"
        [("what", Quoted.quote what), ("error", interruption.message)]
      host

/-- The device of a family at an index. Left open, the index selects a graphics device and the
host device is the first. -/
def device (platform : Platform) (family : Family) (index : Nat) : Deciding Creation :=
  match family with
  | .cpu => hostDevice platform index
  | .gpu => gpuDevice platform index
  | .auto => preferGpu platform "device" (gpuDevice platform index) (hostDevice platform 0)

/-- A context of a family: the runtime's own, or for a native handle. -/
def context (platform : Platform) (family : Family) (native : Option Nat) : Deciding Creation :=
  match family with
  | .cpu => hostContext platform native
  | .gpu => gpuContext platform native
  | .auto => preferGpu platform "context" (gpuContext platform native) (hostContext platform native)

/-- A device on a context. Only the runtime's own contexts carry its devices. -/
def deviceOn (platform : Platform) (id : ObjectId) (context : Context) (index : Nat) :
    Deciding Creation :=
  if platform.enables context.family then
    match context with
    | .host _ _ => do
      checkHostIndex index
      pure (.device (.host index id))
    | .foreign family _ _ => refuse (.familyMismatch family family)
  else refuse (.backendNotEnabled context.family)

/-- A device on a context for a native device handle, which the host ignores. -/
def deviceOnNative (platform : Platform) (id : ObjectId) (context : Context) (native : Nat) :
    Deciding Creation :=
  if context.family = .cpu ∧ platform.hasHost then do
    remark "CPU device from native handle (handle ignored)" [("native_device", toString native)]
    deviceOn platform id context 0
  else deviceOn platform id context 0

/-! ## Enumeration -/

/-- The number of devices of an explicit family. -/
def deviceCount (platform : Platform) (family : Family) : Deciding Nat :=
  if family = .auto then refuse .familyRequired
  else if !platform.enables family then refuse (.backendNotEnabled family)
  else
    match family with
    | .gpu => guardDriver (ofDriver platform.driver.count)
    | _ => pure hostDeviceCount

/-- The vendor and device numbers of a device of an explicit family. -/
def deviceInfo (platform : Platform) (family : Family) (index : Nat) : Deciding DeviceInfo := do
  let count ← deviceCount platform family
  if count ≤ index then refuse (.indexOutOfRange family index count)
  else
    match family with
    | .gpu => guardDriver (ofDriver (platform.driver.info index))
    | _ => pure {}

end Selection

end Offload
