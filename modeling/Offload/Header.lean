import Offload.Header.Declaration
import Offload.Module.Options
import Offload.Registry
import Offload.View.Flags

/-!
# The boundary's header

The header that declares the boundary to clients. The numbers in its enumerations are those the
boundary reads.
-/

namespace Offload.Header

/-! ## Types -/

/-- Handles of a kind. -/
def handleType (kind : Kind) : CType := .named ("Hcrt" ++ kind.name)

/-- Handles of any kind. -/
def anyHandle : CType := .named "HcrtGenericHandle"

/-- A pointer the boundary only hands on. -/
def address : CType := .pointer .void

/-- Text that ends with a null. -/
def text : CType := .readOnly .char

/-- The kinds of handles, in the order of their declarations. -/
def kinds : List Kind :=
  [.device, .context, .memoryView, .module, .kernel, .taskQueue, .future]

/-- The declarations of the handle types; each is an opaque pointer. -/
def handleTypes : List String :=
  (anyHandle :: kinds.map handleType).map fun type =>
    "typedef " ++ address.text ++ " " ++ type.text ++ ";"

/-- The name of a sharing hint. -/
def hintName : SharingHint → String
  | .none => "NONE"
  | .hostDeviceReadWrite => "HOST_DEVICE_READ_WRITE"
  | .hostWriteDeviceRead => "HOST_WRITE_DEVICE_READ"
  | .hostReadDeviceWrite => "HOST_READ_DEVICE_WRITE"

/-- The name of an allocation kind. -/
def allocationName : AllocationKind → String
  | .shared => "SHARED"
  | .device => "DEVICE"
  | .unknown => "UNKNOWN"

/-- The name of a module kind. -/
def moduleName : ModuleKind → String
  | .vector => "VECTOR"
  | .scalar => "SCALAR"

/-- The name of a failure kind. -/
def failureName : FailureKind → String
  | .none => "NO_ERROR"
  | .unknown => "UNKNOWN_ERROR"
  | .invalidArgument => "INVALID_ARGUMENT"
  | .invalidOperation => "INVALID_OPERATION"
  | .notSupported => "NOT_SUPPORTED"
  | .deviceFailure => "DEVICE_FAILURE"
  | .outOfMemory => "OUT_OF_MEMORY"

/-- Numbered members whose names begin alike. -/
def members {α : Type} (stem : String) (name : α → String) (code : α → Nat) (values : List α) :
    List (String × Nat) :=
  values.map fun value => (stem ++ name value, code value)

/-- The definitions of the enumerations. -/
def enumerations : List String :=
  [enumeration .line "HcrtDeviceType"
      (members "HCRT_DEVICE_TYPE_" Family.name Family.code [.cpu, .gpu, .auto]),
    enumeration .line "HcrtAllocationType"
      (members "HCRT_ALLOC_TYPE_" allocationName AllocationKind.code
        [.shared, .device, .unknown]),
    enumeration .stacked "HcrtSharedMemoryHint"
      (members "HCRT_SM_HINT_" hintName SharingHint.code
        [.none, .hostDeviceReadWrite, .hostWriteDeviceRead, .hostReadDeviceWrite]),
    enumeration .line "HcrtModuleType"
      (members "HCRT_MODULE_TYPE_" moduleName ModuleKind.code [.vector, .scalar]),
    enumeration .stacked "HcrtError"
      (members "HCRT_" failureName FailureKind.code
        [.none, .unknown, .invalidArgument, .invalidOperation, .notSupported, .deviceFailure,
          .outOfMemory])]

/-- The definitions of the structures. -/
def structures : List String :=
  [structureType .line "HcrtDeviceInfo" [⟨.uint32, "vendor_id"⟩, ⟨.uint32, "device_id"⟩],
    structureType .line "HcrtNewMemoryViewFlags"
      [⟨.uint32, "alloc_type"⟩, ⟨.uint32, "sm_hint"⟩],
    structureType .stacked "HcrtModuleOptions"
      [⟨.uint32, "stack_size"⟩, ⟨.bool, "library_compilation"⟩, ⟨.uint32, "module_type"⟩,
        ⟨.bool, "debug"⟩, ⟨.uint32, "opt_level"⟩]]

/-! ## Functions -/

/-- A function of the boundary. -/
def function (result : CType) (name : String) (parameters : List Declarator) : String :=
  (Prototype.mk result ("hcrt_" ++ name) parameters).text

/-- The parameter for a handle of a kind. -/
def handle (kind : Kind) (name : String) : Declarator := ⟨handleType kind, name⟩

/-- Handles and the error callback. -/
def handleFunctions : List String :=
  [function .void "retain" [⟨anyHandle, "h"⟩],
    function .void "release" [⟨anyHandle, "h"⟩],
    function .int64 "use_count" [⟨anyHandle, "h"⟩],
    function .void "set_error_func" [⟨.named "HcrtErrorFunc", "func"⟩]]

/-- Devices. -/
def deviceFunctions : List String :=
  let device := handleType .device
  let family : Declarator := ⟨.uint32, "device_type"⟩
  let index : Declarator := ⟨.uint32, "index"⟩
  [function device "get_device" [family, index],
    function device "get_device_from_context" [handle .context "context", index],
    function device "get_device_from_native_handle"
      [handle .context "context", ⟨address, "native_device"⟩],
    function .uint32 "get_device_count" [family],
    function .void "get_device_info" [family, index, ⟨.pointer (.named "HcrtDeviceInfo"), "info"⟩],
    function address "platform_native_handle" [handle .device "device"],
    function address "device_native_handle" [handle .device "device"],
    function address "device_context_native_handle" [handle .device "device"]]

/-- Contexts. -/
def contextFunctions : List String :=
  let family : Declarator := ⟨.uint32, "device_type"⟩
  [function (handleType .context) "new_context" [family],
    function (handleType .context) "get_context_from_native_handle"
      [family, ⟨address, "native"⟩],
    function address "context_native_handle" [handle .context "context"]]

/-- Memory views. -/
def viewFunctions : List String :=
  let request : List Declarator :=
    [⟨address, "app_memory"⟩, ⟨.size, "size"⟩,
      ⟨.readOnly (.named "HcrtNewMemoryViewFlags"), "flags"⟩]
  let view := handle .memoryView "view"
  [function (handleType .memoryView) "new_memory_view" (handle .device "device" :: request),
    function (handleType .memoryView) "new_memory_view_for_context"
      (handle .context "context" :: request),
    function address "host_ptr" [view],
    function address "device_ptr" [view],
    function address "shared_ptr" [view],
    function .size "size" [view],
    function (.named "HcrtAllocationType") "get_memory_view_alloc_type" [view],
    function (.named "HcrtAllocationType") "get_memory_alloc_type"
      [handle .device "device", ⟨address, "memory"⟩]]

/-- Modules and kernels. -/
def moduleFunctions : List String :=
  let device := handle .device "device"
  let list : List Declarator :=
    [⟨.readOnly (handleType .module), "modules"⟩, ⟨.uint32, "count"⟩]
  let name : Declarator := ⟨text, "name"⟩
  [function (handleType .module) "load_module"
      [device, ⟨text, "path"⟩, ⟨.named "HcrtModuleOptions", "options"⟩],
    function .void "dynamic_link_modules" (device :: list),
    function (handleType .module) "static_link_modules" (device :: list),
    function address "function_ptr" [handle .module "module", name],
    function (handleType .kernel) "new_kernel" [device, handle .module "module", name]]

/-- Queues and futures. -/
def queueFunctions : List String :=
  let queue := handle .taskQueue "queue"
  let view := handle .memoryView "view"
  let sizes : List Declarator := [⟨.size, "dim0"⟩, ⟨.size, "dim1"⟩, ⟨.size, "dim2"⟩]
  let launch (dimensions : Nat) :=
    function (handleType .future) ("launch_" ++ toString dimensions ++ "d")
      (queue :: handle .kernel "kernel" :: handle .memoryView "params" :: sizes.take dimensions)
  [function (handleType .taskQueue) "new_task_queue" [handle .device "device"],
    function .void "device_barrier" [queue],
    function .void "copy_to_device" [queue, view],
    function .void "copy_to_host" [queue, view],
    function .void "copy_memory_view"
      [queue, handle .memoryView "dst", handle .memoryView "src", ⟨.size, "size"⟩],
    launch 1,
    launch 2,
    launch 3,
    function .void "sync" [queue],
    function .uint64 "future_get_time_ns" [handle .future "future"],
    function .bool "future_is_valid" [handle .future "future"],
    function address "task_queue_native_handle" [queue]]

/-! ## The whole -/

/-- The lines before the declarations. -/
def opening : List String :=
  ["#ifndef HCRT_H", "#define HCRT_H", "#include <stdbool.h>", "#include <stddef.h>",
    "#include <stdint.h>", "#ifdef __cplusplus", "extern \"C\" \x7b", "#endif"]

/-- The lines behind the declarations. -/
def closing : List String :=
  ["#ifdef __cplusplus", "\x7d // extern \"C\"", "#endif", "#endif"]

/-- The sections of the header, with an empty line between any two. -/
def sections : List (List String) :=
  [opening, handleTypes, enumerations, structures,
    [callbackType "HcrtErrorFunc" [⟨.named "HcrtError", "kind"⟩, ⟨text, "message"⟩]],
    handleFunctions, deviceFunctions, contextFunctions, viewFunctions, moduleFunctions,
    queueFunctions, closing]

/-- The header. -/
def render : String :=
  "\n\n".intercalate (sections.map ("\n".intercalate ·)) ++ "\n"

end Offload.Header
