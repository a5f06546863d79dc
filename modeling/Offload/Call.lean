import Offload.Session.Operations
import Offload.Text.Utf8

/-!
# Boundary calls

The calls of the boundary take raw values: handles that may name anything, numbers that may stand
for no family or kind, octets that may be no text, and pointers that may be null. A call decodes
and resolves its arguments in a fixed order, and the first that is refused decides its failure.
-/

namespace Offload

/-- Text at the boundary: octets up to a null, or a null pointer. -/
abbrev RawText := Option (List UInt8)

/-- A call of the boundary with its raw arguments. -/
inductive Call where
  | retain (handle : Handle)
  | release (handle : Handle)
  | useCount (handle : Handle)
  | setHandler (handler : Option Handler)
  | getDevice (family index : Nat)
  | getDeviceOn (context : Handle) (index : Nat)
  | getDeviceOnNative (context : Handle) (native : Nat)
  | deviceCount (family : Nat)
  /-- The storage for the answer may be null. -/
  | deviceInfo (family index : Nat) (null : Bool)
  | platformNative (device : Handle)
  | deviceNative (device : Handle)
  | deviceContextNative (device : Handle)
  | newContext (family : Nat)
  | adoptContext (family native : Nat)
  | contextNative (context : Handle)
  | newView (device : Handle) (address size : Nat) (flags : Option (Nat × Nat))
  | newContextView (context : Handle) (address size : Nat) (flags : Option (Nat × Nat))
  | hostAddress (view : Handle)
  | deviceAddress (view : Handle)
  | sharedAddress (view : Handle)
  | viewSize (view : Handle)
  | viewKind (view : Handle)
  | classify (device : Handle) (address : Nat)
  | loadModule (device : Handle) (path : RawText) (options : RawModuleOptions)
  | linkDynamic (device : Handle) (modules : Option (List Handle)) (count : Nat)
  | linkStatic (device : Handle) (modules : Option (List Handle)) (count : Nat)
  | functionAddress (module : Handle) (name : RawText)
  | newKernel (device module : Handle) (name : RawText)
  | newQueue (device : Handle)
  | barrier (queue : Handle)
  | copyToDevice (queue view : Handle)
  | copyToHost (queue view : Handle)
  | copyView (queue destination source : Handle) (size : Nat)
  | launch (queue kernel parameters : Handle) (extent : Extent)
  | sync (queue : Handle)
  | futureTime (future : Handle)
  | futureIsValid (future : Handle)
  | queueNative (queue : Handle)
  deriving DecidableEq, Repr

namespace Call

/-- The reply of a call that failed. -/
def sentinel : Call → Reply
  | retain _ | release _ | setHandler _ | deviceInfo _ _ _ | linkDynamic _ _ _ | barrier _
  | copyToDevice _ _ | copyToHost _ _ | copyView _ _ _ _ | sync _ => .nothing
  | useCount _ | deviceCount _ | viewSize _ | platformNative _ | deviceNative _
  | deviceContextNative _ | contextNative _ | queueNative _ => .number 0
  | getDevice _ _ | getDeviceOn _ _ | getDeviceOnNative _ _ | newContext _ | adoptContext _ _
  | newView _ _ _ _ | newContextView _ _ _ _ | loadModule _ _ _ | linkStatic _ _ _
  | newKernel _ _ _ | newQueue _ | launch _ _ _ _ => .handle 0
  | hostAddress _ | deviceAddress _ | sharedAddress _ => .address 0
  | viewKind _ | classify _ _ => .kind .unknown
  | functionAddress _ _ => .code none
  | futureTime _ => .elapsed none
  | futureIsValid _ => .flag false

/-- Reads the number of a family. -/
def decodeFamily (code : Nat) : Except Failure Family :=
  match Family.ofCode? code with
  | some family => .ok family
  | none => .error (.unknownFamily code)

/-- Reads text; `what` names the argument. -/
def decodeText (text : RawText) (what : String) : Except Failure String :=
  match text with
  | none => .error (.nullPointer what)
  | some octets =>
    match Utf8.decode (Utf8.untilNull octets) with
    | .ok text => .ok text
    | .error defect => .error (.invalidArgument what defect.message)

/-- Reads the flags of a view. -/
def decodeFlags (flags : Option (Nat × Nat)) : Except Failure ViewFlags :=
  match flags with
  | none => .error (.nullPointer "flags")
  | some (kind, hint) => ViewFlags.ofCodes kind hint

/-- Resolves the first `count` handles of a list of modules. -/
def decodeModules (session : Session) (modules : Option (List Handle)) (count : Nat) :
    Except Failure (List (ObjectId × CodeModule)) :=
  if count = 0 then .error .emptyModuleList
  else
    match modules with
    | none => .error (.nullPointer "modules")
    | some handles => (handles.take count).mapM session.module

/-- The greatest use count the boundary can express. -/
def useCountLimit : Nat := (1 <<< 63) - 1

/-! ## Deciding -/

/-- Answers something about a view. -/
def askView (session : Session) (view : Handle) (ask : ViewReport → Reply) :
    Deciding Decision := do
  let (_, view) ← session.view view
  pure (.answer (ask view.report))

/-- Answers something about a device. -/
def askDevice (session : Session) (device : Handle) (ask : Device → Reply) :
    Deciding Decision := do
  let (_, device) ← session.device device
  pure (.answer (ask device))

/-- What a call decides to do in a session. -/
def decide (platform : Platform) (session : Session) : Call → Deciding Decision
  | retain handle => pure { effect := .retain handle }
  | release handle => pure { effect := .release handle }
  | useCount handle => do
    let count ← session.registry.useCount handle
    pure (.answer (.number (min count useCountLimit)))
  | setHandler handler => pure { effect := .install handler }
  | getDevice family index => do
    let family ← decodeFamily family
    return .create (← Selection.device platform family index)
  | getDeviceOn context index => do
    let (id, context) ← session.context context
    return .create (← Selection.deviceOn platform id context index)
  | getDeviceOnNative context native => do
    let (id, context) ← session.context context
    return .create (← Selection.deviceOnNative platform id context native)
  | deviceCount family => do
    let family ← decodeFamily family
    return .answer (.number (← Selection.deviceCount platform family))
  | deviceInfo family index null => do
    if null then Deciding.refuse (.nullPointer "info")
    else
      let family ← decodeFamily family
      return .answer (.info (← Selection.deviceInfo platform family index))
  | platformNative device => askDevice session device (.number ·.platformNative)
  | deviceNative device => askDevice session device (.number ·.native)
  | deviceContextNative device => askDevice session device (.number ·.contextNative)
  | newContext family => do
    let family ← decodeFamily family
    return .create (← Selection.context platform family none)
  | adoptContext family native => do
    let family ← decodeFamily family
    return .create (← Selection.context platform family (some native))
  | contextNative context => do
    let (_, context) ← session.context context
    pure (.answer (.number context.native))
  | newView device address size flags => do
    let flags ← decodeFlags flags
    let (_, device) ← session.device device
    session.newDeviceView platform device address size flags
  | newContextView context address size flags => do
    let flags ← decodeFlags flags
    let (id, context) ← session.context context
    session.newContextView platform id context address size flags
  | hostAddress view => askView session view (.address ·.hostAddress)
  | deviceAddress view => askView session view (.address ·.deviceAddress)
  | sharedAddress view => askView session view (.address ·.deviceAddress)
  | viewSize view => askView session view (.number ·.size)
  | viewKind view => askView session view (.kind ·.kind)
  | classify device address => do
    let (_, device) ← session.device device
    pure (.answer (.kind (session.classify device address)))
  | loadModule device path options => do
    let path ← decodeText path "path"
    let options ← options.decode
    let (_, device) ← session.device device
    Session.loadModule platform device path options
  | linkDynamic device modules count => do
    let modules ← decodeModules session modules count
    let (_, device) ← session.device device
    Session.linkDynamic device modules
  | linkStatic device modules count => do
    let modules ← decodeModules session modules count
    let (_, device) ← session.device device
    Session.linkStatic device modules
  | functionAddress module name => do
    let name ← decodeText name "name"
    let (_, module) ← session.module module
    return .answer (.code (← session.functionAddress module name))
  | newKernel device module name => do
    let name ← decodeText name "name"
    let (_, device) ← session.device device
    let module ← session.module module
    session.newKernel device module name
  | newQueue device => do
    let (id, device) ← session.device device
    Session.newQueue platform id device
  | barrier queue => do
    let (_, queue) ← session.queue queue
    pure (Session.barrier queue)
  | copyToDevice queue view => do
    let queue ← session.queue queue
    let view ← session.view view
    Session.copyToDevice queue view
  | copyToHost queue view => do
    let queue ← session.queue queue
    let view ← session.view view
    Session.copyToHost queue view
  | copyView queue destination source size => do
    let queue ← session.queue queue
    let destination ← session.view destination
    let source ← session.view source
    Session.copyView queue destination source size
  | launch queue kernel parameters extent => do
    let queue ← session.queue queue
    let kernel ← session.kernel kernel
    let parameters ← session.parameters parameters
    Session.launch queue kernel parameters extent
  | sync queue => do
    let queue ← session.queue queue
    pure (Session.sync queue)
  | futureTime future => do
    if future = 0 then pure (.answer (.elapsed none))
    else
      let (_, future) ← session.future future
      pure (.answer (.elapsed future.elapsed?))
  | futureIsValid future => do
    let (_, future) ← session.future future
    pure (.answer (.flag future.isValid))
  | queueNative queue => do
    let (_, queue) ← session.queue queue
    pure (.answer (.number queue.native))

/-- Decides and commits a call. -/
def enter (platform : Platform) (session : Session) (call : Call) : Session × Progressed :=
  session.perform (call.decide platform session)

end Call

end Offload
