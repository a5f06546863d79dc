import Offload.Object
import Offload.Settings

/-!
# The platform

What the runtime finds around it and cannot change: which back-ends its build contains, the
environment, the compute driver, the module files of the loader, and the code behind entries.

Most operations first decide what to do. Deciding may resolve the settings and note events, and may
be interrupted; it changes nothing else.
-/

namespace Offload

/-- The compute driver of the graphics family. Any of its calls may fail or panic, and what it makes
is its own: it knows no object of the host. -/
structure Driver where
  count : Except Interruption Nat
  info : Nat → Except Interruption DeviceInfo
  device : Nat → Except Interruption Device
  context : Nat → Except Interruption Context
  adopt : Nat → Except Interruption Context
  device_foreign : ∀ index made, device index = .ok made → made.isForeign = true
  context_foreign : ∀ index made, context index = .ok made → made.isForeign = true
  adopt_foreign : ∀ native made, adopt native = .ok made → made.isForeign = true

/-- A driver whose library is missing: every call panics. -/
def Driver.missing : Driver :=
  let gone := .panic (some "the driver library is missing")
  { count := .error gone
    info := fun _ => .error gone
    device := fun _ => .error gone
    context := fun _ => .error gone
    adopt := fun _ => .error gone
    device_foreign := by intro _ _ made; cases made
    context_foreign := by intro _ _ made; cases made
    adopt_foreign := by intro _ _ made; cases made }

/-- The surroundings of the runtime. -/
structure Platform where
  /-- Whether the host back-end is part of the build. -/
  hasHost : Bool := true
  /-- Whether the graphics back-end is part of the build. -/
  hasGpu : Bool := false
  environment : Environment := {}
  driver : Driver := .missing
  /-- The symbols of a module file, if the loader finds the file. -/
  exports? : String → Option (List String) := fun _ => none
  /-- The code behind an entry. -/
  routine : Entry → Routine := fun _ _ host => .returned host

/-- Whether the back-end of an explicit family is part of the build. -/
def Platform.enables (platform : Platform) : Family → Bool
  | .cpu => platform.hasHost
  | .gpu => platform.hasGpu
  | .auto => false

/-- The code of a library file, if the loader finds the file. -/
def Platform.library? (platform : Platform) (file : String) : Option Code := do
  let name ← Code.loaderName? file
  let exports ← platform.exports? name
  some (.library name exports)

/-! ## Deciding -/

/-- The settings, once resolved, and the events noted so far. -/
structure Ambient where
  settings : Option Settings := none
  journal : Journal := []
  deriving Repr, Inhabited

/-- A decision: it may resolve settings, note events and be interrupted. -/
abbrev Deciding := ExceptT Interruption (StateM Ambient)

instance : MonadLift (Except Failure) Deciding where
  monadLift outcome := ExceptT.mk (pure (outcome.mapError .failure))

namespace Ambient

/-- Notes events. -/
def note (ambient : Ambient) (events : Journal) : Ambient :=
  { ambient with journal := ambient.journal ++ events }

/-- The settings, resolved from the environment if nothing has resolved them before. -/
def resolve (ambient : Ambient) (environment : Environment) : Settings × Ambient :=
  match ambient.settings with
  | some settings => (settings, ambient)
  | none =>
    let (settings, warnings) := environment.settings
    (settings, { ambient.note warnings with settings := some settings })

/-- Installs settings, if they are valid and nothing has resolved them before. -/
def install (ambient : Ambient) (settings : Settings) : Except Failure Ambient := do
  settings.validate
  match ambient.settings with
  | some _ =>
    .error (.typed .invalidOperation "Runtime configuration already initialized")
  | none => .ok { ambient with settings := some settings }

end Ambient

namespace Deciding

variable {α : Type}

/-- Notes an event. -/
def remark (message : String) (fields : List (String × String) := []) : Deciding Unit :=
  modify (·.note [⟨.debug, message, fields⟩])

/-- Ends with a failure. -/
def refuse (failure : Failure) : Deciding α := throw (.failure failure)

/-- The settings of the process. -/
def settings (platform : Platform) : Deciding Settings :=
  modifyGet (·.resolve platform.environment)

/-- Hands over the outcome of a driver call. -/
def ofDriver (outcome : Except Interruption α) : Deciding α := ExceptT.mk (pure outcome)

/-- Runs a body that calls the driver; a panic in it becomes a failure. -/
def guardDriver (body : Deciding α) : Deciding α :=
  tryCatch body fun interruption =>
    match interruption with
    | .failure failure => refuse failure
    | .panic text =>
      refuse (.backendUnavailable .gpu (text.getD "driver initialization panicked"))

end Deciding

end Offload
