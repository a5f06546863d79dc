import Offload.Failure
import Offload.Journal
import Offload.Extent
import Offload.Text.Blank
import Offload.Text.Quoted
import Offload.Text.Utf8

/-!
# Settings

The process-wide settings of the runtime, and how the environment gives them. They are resolved
once: explicitly, or from the environment when they are first needed.
-/

namespace Offload

/-- The settings of the runtime. -/
structure Settings where
  /-- The device of new contexts of the graphics family. -/
  gpuDevice : Nat := 0
  /-- How many unfinished operations a queue accepts. -/
  maxPending : Nat := 1024
  /-- The alignment of memory the runtime allocates. -/
  hostAlignment : Nat := 64
  deriving DecidableEq, Repr, Inhabited

/-- Whether a number is a power of two. -/
def isPowerOfTwo (number : Nat) : Bool :=
  number != 0 && number == 1 <<< number.log2

namespace Settings

/-- Refuses settings no queue or allocation can work with; of two faults the capacity is named. -/
def validate (settings : Settings) : Except Failure Unit :=
  if settings.maxPending = 0 then
    .error (.invalidArgument "max_pending_ops" "must be greater than 0")
  else if !isPowerOfTwo settings.hostAlignment then
    .error (.invalidArgument "host_alignment"
      s!"{settings.hostAlignment} is not a power of two")
  else .ok ()

end Settings

/-! ## The environment -/

/-- The variables of the environment that hold settings. -/
inductive Variable where
  | gpuDevice
  | maxPending
  | hostAlignment
  deriving DecidableEq, Repr

namespace Variable

/-- The name of a variable. -/
def name : Variable → String
  | gpuDevice => "HCRT_GPU_DEVICE"
  | maxPending => "HCRT_MAX_PENDING_OPS"
  | hostAlignment => "HCRT_HOST_ALIGNMENT"

/-- The least number a variable's field cannot hold. -/
def limit : Variable → Nat
  | gpuDevice => 1 <<< 32
  | maxPending => wordLimit
  | hostAlignment => wordLimit

end Variable

/-- The octets of each variable that is set. -/
structure Environment where
  value? : Variable → Option (List UInt8) := fun _ => none

instance : Inhabited Environment := ⟨{}⟩

/-- The number that decimal digits write, read on from `value`. -/
def digitsValue? (value : Nat) : List Char → Option Nat
  | [] => some value
  | digit :: rest =>
    if '0' ≤ digit ∧ digit ≤ '9' then
      digitsValue? (10 * value + (digit.toNat - '0'.toNat)) rest
    else none

/-- The number below `limit` that a text writes: digits with an optional plus sign, blanks around
them. -/
def readNumber? (limit : Nat) (text : String) : Option Nat :=
  let digits :=
    match trimBlanks text.toList with
    | '+' :: digits => digits
    | digits => digits
  if digits = [] then none
  else (digitsValue? 0 digits).filter (· < limit)

namespace Environment

/-- The text of a variable. A value that is not text counts as absent. -/
def text? (environment : Environment) (key : Variable) : Option String :=
  match environment.value? key with
  | none => none
  | some octets => (Utf8.decode octets).toOption

/-- The number a variable gives, with a warning when it is set to something else. -/
def number? (environment : Environment) (key : Variable) : Option Nat × Journal :=
  match environment.text? key with
  | none => (none, [])
  | some text =>
    match readNumber? key.limit text with
    | some number => (some number, [])
    | none =>
      (none, [⟨.warn, s!"Ignoring {key.name}={Quoted.quote text}: not a valid value", []⟩])

/-- The settings an environment gives. Numbers that cannot be read are replaced by the defaults one
by one; if what results is not valid, all of it is. -/
def settings (environment : Environment) : Settings × Journal :=
  let standard : Settings := {}
  let (gpuDevice, first) := environment.number? .gpuDevice
  let (maxPending, second) := environment.number? .maxPending
  let (hostAlignment, third) := environment.number? .hostAlignment
  let settings : Settings :=
    ⟨gpuDevice.getD standard.gpuDevice, maxPending.getD standard.maxPending,
      hostAlignment.getD standard.hostAlignment⟩
  let warnings := first ++ second ++ third
  match settings.validate with
  | .ok () => (settings, warnings)
  | .error failure =>
    (standard, warnings ++
      [⟨.warn, s!"Ignoring invalid HCRT environment configuration: {failure.message}", []⟩])

end Environment

end Offload
