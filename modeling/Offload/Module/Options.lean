import Offload.Failure

/-!
# Loading options of modules

The options a caller gives with a module file, and the flavour of code the file holds.
-/

namespace Offload

/-- The flavour of a module's code. -/
inductive ModuleKind where
  /-- Code over vectors of instances. -/
  | vector
  /-- Code over one instance at a time. -/
  | scalar
  deriving DecidableEq, Repr, Inhabited

namespace ModuleKind

/-- The number of a flavour at the boundary. -/
def code : ModuleKind → Nat
  | vector => 0
  | scalar => 1

/-- Reads a boundary number. -/
def ofCode? : Nat → Option ModuleKind
  | 0 => some vector
  | 1 => some scalar
  | _ => none

/-- The capitalised name used in descriptions. -/
def title : ModuleKind → String
  | vector => "Vector"
  | scalar => "Scalar"

@[simp]
theorem ofCode?_code (kind : ModuleKind) : ofCode? kind.code = some kind := by
  cases kind <;> rfl

end ModuleKind

/-- The options a module is loaded with. A stack size of zero leaves the choice to the back-end. -/
structure ModuleOptions where
  stackSize : Nat := 0
  libraryCompilation : Bool := false
  kind : ModuleKind := .vector
  debug : Bool := false
  optimization : Nat := 0
  deriving DecidableEq, Repr, Inhabited

/-- The options as a boundary caller writes them, with the flavour still a number. -/
structure RawModuleOptions where
  stackSize : Nat := 0
  libraryCompilation : Bool := false
  kind : Nat := 0
  debug : Bool := false
  optimization : Nat := 0
  deriving DecidableEq, Repr, Inhabited

/-- Reads the options of a boundary caller; only the flavour can be refused. -/
def RawModuleOptions.decode (raw : RawModuleOptions) : Except Failure ModuleOptions :=
  match ModuleKind.ofCode? raw.kind with
  | none => .error (.invalidArgument "module_type" s!"unknown module type {raw.kind}")
  | some kind =>
    .ok ⟨raw.stackSize, raw.libraryCompilation, kind, raw.debug, raw.optimization⟩

namespace ModuleOptions

/-- The options in words, as the journal records them. -/
def describe (options : ModuleOptions) : String :=
  s!"ModuleOptions \x7b stack_size: {options.stackSize}, " ++
    s!"library_compilation: {options.libraryCompilation}, " ++
    s!"module_type: {options.kind.title}, debug: {options.debug}, " ++
    s!"opt_level: {options.optimization} \x7d"

end ModuleOptions

end Offload
