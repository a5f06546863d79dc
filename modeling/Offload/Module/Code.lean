/-!
# Code of host modules

The code of a module is a loaded library, a table of routines of the host program, or a list of
parts that were linked into one. A name is looked up in a module's own code only; what linked peers
contribute is decided elsewhere.
-/

namespace Offload

/-- Where a routine starts: a routine of the host program under its name, or an exported symbol of
a library file. -/
inductive Entry where
  | host (name : String)
  | library (file symbol : String)
  deriving DecidableEq, Repr

/-- The number that identifies an object for its whole life. -/
abbrev ObjectId := Nat

/-- The code of a host module. -/
inductive Code where
  /-- A loaded file with the symbols it exports. -/
  | library (file : String) (exports : List String)
  /-- Routines of the host program, with distinct names. -/
  | symbols (routines : List (String × Entry))
  /-- Statically linked parts, each with the module it came from. -/
  | composite (parts : List (ObjectId × String × Code))
  deriving Repr

namespace Code

instance : Inhabited Code := ⟨.symbols []⟩

/-- A table of routines in which the last of several equal names counts. -/
def ofSymbols (routines : List (String × Entry)) : Code :=
  .symbols <| routines.foldl
    (fun table routine => table.filter (·.1 != routine.1) ++ [routine]) []

/-- The file or symbol a name asks the loader for: one trailing null character is part of the
convention, any other makes the name unusable, and so does an empty name. -/
def loaderName? (name : String) : Option String :=
  let characters := name.toList
  let bare := if characters.getLast? = some '\x00' then characters.dropLast else characters
  if bare = [] ∨ bare.contains '\x00' then none else some (String.ofList bare)

/-- The entry of a symbol in a library that exports `exports`. -/
def resolveLibrary (file : String) (exports : List String) (name : String) : Option Entry :=
  match loaderName? name with
  | some symbol => if exports.contains symbol then some (.library file symbol) else none
  | none => none

/-- The entry of a name in a table of routines. -/
def resolveSymbols (routines : List (String × Entry)) (name : String) : Option Entry :=
  (routines.find? (·.1 == name)).map (·.2)

mutual

/-- The entry of a name in a module's own code; of several parts the first that defines it. -/
def resolve (name : String) : Code → Option Entry
  | .library file exports => resolveLibrary file exports name
  | .symbols routines => resolveSymbols routines name
  | .composite parts => resolveParts name parts

/-- The entry of a name in the first of several parts that defines it. -/
def resolveParts (name : String) : List (ObjectId × String × Code) → Option Entry
  | [] => none
  | (_, _, code) :: rest =>
    match resolve name code with
    | some entry => some entry
    | none => resolveParts name rest

end

/-- The parts that were linked into one, each with its module, its name and its code. -/
def parts : Code → List (ObjectId × String × Code)
  | .composite parts => parts
  | _ => []

/-- The modules whose code is directly part of this one. -/
def partIds (code : Code) : List ObjectId := code.parts.map (·.1)

/-- The library file a module keeps loaded, if its code is one. -/
def file? : Code → Option String
  | .library file _ => some file
  | _ => none

end Code

/-! ## Dynamic link peers -/

namespace Peers

/-- Adds a peer behind the ones that are still alive, unless it is one of them. -/
def add (alive : ObjectId → Bool) (peers : List ObjectId) (peer : ObjectId) : List ObjectId :=
  let kept := peers.filter alive
  if kept.contains peer then kept else kept ++ [peer]

/-- Adds every module of a link set but the module itself. -/
def link (alive : ObjectId → Bool) (self : ObjectId) (set peers : List ObjectId) :
    List ObjectId :=
  (set.filter (· != self)).foldl (add alive) peers

end Peers

end Offload
