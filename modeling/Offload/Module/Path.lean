/-!
# Paths of module files

A module is named by a path. A bare name stands for the shared library of that name, `lib` before
it and `.so` behind it; a path with a directory or an extension is the file itself.

Whether a name is bare is decided on the components of the path. Empty segments are none, and
neither is a `.` segment, unless it is the first of a relative path; a leading `/` is one.
-/

namespace Offload

/-- A component of a path. -/
inductive PathComponent where
  | root
  | current
  | parent
  | name (text : List Char)
  deriving DecidableEq, Repr

namespace ModulePath

/-- The texts between the slashes of a path. -/
def segments : List Char → List (List Char)
  | [] => [[]]
  | character :: rest =>
    if character = '/' then [] :: segments rest
    else
      match segments rest with
      | [] => [[character]]
      | first :: others => (character :: first) :: others

/-- The component a segment stands for behind the first one. -/
def componentOf? (segment : List Char) : Option PathComponent :=
  if segment = [] ∨ segment = ['.'] then none
  else if segment = ['.', '.'] then some .parent
  else some (.name segment)

/-- The components of a path. -/
def components (path : List Char) : List PathComponent :=
  match path, segments path with
  | '/' :: _, texts => .root :: texts.filterMap componentOf?
  | _, ['.'] :: texts => .current :: texts.filterMap componentOf?
  | _, texts => texts.filterMap componentOf?

/-- Whether a file name has an extension: a dot that is not its first character. -/
def hasExtension (name : List Char) : Bool :=
  name.tail.contains '.'

/-- Whether a path is a bare name: a single component without an extension. -/
def isBare (path : List Char) : Bool :=
  match components path with
  | [.name name] => !hasExtension name
  | [_] => true
  | _ => false

/-- The file that a path names. -/
def file (path : String) : String :=
  if isBare path.toList then "lib" ++ path ++ ".so" else path

end ModulePath

end Offload
