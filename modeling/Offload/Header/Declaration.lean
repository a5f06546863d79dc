/-!
# Declarations of a C header

The few forms of declarations that a header of opaque handles and plain calls needs, and how they
are written.
-/

namespace Offload.Header

/-- A type of C. -/
inductive CType where
  | void
  | bool
  | char
  | int64
  | uint32
  | uint64
  | size
  | named (name : String)
  | pointer (target : CType)
  /-- A pointer through which nothing is written. -/
  | readOnly (target : CType)
  deriving DecidableEq, Repr

/-- The spelling of a type. -/
def CType.text : CType → String
  | .void => "void"
  | .bool => "bool"
  | .char => "char"
  | .int64 => "int64_t"
  | .uint32 => "uint32_t"
  | .uint64 => "uint64_t"
  | .size => "size_t"
  | .named name => name
  | .pointer target => target.text ++ "*"
  | .readOnly target => "const " ++ target.text ++ "*"

/-- A typed name: a parameter or the member of a structure. -/
structure Declarator where
  type : CType
  name : String
  deriving DecidableEq, Repr

/-- The spelling of a typed name. -/
def Declarator.text (declarator : Declarator) : String :=
  declarator.type.text ++ " " ++ declarator.name

/-- Whether the members of a type are written on one line or on a line each. -/
inductive Layout where
  | line
  | stacked
  deriving DecidableEq, Repr

/-- What stands before each member. -/
def Layout.before : Layout → String
  | line => " "
  | stacked => "\n    "

/-- What stands behind the last member. -/
def Layout.behind : Layout → String
  | line => " "
  | stacked => "\n"

/-- A type definition with members. -/
def typeDefinition (layout : Layout) (keyword separator name : String) (members : List String) :
    String :=
  "typedef " ++ keyword ++ " \x7b" ++ layout.before ++
    (separator ++ layout.before).intercalate members ++
    layout.behind ++ "\x7d " ++ name ++ ";"

/-- The definition of an enumeration, with the number of each member. -/
def enumeration (layout : Layout) (name : String) (members : List (String × Nat)) : String :=
  typeDefinition layout "enum" "," name
    (members.map fun member => member.1 ++ "=" ++ toString member.2)

/-- The definition of a structure. -/
def structureType (layout : Layout) (name : String) (members : List Declarator) : String :=
  typeDefinition layout "struct" "" name (members.map (·.text ++ ";"))

/-- The parameters of a function, between brackets. -/
def parameterList (parameters : List Declarator) : String :=
  "(" ++ ", ".intercalate (parameters.map (·.text)) ++ ")"

/-- The definition of a pointer to functions without a result. -/
def callbackType (name : String) (parameters : List Declarator) : String :=
  "typedef void (*" ++ name ++ ")" ++ parameterList parameters ++ ";"

/-- A function. -/
structure Prototype where
  result : CType
  name : String
  parameters : List Declarator
  deriving DecidableEq, Repr

/-- The declaration of a function. -/
def Prototype.text (prototype : Prototype) : String :=
  prototype.result.text ++ " " ++ prototype.name ++ parameterList prototype.parameters ++ ";"

end Offload.Header
