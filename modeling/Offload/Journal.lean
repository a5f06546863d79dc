/-!
# The journal

The runtime notes what it does as events. An event has a level, a sentence, and named fields in
text form.
-/

namespace Offload

/-- The importance of an event. -/
inductive Level where
  | trace
  | debug
  | info
  | warn
  | error
  deriving DecidableEq, Repr, Inhabited

/-- The name of a level in text. -/
def Level.name : Level → String
  | .trace => "TRACE"
  | .debug => "DEBUG"
  | .info => "INFO"
  | .warn => "WARN"
  | .error => "ERROR"

/-- One noted event. -/
structure Event where
  level : Level
  message : String
  fields : List (String × String) := []
  deriving DecidableEq, Repr, Inhabited

/-- The events of a run, oldest first. -/
abbrev Journal := List Event

end Offload
