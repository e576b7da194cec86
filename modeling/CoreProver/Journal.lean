/-!
# Journal

The messages that a run leaves behind, most of them for users who ask for details.
-/

namespace CoreProver

/-- The importance of a message. -/
inductive Level where
  | error
  | warn
  | info
  | debug
  | trace
  deriving Repr, DecidableEq

def Level.text : Level → String
  | .error => "ERROR"
  | .warn => "WARN"
  | .info => "INFO"
  | .debug => "DEBUG"
  | .trace => "TRACE"

/-- A message with named details. -/
structure Entry where
  level : Level
  message : String
  fields : List (String × String)
  deriving Repr, DecidableEq

/-- A message for everyone. -/
def Entry.info (message : String) : Entry := ⟨.info, message, []⟩

end CoreProver
