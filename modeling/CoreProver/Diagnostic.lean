/-!
# Diagnostics

What users get to see of an error: its words, a code to look it up by, and sometimes advice.
-/

namespace CoreProver

/-- An error as users see it. -/
structure Diagnostic where
  message : String
  code : String
  help : Option String
  deriving Repr, DecidableEq

end CoreProver
