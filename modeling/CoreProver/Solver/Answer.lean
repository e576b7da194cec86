/-!
# Answers of solvers

A goal is proved exactly when its negation is unsatisfiable. Everything else a solver can say is not
a proof.
-/

namespace CoreProver

/-- The outcome of asking a solver, without its details. -/
inductive ResultKind where
  | proved
  | disproved
  | unknown
  | error
  | timeout
  /-- The solver could not be asked. -/
  | fault
  deriving Repr, DecidableEq

namespace ResultKind

/-- The word for an outcome in reports. -/
def word : ResultKind → String
  | proved => "proved"
  | disproved => "disproved"
  | unknown => "unknown"
  | error => "error"
  | timeout => "timeout"
  | fault => "fault"

/-- The word for an outcome in the journal. -/
def title : ResultKind → String
  | proved => "Proved"
  | disproved => "Disproved"
  | unknown => "Unknown"
  | error => "Error"
  | timeout => "Timeout"
  | fault => "Fault"

end ResultKind

/-- What a solver says about a goal. -/
inductive Answer where
  | proved
  /-- The goal is false, in the model if the solver gave one. -/
  | disproved (model : Option String)
  | unknown (reason : Option String)
  | error (message : String)
  | timeout
  deriving Repr, DecidableEq

namespace Answer

def kind : Answer → ResultKind
  | proved => .proved
  | disproved _ => .disproved
  | unknown _ => .unknown
  | error _ => .error
  | timeout => .timeout

/-- Only a proof is a success. -/
def isProved : Answer → Bool
  | proved => true
  | _ => false

def text : Answer → String
  | proved => "Q.E.D."
  | disproved (some model) => "Falsifiable. Counter-example:\n" ++ model
  | disproved none => "Falsifiable."
  | unknown (some reason) => "Unknown: " ++ reason
  | unknown none => "Unknown."
  | error message => "Solver error: " ++ message
  | timeout => "Timeout."

@[simp] theorem isProved_iff (a : Answer) : a.isProved = true ↔ a = proved := by
  cases a <;> simp [isProved]

end Answer

end CoreProver
