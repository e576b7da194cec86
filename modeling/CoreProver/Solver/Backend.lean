import CoreProver.Diagnostic
import CoreProver.Obligation
import CoreProver.Solver.Answer
import CoreProver.Solver.Engine
import CoreProver.Value

/-!
# Backends

A backend answers obligations, or fails to: it may be missing, not run, or crash. An attempt records
what one backend made of one obligation.
-/

namespace CoreProver

/-- A backend could not be asked. -/
inductive Fault where
  | notFound (engine : Engine) (executable : String)
  | notRun (backend why : String)
  | crashed (backend : String) (crash : Crash)
  | unavailable (backend why : String)
  deriving Repr, DecidableEq

namespace Fault

def message : Fault → String
  | notFound engine executable =>
    engine.name ++ " is not installed (looked for `" ++ executable ++ "`)"
  | notRun backend why => "failed to run " ++ backend ++ ": " ++ why
  | crashed backend crash => backend ++ " panicked: " ++ crash.text
  | unavailable backend why => backend ++ " is unavailable: " ++ why

def diagnostic (f : Fault) : Diagnostic where
  message := f.message
  code := match f with
    | notFound .. => "sprove::backend::not_found"
    | notRun .. => "sprove::backend::io"
    | crashed .. => "sprove::backend::panic"
    | unavailable .. => "sprove::backend::unavailable"
  help := match f with
    | notFound engine _ =>
      some ("install it, or set `path` under [solvers." ++ engine.name ++ "] in sprove.toml")
    | _ => none

end Fault

/-- An answer together with everything that the backend printed. -/
structure Response where
  answer : Answer
  raw : String
  deriving Repr, DecidableEq

/-- What becomes of asking a backend. -/
inductive Consultation where
  | answered (response : Response)
  | faulted (fault : Fault)
  | crashed (crash : Crash)
  deriving Repr, DecidableEq

/-- A decision procedure. -/
structure Backend where
  name : String
  check : Obligation → Consultation

/-- One backend's run on an obligation. The time it took is left out; nothing but reports and the
journal would show it. -/
structure Attempt where
  backend : String
  outcome : Except Fault Response

namespace Attempt

/-- The outcome without its details. -/
def kind (a : Attempt) : ResultKind :=
  match a.outcome with
  | .ok response => response.answer.kind
  | .error _ => .fault

def isAnswered (a : Attempt) : Bool := a.outcome.isOk

def isProved (a : Attempt) : Bool :=
  match a.outcome with
  | .ok response => response.answer.isProved
  | .error _ => false

def summary (a : Attempt) : String :=
  a.backend ++ ": " ++ match a.outcome with
    | .ok response => response.answer.text
    | .error fault => fault.message

theorem isAnswered_of_isProved (a : Attempt) (h : a.isProved = true) : a.isAnswered = true := by
  unfold isProved at h
  unfold isAnswered
  cases ho : a.outcome with
  | ok response => rfl
  | error fault => simp [ho] at h

end Attempt

/-- Ask a backend. A crash is a fault of the backend. -/
def Backend.attempt (b : Backend) (o : Obligation) : Attempt where
  backend := b.name
  outcome := match b.check o with
    | .answered response => .ok response
    | .faulted fault => .error fault
    | .crashed crash => .error (.crashed b.name crash)

end CoreProver
