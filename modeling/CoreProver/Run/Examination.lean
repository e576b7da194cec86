import CoreProver.Eval.Basic
import CoreProver.Run.Stage
import CoreProver.Solver.Selection
import CoreProver.Solver.Verdict

/-!
# Examinations

The examination of a request has one of nine endings. The ending decides the final stage, the note
in the report, and whether the run is aborted. A proof that fails aborts the run unless the
examination is lenient.
-/

namespace CoreProver

/-- Why a run is aborted. -/
inductive RunError where
  | coverage (binding : String) (error : EvalError)
  | unprovable (binding : String) (location : Location)
  | proofFailed (binding : String) (location : Location) (result : String)
  | configuration (binding : String) (location : Location) (why : String)

namespace RunError

def message : RunError → String
  | coverage binding error => "cannot analyse `" ++ binding ++ "`: " ++ error.message
  | unprovable binding location =>
    location.text ++ ": the type of `" ++ binding ++ "` is not provable"
  | proofFailed binding location result =>
    location.text ++ ": proof of `" ++ binding ++ "` failed: " ++ result
  | configuration binding location why =>
    location.text ++ ": cannot set up solvers for `" ++ binding ++ "`: " ++ why

def diagnostic (e : RunError) : Diagnostic where
  message := e.message
  code := match e with
    | coverage .. => "sprove::driver::coverage"
    | unprovable .. => "sprove::driver::unprovable"
    | proofFailed .. => "sprove::driver::proof_failed"
    | configuration .. => "sprove::driver::configuration"
  help := match e with
    | coverage _ error => error.diagnostic.help
    | proofFailed .. => some ("add WarnIfFails to the annotation (or pass --warn-if-fails) to " ++
        "continue past failed proofs")
    | unprovable .. | configuration .. => none

end RunError

/-- How the examination of a request ended. -/
inductive Ending where
  | skipped (reason : String)
  /-- The type of the binding was rejected. -/
  | unprovable
  /-- The name stands for an unknown constant from now on. -/
  | bound (kind : Kind)
  | uncovered (e : EvalError)
  /-- The evaluation crashed. -/
  | crashed (c : Crash)
  /-- There is no division to check. -/
  | trivial (o : Obligation)
  | unselected (o : Obligation) (selectors : List Selector) (e : SelectionError)
  /-- The selectors stand for no backends. -/
  | unasked (o : Obligation) (selectors : List Selector)
  | judged (o : Obligation) (selectors : List Selector) (verdict : Verdict)

namespace Ending

/-- What is said about a proof that failed. -/
def failure? : Ending → Option String
  | crashed c => some ("evaluation panicked: " ++ c.text)
  | judged _ _ verdict => if verdict.isProved then none else some verdict.adopted.summary
  | _ => none

/-- The selectors that were turned into backends, or could not be. -/
def selectors : Ending → List Selector
  | unselected _ selectors _ | unasked _ selectors | judged _ selectors _ => selectors
  | _ => []

def verdict? : Ending → Option Verdict
  | judged _ _ verdict => some verdict
  | _ => none

/-- The obligation that the body of the binding came down to. -/
def obligation? : Ending → Option Obligation
  | trivial o | unselected o _ _ | unasked o _ | judged o _ _ => some o
  | _ => none

end Ending

/-- What was asked, how, and how it ended. -/
structure Examination where
  binding : Binding
  mode : Mode
  /-- Show the output of the backends. -/
  verbose : Bool
  /-- Show the obligation. -/
  debug : Bool
  /-- A failed proof is only a warning. -/
  lenient : Bool
  /-- The method calls of the evaluation. -/
  calls : List Expr
  ending : Ending

namespace Examination

/-- The stage of a failed proof. -/
def failedStage (x : Examination) : Stage :=
  if x.lenient then .failedRecoverable else .failedFatal

/-- How far the examination came in the end. -/
def stage (x : Examination) : Stage :=
  match x.ending with
  | .skipped _ => .notStarted
  | .bound _ | .trivial _ => .succeeded
  | .judged _ _ verdict => if verdict.isProved then .succeeded else x.failedStage
  | .crashed _ => x.failedStage
  | .unprovable | .uncovered _ | .unselected .. | .unasked .. => .failedFatal

/-- The note in the report. -/
def note? (x : Examination) : Option String :=
  match x.ending with
  | .skipped reason => some ("skipped: " ++ reason)
  | .trivial _ => some "no side conditions"
  | ending => ending.failure?

/-- The error that aborts the run, if this examination does. -/
def abort? (x : Examination) : Option RunError :=
  let b := x.binding
  match x.ending with
  | .unprovable => some (.unprovable b.name b.location)
  | .uncovered e => some (.coverage b.name e)
  | .unselected _ _ e => some (.configuration b.name b.location e.message)
  | .unasked .. => some (.configuration b.name b.location noBackends.message)
  | ending =>
    if x.lenient then none else ending.failure?.map (.proofFailed b.name b.location)

/-- Whether the request was met. -/
def succeeded (x : Examination) : Bool := x.stage = .succeeded

end Examination

end CoreProver
