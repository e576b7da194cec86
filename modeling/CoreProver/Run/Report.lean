import CoreProver.Json.Literal
import CoreProver.Json.Record
import CoreProver.Run.Session

/-!
# Reports

What is told about a run: a line with the counts, and a document with a finding for each request
that was examined.
-/

namespace CoreProver

/-- What a report says about one request. -/
structure Finding where
  name : String
  location : Location
  mode : Mode
  stage : Stage
  solvers : List Selector
  verdict : Option Verdict
  /-- Whether everything that the backends printed is reported. -/
  verbose : Bool
  note : Option String

def Examination.finding (x : Examination) : Finding where
  name := x.binding.name
  location := x.binding.location
  mode := x.mode
  stage := x.stage
  solvers := x.ending.selectors
  verdict := x.ending.verdict?
  verbose := x.verbose
  note := x.note?

namespace Run

/-- The error that aborted a run. -/
def aborted? (run : Run) : Option RunError := run.findSome? Examination.abort?

/-- Whether a run went through without a fatal failure. -/
def isOk (run : Run) : Bool :=
  run.aborted?.isNone && run.all fun x => x.stage ≠ .failedFatal

/-- The number of examinations that ended in a stage. -/
def count (run : Run) (stage : Stage) : Nat := run.countP fun x => x.stage = stage

def failures (run : Run) : Nat := run.countP fun x => x.stage.isFailure

/-- The line with the counts. -/
def tally (run : Run) : String :=
  Nat.repr run.length ++ " annotation(s): " ++ Nat.repr (run.count .succeeded) ++ " succeeded, " ++
    Nat.repr run.failures ++ " failed, " ++ Nat.repr (run.count .notStarted) ++ " skipped" ++
    (if run.aborted?.isSome then " (run aborted)" else "")

end Run

/-- An attempt in a report, without its member `elapsed_ms`, the time it took. -/
def Attempt.toJson (verbose : Bool) (a : Attempt) : Json :=
  let raw := match a.outcome with
    | .ok response => if verbose then some response.raw else none
    | .error _ => none
  .ofMembers ([("backend", .ofText a.backend), ("result", .ofText a.kind.word),
    ("detail", .ofText a.summary)] ++ Json.optionalText "raw" raw)

def Finding.toJson (f : Finding) : Json :=
  let attempts := (f.verdict.map Verdict.attempts).getD []
  .ofMembers ([("name", .ofText f.name), ("location", .ofText f.location.text),
      ("mode", .ofText f.mode.text), ("state", .ofText f.stage.text),
      ("solvers", .array (f.solvers.map fun s => .ofText s.text))] ++
    Json.optionalText "adopted" (f.verdict.map fun v => v.adopted.backend) ++
    Json.optionalText "result" (f.verdict.map fun v => v.adopted.kind.word) ++
    Json.optionalText "note" f.note ++
    [("attempts", .array (attempts.map (Attempt.toJson f.verbose)))])

/-- The report on a run of the program in the file `input`. -/
def Run.report (input : String) (moduleName : Option String) (run : Run) : Json :=
  .ofMembers ([("schema", .ofText "sprove.report.v1"), ("input", .ofText input)] ++
    Json.optionalText "module" moduleName ++
    [("ok", .bool run.isOk)] ++
    Json.optionalText "error" (run.aborted?.map RunError.message) ++
    [("bindings", .array (run.map fun x => x.finding.toJson))])

end CoreProver
