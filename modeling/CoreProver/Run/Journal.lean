import CoreProver.Journal
import CoreProver.Run.Examination
import CoreProver.Text.Blank

/-!
# The journal of an examination

Every change of stage, every method call, what the backends printed, and the lines that users read.
-/

namespace CoreProver

/-- What a backend printed, or why it did not. -/
def Attempt.entry (a : Attempt) : Entry :=
  match a.outcome with
  | .ok response => ⟨.debug, "raw solver output:\n" ++ response.raw,
      [("backend", a.backend), ("result", response.answer.kind.title)]⟩
  | .error fault => ⟨.debug, "backend fault: " ++ fault.message, [("backend", a.backend)]⟩

/-- The output of a backend for users who ask for it. -/
def Attempt.output? (a : Attempt) : Option Entry :=
  match a.outcome with
  | .ok response =>
    let raw := String.ofList (Text.trimEnd response.raw.toList)
    some (.info (a.backend ++ " output:\n" ++ raw))
  | .error _ => none

namespace Examination

def line (x : Examination) (text : String) : String :=
  "[" ++ x.binding.location.text ++ "] " ++ x.binding.name ++ ": " ++ text

/-- A change of stage. -/
def enter (x : Examination) (source target : Stage) : Entry :=
  ⟨.debug, "state transition",
    [("binding", x.binding.name), ("from", source.text), ("to", target.text)]⟩

def callEntry (e : Expr) : Entry := ⟨.trace, "resolved dictionary call", [("call", e.text)]⟩

/-- The entries up to the end of the evaluation. -/
def evaluationEntries (x : Examination) : List Entry :=
  [x.enter .notStarted .typeChecked, x.enter .typeChecked .evaluating] ++ x.calls.map callEntry

/-- The entries between the evaluation and the selection of backends. -/
def solvingEntries (x : Examination) (o : Obligation) : List Entry :=
  (if x.debug then
    [.info (x.line ("obligation over " ++ o.kindsText ++ "\n" ++ o.goal.text)),
      .info (o.script false)]
  else []) ++ [x.enter .evaluating .solving]

/-- The line before the backends are asked. -/
def provingEntry (x : Examination) (selectors : List Selector) : Entry :=
  .info (x.line ("proving with " ++ ", ".intercalate (selectors.map Selector.text)))

/-- The entries of a failed proof. -/
def failureEntries (x : Examination) (source : Stage) (result : String) : List Entry :=
  (if x.lenient then [⟨.warn, x.line ("Failed. (" ++ result ++ ")"), []⟩] else []) ++
    [x.enter source x.failedStage]

def verdictEntries (x : Examination) (v : Verdict) : List Entry :=
  v.attempts.map Attempt.entry ++
    (if x.verbose then v.attempts.filterMap Attempt.output? else []) ++
    [.info v.adopted.summary] ++
    (if v.isProved then [.info "Q.E.D.", x.enter .solving .succeeded]
    else x.failureEntries .solving v.adopted.summary)

def endingEntries (x : Examination) : List Entry :=
  match x.ending with
  | .skipped reason => [.info (x.line ("skipped (" ++ reason ++ ")"))]
  | .unprovable => [x.enter .notStarted .failedFatal]
  | .bound kind =>
    [x.enter .notStarted .typeChecked,
      .info (x.line ("uninterpreted " ++ kind.text ++ " constant")),
      x.enter .typeChecked .succeeded]
  | .uncovered _ =>
    if x.mode = .constant then
      [x.enter .notStarted .typeChecked, x.enter .typeChecked .failedFatal]
    else x.evaluationEntries ++ [x.enter .evaluating .failedFatal]
  | .crashed c =>
    x.evaluationEntries ++ x.failureEntries .evaluating ("evaluation panicked: " ++ c.text)
  | .trivial _ =>
    x.evaluationEntries ++
      [.info (x.line "no partial operations to check"), x.enter .evaluating .succeeded]
  | .unselected o _ _ =>
    x.evaluationEntries ++ x.solvingEntries o ++ [x.enter .solving .failedFatal]
  | .unasked o selectors =>
    x.evaluationEntries ++ x.solvingEntries o ++
      [x.provingEntry selectors, x.enter .solving .failedFatal]
  | .judged o selectors verdict =>
    x.evaluationEntries ++ x.solvingEntries o ++ [x.provingEntry selectors] ++
      x.verdictEntries verdict

/-- All entries of an examination; an error that aborts the run comes last. -/
def journal (x : Examination) : List Entry :=
  x.endingEntries ++ (x.abort?.map fun e => ⟨.error, e.message, []⟩).toList

end Examination

end CoreProver
