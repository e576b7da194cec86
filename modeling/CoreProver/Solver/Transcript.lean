import CoreProver.Solver.Answer
import CoreProver.Text.Blank
import CoreProver.Text.Lines
import CoreProver.Text.Search

/-!
# Transcripts of solvers

A solver writes its answer on a line of its own. The first such line decides; lines after it can
only add details, and what is written to the error stream counts only when no line decides.
-/

namespace CoreProver.Transcript

/-- What a line says that decides. -/
inductive Decision where
  | unsat
  | sat
  | unknown
  | timeout
  /-- An error message, as the solver wrote it. -/
  | error (line : List Char)
  deriving Repr, DecidableEq

/-- The start of a line with an error message. -/
def errorMark : List Char := "(error".toList

/-- The start of a line with the reason for not knowing. -/
def reasonMark : List Char := "(:reason-unknown".toList

/-- Remove double quotes at both ends. -/
def trimQuotes (s : List Char) : List Char :=
  Text.dropEndWhile (· = '"') (s.dropWhile (· = '"'))

/-- The text inside a line that starts with `mark`: without the mark, closing brackets, blanks and
quotes around it. -/
def inside (mark line : List Char) : List Char :=
  trimQuotes (Text.trim (Text.dropEndWhile (· = ')') (Text.dropRepeated mark line)))

/-- What a line decides, whatever the blanks around it. -/
def decision? (line : List Char) : Option Decision :=
  let line := Text.trim line
  if line = "unsat".toList then some .unsat
  else if line = "sat".toList then some .sat
  else if line = "unknown".toList then some .unknown
  else if line = "timeout".toList then some .timeout
  else if errorMark.isPrefixOf line then some (.error line)
  else none

/-- Whether a line after `sat` belongs to the model. -/
def isModelLine (line : List Char) : Bool :=
  !Text.contains ":reason-unknown".toList line && !errorMark.isPrefixOf (Text.trimStart line)

def model? (rest : List (List Char)) : Option String :=
  let model := Text.trim (Text.joinWith ['\n'] (rest.filter isModelLine))
  if model.isEmpty then none else some (String.ofList model)

def reason? (rest : List (List Char)) : Option String :=
  match (rest.map Text.trim).find? (fun line => reasonMark.isPrefixOf line) with
  | none => none
  | some line =>
    let reason := inside reasonMark line
    if reason.isEmpty then none else some (String.ofList reason)

/-- The answer that a decision starts, with its details from the lines after it. -/
def Decision.answer (rest : List (List Char)) : Decision → Answer
  | .unsat => .proved
  | .sat => .disproved (model? rest)
  | .unknown => .unknown (reason? rest)
  | .timeout => .timeout
  | .error line => .error (String.ofList (inside errorMark line))

/-- The answer of the first line that decides. -/
def answerOfLines? : List (List Char) → Option Answer
  | [] => none
  | line :: rest =>
    match decision? line with
    | some decision => some (decision.answer rest)
    | none => answerOfLines? rest

/-- The answer when no line decides. At most three lines of the error stream are kept. -/
def answerOfErrors (stderr : List Char) : Answer :=
  let stderr := Text.trim stderr
  if Text.contains "timeout".toList (Text.lowerAscii stderr) then .timeout
  else if stderr.isEmpty then .error "no answer from solver"
  else .error (String.ofList (Text.joinWith "; ".toList ((Text.lines stderr).take 3)))

/-- The answer in the output of a solver. -/
def classify (stdout stderr : List Char) : Answer :=
  (answerOfLines? (Text.lines stdout)).getD (answerOfErrors stderr)

end CoreProver.Transcript
