import CoreProver.Lang.Program

/-!
# Modes and stages

A request is examined in one of three modes and passes through stages. It ends as it started when
it is skipped, and otherwise in success or in one of two kinds of failure.
-/

namespace CoreProver

/-- What a request comes down to. -/
inductive Mode where
  /-- Prove the body. -/
  | proof
  /-- Prove that the body never divides by zero. -/
  | safety
  /-- Bind the name to an unknown constant. -/
  | constant
  deriving Repr, DecidableEq

def Mode.text : Mode → String
  | .proof => "theorem"
  | .safety => "safety"
  | .constant => "uninterpret"

/-- The mode of a request. The options of a proof can turn it into any other mode. -/
def Request.mode : Request → Mode
  | .uninterpret => .constant
  | .checkSafety _ => .safety
  | .prove options =>
    if options.uninterpret then .constant else if options.safety then .safety else .proof

/-- How far the examination of a request has come. -/
inductive Stage where
  | notStarted
  | typeChecked
  | evaluating
  | solving
  | succeeded
  /-- The run goes on after the failure. -/
  | failedRecoverable
  /-- The run ends with the failure. -/
  | failedFatal
  deriving Repr, DecidableEq

def Stage.text : Stage → String
  | .notStarted => "not_started"
  | .typeChecked => "type_checked"
  | .evaluating => "evaluating"
  | .solving => "solving"
  | .succeeded => "succeeded"
  | .failedRecoverable => "failed_recoverable"
  | .failedFatal => "failed_fatal"

def Stage.isFailure : Stage → Bool
  | .failedRecoverable | .failedFatal => true
  | _ => false

end CoreProver
