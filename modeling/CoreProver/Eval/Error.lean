import CoreProver.Diagnostic
import CoreProver.Lang.Printer
import CoreProver.Kind

/-!
# Coverage errors

Symbolic evaluation covers a part of the language. An error says which expression is outside it,
why, and at which source location.
-/

namespace CoreProver

/-- Constructs that are never evaluated. -/
inductive Construct where
  | literal
  | localBinding
  | caseDistinction
  | cast
  | bareType
  | bareCoercion
  deriving Repr, DecidableEq

def Construct.text : Construct → String
  | .literal => "literal"
  | .localBinding => "local binding (let)"
  | .caseDistinction => "pattern match (case)"
  | .cast => "type coercion (cast)"
  | .bareType => "bare type expression"
  | .bareCoercion => "bare coercion expression"

/-- Why an expression is not covered. -/
inductive EvalCause where
  | unsupported (construct : Construct) (e : Expr)
  | unresolvableType (v : Var)
  | unbound (v : Var) (kind : Kind)
  | nonBasicParameter (v : Var) (e : Expr)
  | notApplicable (e : Expr)
  | tooComplicated (e : Expr)
  | notBoolean (kind : Kind) (e : Expr)
  | misuse (why : String) (e : Expr)

def EvalCause.message : EvalCause → String
  | .unsupported construct e => "unsupported " ++ construct.text ++ ": " ++ e.text
  | .unresolvableType v =>
    "non-local variable with unresolvable type: " ++ v.name ++ " :: " ++ v.type.text
  | .unbound v kind => "unbound non-local variable: " ++ v.name ++ " :: " ++ kind.text
  | .nonBasicParameter v e =>
    "abstraction over a non-basic type: " ++ v.name ++ " :: " ++ v.type.text ++ " in " ++ e.text
  | .notApplicable e => "unsupported application: " ++ e.text
  | .tooComplicated e => "expression too complicated for the solver: " ++ e.text
  | .notBoolean kind e => "expected a boolean result but got " ++ kind.text ++ ": " ++ e.text
  | .misuse why e => why ++ " in " ++ e.text

/-- A coverage error. -/
structure EvalError where
  cause : EvalCause
  location : Option Location

namespace EvalError

def message (e : EvalError) : String := Location.describe e.location ++ ": " ++ e.cause.message

def diagnostic (e : EvalError) : Diagnostic where
  message := e.message
  code := "sprove::eval"
  help := some ("only variables, type/value applications, lambdas over basic types and location " ++
    "markers can be analysed")

end EvalError

end CoreProver
