import CoreProver.Kind

/-!
# Terms

Formulas and scalars over symbolic variables. Terms are built as they are asked for, well-kinded or
not; `Term.kind` looks at one operand only.
-/

namespace CoreProver

/-- Where a symbolic variable comes from. -/
inductive Origin where
  /-- The parameter of an abstraction. -/
  | parameter
  /-- A binding that is left uninterpreted. -/
  | constant
  deriving Repr, DecidableEq

/-- A symbolic scalar; solvers quantify over all of them. -/
structure SymVar where
  id : Nat
  name : String
  kind : Kind
  origin : Origin
  deriving Repr, DecidableEq

/-- Operators with one operand. -/
inductive UnaryOp where
  | not
  | neg
  deriving Repr, DecidableEq

/-- Operators with two operands. Division and comparison are signed or unsigned by the kind of the
operands. -/
inductive BinaryOp where
  | add
  | sub
  | mul
  /-- Euclidean on integers, toward zero on signed vectors. -/
  | div
  /-- The remainder of `div`. -/
  | rem
  /-- The remainder with the sign of the divisor, on signed vectors. -/
  | smod
  | eq
  | ne
  | lt
  | le
  | gt
  | ge
  | and
  | or
  | implies
  deriving Repr, DecidableEq

namespace BinaryOp

def isComparison : BinaryOp → Bool
  | eq | ne | lt | le | gt | ge => true
  | _ => false

def isLogical : BinaryOp → Bool
  | and | or | implies => true
  | _ => false

/-- Operators that are not defined for a right operand of zero. -/
def isPartial : BinaryOp → Bool
  | div | rem | smod => true
  | _ => false

end BinaryOp

/-- A term over symbolic variables. Operands are not checked for their kinds. -/
inductive Term where
  | var (v : SymVar)
  | bool (value : Bool)
  | int (value : Int) (kind : Kind)
  | unary (op : UnaryOp) (operand : Term)
  | binary (op : BinaryOp) (left right : Term)
  | ite (condition yes no : Term)
  deriving Repr, DecidableEq

namespace Term

/-- The kind of a term: that of the left operand or of the first branch decides. -/
def kind : Term → Kind
  | var v => v.kind
  | bool _ => .bool
  | int _ kind => kind
  | unary .not _ => .bool
  | unary .neg operand => operand.kind
  | binary op left _ => if op.isComparison || op.isLogical then .bool else left.kind
  | ite _ yes _ => yes.kind

/-- The conjunction of terms, associated to the left; `true` when there are none. -/
def all : List Term → Term
  | [] => .bool true
  | t :: ts => ts.foldl (binary .and) t

/-- Every occurrence of a variable, from left to right. -/
def occurrences : Term → List SymVar
  | var v => [v]
  | bool _ | int .. => []
  | unary _ operand => operand.occurrences
  | binary _ left right => left.occurrences ++ right.occurrences
  | ite condition yes no => condition.occurrences ++ yes.occurrences ++ no.occurrences

/-- The variables in order of first occurrence. -/
def freeVars (t : Term) : List SymVar := distinct t.occurrences

/-- The condition that a divisor is not zero. -/
def nonzero (divisor : Term) : Term := binary .ne divisor (int 0 divisor.kind)

/-- The conditions for the divisions in a term, outermost first, with repetitions. -/
def divisionConditions : Term → List Term
  | var _ | bool _ | int .. => []
  | unary _ operand => operand.divisionConditions
  | binary op left right =>
    (if op.isPartial then [nonzero right] else []) ++ left.divisionConditions ++
      right.divisionConditions
  | ite condition yes no =>
    condition.divisionConditions ++ yes.divisionConditions ++ no.divisionConditions

/-- Conditions under which no division in the term is by zero, each once. -/
def safetyConditions (t : Term) : List Term := distinct t.divisionConditions

@[simp] theorem all_nil : all [] = .bool true := rfl

@[simp] theorem all_singleton (t : Term) : all [t] = t := rfl

end Term

end CoreProver
