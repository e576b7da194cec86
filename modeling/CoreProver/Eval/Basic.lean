import CoreProver.Dictionary
import CoreProver.Eval.Error
import CoreProver.Obligation
import CoreProver.Prelude

/-!
# Symbolic evaluation

An expression is evaluated to a symbolic value. Each abstraction allocates one variable and stands
for its body, so a property of several parameters becomes a term in as many variables. One state
serves several evaluations: variables are numbered through.
-/

namespace CoreProver

/-- Why an evaluation ended without a value. -/
inductive Stop where
  | failed (e : EvalError)
  | crashed (c : Crash)

/-- What evaluations leave behind. -/
structure EvalState where
  /-- The variables allocated so far, in order. -/
  fresh : List SymVar
  /-- The applications that were resolved as method calls, in order. -/
  calls : List Expr

namespace EvalState

def initial : EvalState := ⟨[], []⟩

/-- The next variable. Its number is how many there are before it, and numbers have no bound. In a
run they stay within 32 bits while no body has more than `2 ^ 32` abstractions
(`Session.id_lt_of_mem_vars`). -/
def nextVar (s : EvalState) (name : String) (kind : Kind) : SymVar :=
  ⟨s.fresh.length, name, kind, .parameter⟩

def allocate (s : EvalState) (name : String) (kind : Kind) : EvalState :=
  { s with fresh := s.fresh ++ [s.nextVar name kind] }

def noteCall (s : EvalState) (e : Expr) : EvalState := { s with calls := s.calls ++ [e] }

end EvalState

/-- A result together with the state after it, which is kept on failure too. -/
abbrev Outcome (α : Type) := Except Stop α × EvalState

def Scope.fail {F α : Type} (scope : Scope F) (cause : EvalCause) : Except Stop α :=
  .error (.failed ⟨cause, scope.location⟩)

variable {F : Type}

/-- The value of a variable is the one bound under its name at the kind of its type. -/
def evalVar (types : TypeTable) (scope : Scope F) (v : Var) : Except Stop (Value F) :=
  match types.resolve? v.type with
  | none => scope.fail (.unresolvableType v)
  | some kind =>
    match scope.lookup? ⟨v.name, kind⟩ with
    | none => scope.fail (.unbound v kind)
    | some value => .ok value

/-- The result of a call that the application `e` makes. -/
def callResult (scope : Scope F) (e : Expr) :
    Except CallFailure (Value F) → Except Stop (Value F)
  | .ok value => .ok value
  | .error (.refused why) => scope.fail (.misuse why e)
  | .error (.crashed crash) => .error (.crashed crash)

variable [Foreign F]

/-- Evaluate an expression. The function of an application is evaluated before its argument. -/
def eval (types : TypeTable) : Expr → Scope F → EvalState → Outcome (Value F)
  | .var v, scope, s => (evalVar types scope v, s)
  | .app f (.type _), scope, s => eval types f scope s
  | e@(.app f a), scope, s =>
    match methodValue? types scope f a with
    | some value => (.ok value, s.noteCall e)
    | none =>
      match eval types f scope s with
      | (.error stop, s) => (.error stop, s)
      | (.ok (.scalar _), s) => (scope.fail (.notApplicable e), s)
      | (.ok (.function op), s) =>
        match eval types a scope s with
        | (.error stop, s) => (.error stop, s)
        | (.ok value, s) => (callResult scope e (op.call value), s)
  | e@(.lam v body), scope, s =>
    match types.resolve? v.type with
    | none => (scope.fail (.nonBasicParameter v e), s)
    | some kind =>
      eval types body (scope.extend ⟨v.name, kind⟩ (.scalar (.var (s.nextVar v.name kind))))
        (s.allocate v.name kind)
  | .tick location body, scope, s => eval types body (scope.moveTo location) s
  | e@(.lit _), scope, s => (scope.fail (.unsupported .literal e), s)
  | e@(.letIn ..), scope, s => (scope.fail (.unsupported .localBinding e), s)
  | e@(.letRec ..), scope, s => (scope.fail (.unsupported .localBinding e), s)
  | e@(.cases ..), scope, s => (scope.fail (.unsupported .caseDistinction e), s)
  | e@(.cast ..), scope, s => (scope.fail (.unsupported .cast e), s)
  | e@(.type _), scope, s => (scope.fail (.unsupported .bareType e), s)
  | e@(.coercion _), scope, s => (scope.fail (.unsupported .bareCoercion e), s)

/-- Evaluate an expression that has to be a scalar. -/
def evalScalar (types : TypeTable) (e : Expr) (scope : Scope F) (s : EvalState) : Outcome Term :=
  match eval types e scope s with
  | (.error stop, s) => (.error stop, s)
  | (.ok (.scalar term), s) => (.ok term, s)
  | (.ok (.function _), s) => (scope.fail (.tooComplicated e), s)

/-- The obligation that a property holds for all values of its parameters. -/
def evalProperty (types : TypeTable) (e : Expr) (scope : Scope F) (s : EvalState) :
    Outcome Obligation :=
  match evalScalar types e scope s with
  | (.error stop, s) => (.error stop, s)
  | (.ok goal, s) =>
    if goal.kind = .bool then (.ok (.ofGoal s.fresh goal), s)
    else (scope.fail (.notBoolean goal.kind e), s)

/-- The obligation that an expression never divides by zero. -/
def evalSafety (types : TypeTable) (e : Expr) (scope : Scope F) (s : EvalState) :
    Outcome Obligation :=
  match evalScalar types e scope s with
  | (.error stop, s) => (.error stop, s)
  | (.ok term, s) => (.ok (.ofGoal s.fresh (.all term.safetyConditions)), s)

end CoreProver
