import CoreProver.Term.Smt

/-!
# Proof obligations

A goal together with the variables it is about. The goal holds for all values of the variables
exactly when the script's assertion, its negation, is unsatisfiable.
-/

namespace CoreProver

/-- A goal over symbolic variables. -/
structure Obligation where
  vars : List SymVar
  goal : Term
  deriving Repr, DecidableEq

namespace Obligation

/-- The obligation of a goal: the bound variables in their order, then the other variables of the
goal in order of first occurrence. -/
def ofGoal (bound : List SymVar) (goal : Term) : Obligation :=
  ⟨appendNew bound goal.freeVars, goal⟩

def kinds (o : Obligation) : List Kind := o.vars.map SymVar.kind

/-- The kinds of the variables, as the journal shows them. -/
def kindsText (o : Obligation) : String :=
  "[" ++ ", ".intercalate (o.kinds.map Kind.shape) ++ "]"

end Obligation

/-- The kinds of a term and all its parts. -/
def Term.partKinds : Term → List Kind
  | t@(.var _) | t@(.bool _) | t@(.int ..) => [t.kind]
  | t@(.unary _ operand) => t.kind :: operand.partKinds
  | t@(.binary _ left right) => t.kind :: (left.partKinds ++ right.partKinds)
  | t@(.ite condition yes no) =>
    t.kind :: (condition.partKinds ++ yes.partKinds ++ no.partKinds)

namespace Obligation

/-- The narrowest logic that covers an obligation. -/
def logic (o : Obligation) : String :=
  let kinds := o.kinds ++ o.goal.partKinds
  if kinds.contains .integer then
    if kinds.any Kind.isBitVector then "ALL" else "QF_NIA"
  else "QF_BV"

def declaration (v : SymVar) : String :=
  "(declare-fun " ++ v.symbol ++ " () " ++ v.kind.sort ++ ")\n"

/-- The script that refutes the negated goal; with the commands that ask for a model or a reason,
or without them. -/
def script (o : Obligation) (withModel : Bool) : String :=
  "(set-option :produce-models true)\n" ++
    "(set-logic " ++ o.logic ++ ")\n" ++
    String.join (o.vars.map declaration) ++
    "(assert (not " ++ o.goal.text ++ "))\n" ++
    "(check-sat)\n" ++
    (if withModel then "(get-info :reason-unknown)\n(get-model)\n" else "") ++
    "(exit)\n"

end Obligation

end CoreProver
