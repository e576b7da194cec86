import CoreProver.Lang.Expr
import CoreProver.Scope

/-!
# Calls of class methods

A method call `op @t d` hands over its evidence `d` as a variable. It stands for the value bound
under the method's name and the kind of `t`. An argument that is not a variable of evidence type
makes the call an ordinary application.
-/

namespace CoreProver

variable {F : Type}

/-- What a variable of some type can be evidence for. -/
inductive Evidence where
  | instanceOf
  | equality
  | several
  deriving Repr, DecidableEq

mutual

/-- What a variable of the type is evidence for: a tuple is evidence when it has components and
each of them is. -/
def Ty.evidence? : Ty → Option Evidence
  | .dict .. => some .instanceOf
  | .equality .. => some .equality
  | .tuple [] => none
  | .tuple (t :: ts) =>
    if t.evidence?.isSome && Ty.allEvidence ts then some .several else none
  | .con .. | .var _ | .arrow .. | .forAll .. => none

def Ty.allEvidence : List Ty → Bool
  | [] => true
  | t :: ts => t.evidence?.isSome && Ty.allEvidence ts

end

/-- A method applied to a type and to evidence. -/
structure MethodCall where
  method : Var
  type : Ty
  evidence : Evidence
  deriving Repr

namespace MethodCall

/-- The method call that an application of `f` to `a` is, if it is one. -/
def ofApp? (f a : Expr) : Option MethodCall :=
  match f, a with
  | .app (.var method) (.type type), .var d =>
    d.type.evidence?.map fun evidence => ⟨method, type, evidence⟩
  | _, _ => none

/-- The value that a method call stands for. -/
def resolve? (c : MethodCall) (types : TypeTable) (scope : Scope F) : Option (Value F) :=
  (types.resolve? c.type).bind fun kind => scope.lookup? ⟨c.method.name, kind⟩

end MethodCall

/-- The bound value that an application of `f` to `a` stands for when it is a method call. -/
def methodValue? (types : TypeTable) (scope : Scope F) (f a : Expr) : Option (Value F) :=
  (MethodCall.ofApp? f a).bind fun c => c.resolve? types scope

end CoreProver
