/-!
# Types of the core language

Evidence for constraints (class dictionaries, equalities and tuples of them) is kept apart from data
types, so that calls through a dictionary can be told by their types and not by their names.
-/

namespace CoreProver

/-- A type expression, as programs carry it: variables are not resolved. -/
inductive Ty where
  /-- A named type constructor with its arguments. -/
  | con (name : String) (args : List Ty)
  | var (name : String)
  | arrow (argument result : Ty)
  | forAll (name : String) (body : Ty)
  /-- The dictionary of a class, such as `Num Int`. -/
  | dict (name : String) (args : List Ty)
  /-- Evidence that two types are equal. -/
  | equality (left right : Ty)
  | tuple (items : List Ty)
  deriving Repr, Inhabited, BEq

/-- Whether the outermost constructor is an arrow. -/
def Ty.isArrow : Ty → Bool
  | .arrow .. => true
  | _ => false

end CoreProver
