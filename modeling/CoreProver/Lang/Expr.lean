import CoreProver.Lang.Location
import CoreProver.Lang.Ty

/-!
# Expressions of the core language

Type application is an application to a bare type. Markers carry a source location and mean
nothing else.
-/

namespace CoreProver

abbrev Int128 := { n : Int // -Int.pow 2 127 ≤ n ∧ n < Int.pow 2 127 }

/-- The integer as one of 128 bits, if it is in range. -/
def Int128.ofInt? (n : Int) : Option Int128 :=
  if h : -Int.pow 2 127 ≤ n ∧ n < Int.pow 2 127 then some ⟨n, h⟩ else none

/-- A variable or binder with its type. -/
structure Var where
  name : String
  type : Ty
  deriving Repr, Inhabited

/-- A literal. None of them is evaluated. -/
inductive Literal where
  | int (value : Int128)
  | char (value : Char)
  | string (value : String)
  | double (value : Float)
  deriving Repr

/-- Evidence that one type may be seen as another. -/
structure Coercion where
  source : Ty
  target : Ty
  deriving Repr

/-- What an alternative of a case distinction matches. -/
inductive Pattern where
  | anything
  | literal (value : Literal)
  | constructor (name : String)
  deriving Repr

mutual

inductive Expr where
  | var (v : Var)
  | lit (value : Literal)
  | app (function argument : Expr)
  | lam (binder : Var) (body : Expr)
  | letIn (binder : Var) (bound body : Expr)
  | letRec (group : List (Var × Expr)) (body : Expr)
  | cases (scrutinee : Expr) (binder : Var) (type : Ty) (alternatives : List Alternative)
  | cast (body : Expr) (coercion : Coercion)
  /-- A location marker around a subexpression. -/
  | tick (location : Location) (body : Expr)
  | type (t : Ty)
  | coercion (c : Coercion)

inductive Alternative where
  | mk (pattern : Pattern) (binders : List Var) (body : Expr)

end

instance : Inhabited Expr := ⟨.type (.tuple [])⟩

/-- The bare type that an expression is, if it is one. -/
def Expr.bareType? : Expr → Option Ty
  | .type t => some t
  | _ => none

end CoreProver
