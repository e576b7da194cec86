import CoreProver.Distinct
import CoreProver.Lang.Expr
import CoreProver.Solver.Engine

/-!
# Programs and what is asked about them

A program is a list of bindings; each may carry requests for a proof, for a check that no division
by zero can happen, or to take the binding as an unknown constant.
-/

namespace CoreProver

/-- An option of a request, one for each word that an annotation can use. -/
inductive ProofOption where
  /-- Report a failed proof as a warning and go on. -/
  | warnIfFails
  | verbose
  | debug
  | safety
  | uninterpret
  | skip (reason : String)
  | solver (engine : Engine)
  | anySolver
  deriving Repr, DecidableEq

/-- The options of one request, as written. -/
abbrev ProofOptions := List ProofOption

namespace ProofOptions

/-- A failed proof is only a warning. -/
def warnIfFails (o : ProofOptions) : Bool := o.contains .warnIfFails

/-- Show the script and the solvers' output; this is a part of being verbose. -/
def debug (o : ProofOptions) : Bool := o.contains .debug

def verbose (o : ProofOptions) : Bool := o.contains .verbose || debug o

/-- Check for division by zero. -/
def safety (o : ProofOptions) : Bool := o.contains .safety

/-- Take the binding as an unknown constant. -/
def uninterpret (o : ProofOptions) : Bool := o.contains .uninterpret

/-- The first reason to skip the request. -/
def skipReason? (o : ProofOptions) : Option String :=
  o.findSome? fun
    | .skip reason => some reason
    | _ => none

/-- The selector that an option adds. -/
def selector? : ProofOption → Option Selector
  | .solver e => some (.engine e)
  | .anySolver => some .allInstalled
  | _ => none

/-- The selectors in the order in which they were written, each once. -/
def selectors (o : ProofOptions) : List Selector := distinct (o.filterMap selector?)

end ProofOptions

/-- What is asked about a binding. -/
inductive Request where
  /-- Prove that the body is true. -/
  | prove (options : ProofOptions)
  /-- Prove that the body never divides by zero. -/
  | checkSafety (options : ProofOptions)
  /-- Take the binding as an unknown constant. -/
  | uninterpret
  deriving Repr, DecidableEq

def Request.options : Request → ProofOptions
  | .prove options => options
  | .checkSafety options => options
  | .uninterpret => []

/-- A top-level binding with the requests about it, in order. -/
structure Binding where
  name : String
  location : Location
  type : Ty
  body : Expr
  requests : List Request

structure Program where
  /-- The module that the bindings come from, if it is known. -/
  moduleName : Option String
  bindings : List Binding

end CoreProver
