import CoreProver.Term.Basic

/-!
# Symbolic values

A value is a scalar term or a function of one argument. The functions of the prelude take scalars of
one kind. Any other function is bound from outside and may do with its argument what it likes: look
at a scalar, apply or hand back a function, refuse in words of its own, or crash. The type `F` of
such functions is a parameter of everything that deals with values, and `Foreign F` says what they
do; `Empty` is the choice for programs that bind none.
-/

namespace CoreProver

/-- A crash, with the text it left behind if there is one. -/
structure Crash where
  message : Option String
  deriving Repr, DecidableEq

/-- What is known about a crash. -/
def Crash.text (c : Crash) : String := c.message.getD "unknown panic"

/-- How an application can fail. -/
inductive CallFailure where
  /-- The argument is not accepted; the text says why. -/
  | refused (why : String)
  | crashed (crash : Crash)
  deriving Repr, DecidableEq

/-- A function of one argument. -/
inductive Operation (F : Type) where
  /-- Builds a term from a scalar of the kind. -/
  | unary (name : String) (kind : Kind) (f : Term → Term)
  /-- Builds a term from two scalars of the kind, which it takes one by one. -/
  | binary (name : String) (kind : Kind) (f : Term → Term → Term)
  /-- Comes from outside. -/
  | foreign (f : F)

inductive Value (F : Type) where
  | scalar (term : Term)
  | function (f : Operation F)

/-- What functions from outside are called, and what they make of an argument. -/
class Foreign (F : Type) where
  name : F → String
  call : F → Value F → Except CallFailure (Value F)

instance : Foreign Empty := ⟨nofun, nofun⟩

/-- A function from outside that crashes on every argument. -/
structure CrashingFunction where
  name : String
  message : String
  deriving Repr, DecidableEq

instance : Foreign CrashingFunction where
  name := CrashingFunction.name
  call f _ := .error (.crashed ⟨some f.message⟩)

variable {F : Type}

namespace Value

instance : Inhabited (Value F) := ⟨.scalar (.bool true)⟩

def term? : Value F → Option Term
  | scalar term => some term
  | function _ => none

@[simp] theorem term?_scalar (t : Term) : (scalar t : Value F).term? = some t := rfl

end Value

variable [Foreign F]

namespace Operation

def name : Operation F → String
  | unary name _ _ | binary name _ _ => name
  | foreign f => Foreign.name f

end Operation

/-- The value as a scalar of a kind, on behalf of a function that needs one. -/
def Value.expect (function : String) (kind : Kind) : Value F → Except CallFailure Term
  | .scalar term =>
    if term.kind = kind then .ok term
    else .error (.refused ("`" ++ function ++ "` expects an argument of kind " ++ kind.text ++
      ", got " ++ term.kind.text))
  | .function f =>
    .error (.refused ("`" ++ function ++ "` expects a " ++ kind.text ++
      " scalar, got unapplied function `" ++ f.name ++ "`"))

namespace Operation

/-- Apply a function. With its first argument, a function of two scalars is one of the second. -/
def call : Operation F → Value F → Except CallFailure (Value F)
  | unary name kind f, v => (v.expect name kind).map fun t => .scalar (f t)
  | binary name kind f, v => (v.expect name kind).map fun t => .function (.unary name kind (f t))
  | foreign f, v => Foreign.call f v

end Operation

end CoreProver
