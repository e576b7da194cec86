import CoreProver.Scope

/-!
# The prelude

The basic types and the values that are bound before any program is looked at: constants and class
methods, for each kind. The solver's own operators divide integers in the Euclidean way and signed
vectors toward zero; `quotient`, `remainder`, `floorDiv` and `floorMod` build the terms that divide
the same way at every kind.
-/

namespace CoreProver

namespace Term

/-- Whether a number is below zero; no unsigned number is. -/
def isNegative (kind : Kind) (a : Term) : Term :=
  match kind with
  | .unsigned _ => bool false
  | _ => binary .lt a (int 0 kind)

def absolute (kind : Kind) (a : Term) : Term :=
  match kind with
  | .unsigned _ => a
  | _ => ite (isNegative kind a) (unary .neg a) a

def sign (kind : Kind) (a : Term) : Term :=
  let nonNegative := ite (binary .eq a (int 0 kind)) (int 0 kind) (int 1 kind)
  match kind with
  | .unsigned _ => nonNegative
  | _ => ite (isNegative kind a) (int (-1) kind) nonNegative

/-- Division toward zero. Integers are divided by magnitude, and the result is negated when the
signs differ. -/
def quotient (kind : Kind) (a b : Term) : Term :=
  match kind with
  | .integer =>
    let magnitude := binary .div (absolute kind a) (absolute kind b)
    let sameSign := binary .eq (binary .ge a (int 0 kind)) (binary .ge b (int 0 kind))
    ite sameSign magnitude (unary .neg magnitude)
  | _ => binary .div a b

/-- The remainder of `quotient`. -/
def remainder (kind : Kind) (a b : Term) : Term :=
  match kind with
  | .integer => binary .sub a (binary .mul b (quotient kind a b))
  | _ => binary .rem a b

/-- Division toward minus infinity. Signed vectors round down by one more when the division toward
zero is inexact and the signs differ; for integers the divisor is made positive, where Euclidean
division rounds down. -/
def floorDiv (kind : Kind) (a b : Term) : Term :=
  match kind with
  | .unsigned _ => binary .div a b
  | .signed _ =>
    let inexact := binary .ne (binary .rem a b) (int 0 kind)
    let signsDiffer := binary .ne (isNegative kind a) (isNegative kind b)
    ite (binary .and inexact signsDiffer) (binary .sub (binary .div a b) (int 1 kind))
      (binary .div a b)
  | _ =>
    ite (binary .ge b (int 0 kind)) (binary .div a b) (binary .div (unary .neg a) (unary .neg b))

/-- The remainder of `floorDiv`. -/
def floorMod (kind : Kind) (a b : Term) : Term :=
  match kind with
  | .unsigned _ => binary .rem a b
  | .signed _ => binary .smod a b
  | _ => binary .sub a (binary .mul b (floorDiv kind a b))

def minimum (a b : Term) : Term := ite (binary .le a b) a b

def maximum (a b : Term) : Term := ite (binary .le a b) b a

end Term

/-- Numeric methods of one argument. -/
inductive UnaryMethod where
  | negate
  | abs
  | signum
  deriving Repr, DecidableEq

namespace UnaryMethod

def all : List UnaryMethod := [negate, abs, signum]

def name : UnaryMethod → String
  | negate => "negate"
  | abs => "abs"
  | signum => "signum"

/-- The term that the method builds at a kind. -/
def term : UnaryMethod → Kind → Term → Term
  | negate, _ => .unary .neg
  | abs, kind => .absolute kind
  | signum, kind => .sign kind

end UnaryMethod

/-- Methods of two arguments. -/
inductive BinaryMethod where
  | add
  | sub
  | mul
  | quot
  | rem
  | div
  | mod
  | eq
  | ne
  | lt
  | le
  | gt
  | ge
  | min
  | max
  deriving Repr, DecidableEq

namespace BinaryMethod

def numeric : List BinaryMethod :=
  [add, sub, mul, quot, rem, div, mod, eq, ne, lt, le, gt, ge, min, max]

def boolean : List BinaryMethod := [eq, ne]

def name : BinaryMethod → String
  | add => "+"
  | sub => "-"
  | mul => "*"
  | quot => "quot"
  | rem => "rem"
  | div => "div"
  | mod => "mod"
  | eq => "=="
  | ne => "/="
  | lt => "<"
  | le => "<="
  | gt => ">"
  | ge => ">="
  | min => "min"
  | max => "max"

/-- The term that the method builds at a kind. -/
def term : BinaryMethod → Kind → Term → Term → Term
  | add, _ => .binary .add
  | sub, _ => .binary .sub
  | mul, _ => .binary .mul
  | quot, kind => .quotient kind
  | rem, kind => .remainder kind
  | div, kind => .floorDiv kind
  | mod, kind => .floorMod kind
  | eq, _ => .binary .eq
  | ne, _ => .binary .ne
  | lt, _ => .binary .lt
  | le, _ => .binary .le
  | gt, _ => .binary .gt
  | ge, _ => .binary .ge
  | min, _ => .minimum
  | max, _ => .maximum

end BinaryMethod

/-- Basic types together with the outermost frame. -/
structure Prelude (F : Type) where
  types : TypeTable
  globals : Frame F

namespace Prelude

variable {F : Type}

def unaryMethod (kind : Kind) (m : UnaryMethod) : Key × Value F :=
  (⟨m.name, kind⟩, .function (.unary m.name kind (m.term kind)))

def binaryMethod (kind : Kind) (m : BinaryMethod) : Key × Value F :=
  (⟨m.name, kind⟩, .function (.binary m.name kind (m.term kind)))

/-- What is bound at the Booleans. -/
def booleans : Frame F :=
  [(⟨"True", .bool⟩, .scalar (.bool true)), (⟨"False", .bool⟩, .scalar (.bool false))] ++
    BinaryMethod.boolean.map (binaryMethod .bool)

/-- What is bound at a kind of numbers. -/
def numbers (kind : Kind) : Frame F :=
  [(⟨"zero", kind⟩, .scalar (.int 0 kind)), (⟨"one", kind⟩, .scalar (.int 1 kind))] ++
    UnaryMethod.all.map (unaryMethod kind) ++ BinaryMethod.numeric.map (binaryMethod kind)

/-- The kinds of numbers that have methods. -/
def numericKinds : List Kind :=
  [.integer, .signed 8, .signed 16, .signed 32, .signed 64,
    .unsigned 8, .unsigned 16, .unsigned 32, .unsigned 64]

/-- The basic types of a program. -/
def standardTypes : TypeTable :=
  .ofList [("Bool", .bool), ("Integer", .integer),
    ("Int", .signed 64), ("Int8", .signed 8), ("Int16", .signed 16), ("Int32", .signed 32),
    ("Int64", .signed 64),
    ("Word", .unsigned 64), ("Word8", .unsigned 8), ("Word16", .unsigned 16),
    ("Word32", .unsigned 32), ("Word64", .unsigned 64)]

def standard : Prelude F := ⟨standardTypes, booleans ++ numericKinds.flatMap numbers⟩

end Prelude

end CoreProver
