import CoreProver.Distinct
import CoreProver.Lang.Ty

/-!
# Kinds

A kind is the sort of scalar that a basic type stands for. A type table says which named types are
basic; only a name without arguments can be.
-/

namespace CoreProver

/-- The kind of a scalar. -/
inductive Kind where
  | bool
  /-- Integers without bound. -/
  | integer
  /-- Bit-vectors in two's complement. -/
  | signed (width : Nat)
  /-- Bit-vectors read as natural numbers. -/
  | unsigned (width : Nat)
  deriving Repr, DecidableEq, Inhabited

namespace Kind

/-- Every kind but the Booleans. -/
def isNumeric : Kind → Bool
  | bool => false
  | integer | signed _ | unsigned _ => true

def isBitVector : Kind → Bool
  | signed _ | unsigned _ => true
  | bool | integer => false

def width? : Kind → Option Nat
  | signed width | unsigned width => some width
  | bool | integer => none

def text : Kind → String
  | bool => "Bool"
  | integer => "Integer"
  | signed width => "Int" ++ Nat.repr width
  | unsigned width => "Word" ++ Nat.repr width

/-- The constructor form of a kind, used in lists of kinds. -/
def shape : Kind → String
  | bool => "Bool"
  | integer => "Integer"
  | signed width => "Signed(" ++ Nat.repr width ++ ")"
  | unsigned width => "Unsigned(" ++ Nat.repr width ++ ")"

def sort : Kind → String
  | bool => "Bool"
  | integer => "Int"
  | signed width | unsigned width => "(_ BitVec " ++ Nat.repr width ++ ")"

/-- The order of kinds: Booleans, integers, signed and then unsigned vectors, each by width. -/
def le : Kind → Kind → Bool
  | bool, _ => true
  | _, bool => false
  | integer, _ => true
  | _, integer => false
  | signed a, signed b => a ≤ b
  | signed _, unsigned _ => true
  | unsigned _, signed _ => false
  | unsigned a, unsigned b => a ≤ b

end Kind

/-- The kinds of the basic types, by name. No name stands twice. -/
structure TypeTable where
  entries : List (String × Kind)
  deriving Repr, Inhabited

namespace TypeTable

def empty : TypeTable := ⟨[]⟩

/-- Make a name stand for a kind, whatever it stood for before. -/
def register (t : TypeTable) (name : String) (kind : Kind) : TypeTable :=
  ⟨(name, kind) :: t.entries.filter (fun e => e.1 ≠ name)⟩

/-- A table with these entries; a later entry for a name wins. -/
def ofList (entries : List (String × Kind)) : TypeTable :=
  entries.foldl (fun t e => t.register e.1 e.2) empty

def lookup? (t : TypeTable) (name : String) : Option Kind := t.entries.lookup name

/-- The kind of a type: only a name without arguments has one. -/
def resolve? (t : TypeTable) : Ty → Option Kind
  | .con name [] => t.lookup? name
  | _ => none

/-- The kinds that occur, in order and each once. -/
def kinds (t : TypeTable) : List Kind := (distinct (t.entries.map Prod.snd)).mergeSort Kind.le

@[simp] theorem lookup?_empty (name : String) : empty.lookup? name = none := rfl

@[simp] theorem lookup?_register_self (t : TypeTable) (name : String) (kind : Kind) :
    (t.register name kind).lookup? name = some kind := by
  simp [register, lookup?]

end TypeTable

end CoreProver
