import CoreProver.Term.Basic
import Mathlib.Algebra.Group.Int.Defs
import Mathlib.Algebra.Group.Nat.Defs
import Mathlib.Tactic.Common

/-!
# What terms denote

A scalar is a truth value or a number. Bit-vectors are read as numbers by their kind, signed ones in
two's complement, and every result is taken modulo the number of vectors of its width. The integers
leave division by zero open; bit-vectors do not. Terms that are not well-kinded denote scalars too,
but nothing is said about them.
-/

namespace CoreProver

/-- A concrete scalar. -/
inductive Scalar where
  | bool (value : Bool)
  | number (value : Int)
  deriving Repr, DecidableEq

namespace Scalar

/-- The truth value that a scalar is. -/
def truth : Scalar → Bool
  | bool value => value
  | number _ => false

/-- The number that a scalar is. -/
def int : Scalar → Int
  | number value => value
  | bool _ => 0

@[simp] theorem truth_bool (b : Bool) : (bool b).truth = b := rfl

@[simp] theorem int_number (n : Int) : (number n).int = n := rfl

theorem truth_eq_true_iff (x : Scalar) : x.truth = true ↔ x = bool true := by
  cases x <;> simp [truth]

end Scalar

namespace Kind

/-- The number of the kind that a number stands for. -/
def wrap : Kind → Int → Int
  | signed width, n => n.bmod (2 ^ width)
  | unsigned width, n => n % 2 ^ width
  | bool, n | integer, n => n

def number (k : Kind) (n : Int) : Scalar := .number (k.wrap n)

/-- Whether a scalar is one of the kind. -/
def has : Kind → Scalar → Bool
  | bool, .bool _ => true
  | bool, .number _ => false
  | integer, .number _ => true
  | signed width, .number n => (signed width).wrap n = n
  | unsigned width, .number n => (unsigned width).wrap n = n
  | integer, .bool _ | signed _, .bool _ | unsigned _, .bool _ => false

@[simp] theorem wrap_wrap (k : Kind) (n : Int) : k.wrap (k.wrap n) = k.wrap n := by
  cases k <;> simp [wrap]

theorem eq_bool_of_has {x : Scalar} (h : Kind.bool.has x = true) : x = .bool x.truth := by
  cases x with
  | bool value => rfl
  | number value => cases h

theorem eq_number_of_has {k : Kind} {x : Scalar} (hk : k.isNumeric = true)
    (h : k.has x = true) : x = .number x.int ∧ k.wrap x.int = x.int := by
  cases x with
  | bool value =>
    cases k with
    | bool => cases hk
    | integer | signed width | unsigned width => cases h
  | number value =>
    cases k with
    | bool => cases hk
    | integer => exact ⟨rfl, rfl⟩
    | signed width | unsigned width => exact ⟨rfl, of_decide_eq_true h⟩

@[simp] theorem has_bool (b : Bool) : Kind.bool.has (.bool b) = true := rfl

theorem has_number {k : Kind} (hk : k.isNumeric = true) (n : Int) : k.has (k.number n) = true := by
  cases k <;> simp_all [has, number, wrap, isNumeric]

end Kind

/-- How the integers are divided by zero: any way will do. -/
structure DivisionByZero where
  quotient : Int → Int
  remainder : Int → Int

/-- The quotient of two numbers of a kind: Euclidean for integers, toward zero for vectors. -/
def Kind.divide (D : DivisionByZero) : Kind → Int → Int → Int
  | .signed _, a, b => if b = 0 then if a < 0 then 1 else -1 else a.tdiv b
  | .unsigned _, a, b => if b = 0 then -1 else a / b
  | _, a, b => if b = 0 then D.quotient a else a / b

/-- The remainder of `Kind.divide`. A vector divided by zero is its own remainder. -/
def Kind.residue (D : DivisionByZero) : Kind → Int → Int → Int
  | .signed _, a, b => a.tmod b
  | .unsigned _, a, b => a % b
  | _, a, b => if b = 0 then D.remainder a else a % b

/-- The remainder with the sign of the divisor, where there are signs. -/
def Kind.modulus (D : DivisionByZero) : Kind → Int → Int → Int
  | .signed _, a, b => a.fmod b
  | k, a, b => k.residue D a b

/-- What an operator makes of a scalar of a kind; results wrap around the width of the kind. -/
def UnaryOp.apply (k : Kind) (x : Scalar) : UnaryOp → Scalar
  | .not => .bool (!x.truth)
  | .neg => k.number (-x.int)

/-- What an operator makes of two scalars of a kind. -/
def BinaryOp.apply (D : DivisionByZero) (k : Kind) (x y : Scalar) : BinaryOp → Scalar
  | .add => k.number (x.int + y.int)
  | .sub => k.number (x.int - y.int)
  | .mul => k.number (x.int * y.int)
  | .div => k.number (k.divide D x.int y.int)
  | .rem => k.number (k.residue D x.int y.int)
  | .smod => k.number (k.modulus D x.int y.int)
  | .eq => .bool (x = y)
  | .ne => .bool (x ≠ y)
  | .lt => .bool (x.int < y.int)
  | .le => .bool (x.int ≤ y.int)
  | .gt => .bool (y.int < x.int)
  | .ge => .bool (y.int ≤ x.int)
  | .and => .bool (x.truth && y.truth)
  | .or => .bool (x.truth || y.truth)
  | .implies => .bool (!x.truth || y.truth)

namespace Term

/-- The scalar that a term denotes under an assignment of scalars to variables. -/
def denote (D : DivisionByZero) (assignment : SymVar → Scalar) : Term → Scalar
  | var v => assignment v
  | bool value => .bool value
  | int value kind => kind.number value
  | unary op operand => op.apply operand.kind (operand.denote D assignment)
  | binary op left right =>
    op.apply D left.kind (left.denote D assignment) (right.denote D assignment)
  | ite condition yes no =>
    bif (condition.denote D assignment).truth then yes.denote D assignment
    else no.denote D assignment

/-- What one more conjunct preserves, any number of them preserves. -/
theorem foldl_and_induction {P : List Term → Term → Prop}
    (hand : ∀ ts t u, P ts t → P (ts ++ [u]) (binary .and t u)) {done : List Term} {t : Term}
    (h : P done t) (rest : List Term) : P (done ++ rest) (rest.foldl (binary .and) t) := by
  induction rest generalizing done t with
  | nil => simpa using h
  | cons u us ih => simpa using ih (hand done t u h)

/-- A conjunction is built by adding one conjunct after the other. -/
theorem all_induction {P : List Term → Term → Prop} (hnil : P [] (bool true))
    (hone : ∀ t, P [t] t) (hand : ∀ ts t u, P ts t → P (ts ++ [u]) (binary .and t u))
    (ts : List Term) : P ts (all ts) := by
  cases ts with
  | nil => exact hnil
  | cons t rest => exact foldl_and_induction hand (hone t) rest

end Term

/-- Whether an operator takes an operand of the kind. -/
def UnaryOp.accepts : UnaryOp → Kind → Bool
  | .not, k => k = .bool
  | .neg, k => k.isNumeric

/-- Whether an operator takes operands of the two kinds. -/
def BinaryOp.accepts (op : BinaryOp) (left right : Kind) : Bool :=
  match op with
  | .eq | .ne => left = right
  | .and | .or | .implies => left = .bool && right = .bool
  | .add | .sub | .mul | .div | .rem | .smod | .lt | .le | .gt | .ge =>
    left = right && left.isNumeric

theorem BinaryOp.kind_eq_of_accepts {left right : Kind} (op : BinaryOp)
    (h : op.accepts left right = true) : left = right := by
  cases op <;> simp_all [accepts]

/-- Whether every operator in a term has operands that it takes. -/
def Term.wellKinded : Term → Bool
  | var _ | bool _ => true
  | int _ kind => kind.isNumeric
  | unary op operand => operand.wellKinded && op.accepts operand.kind
  | binary op left right => left.wellKinded && right.wellKinded && op.accepts left.kind right.kind
  | ite condition yes no =>
    condition.wellKinded && yes.wellKinded && no.wellKinded && condition.kind = .bool &&
      yes.kind = no.kind

/-- An operator makes a scalar of the kind that its term has. -/
theorem BinaryOp.has_apply (D : DivisionByZero) {op : BinaryOp} {left right : Term} (x y : Scalar)
    (h : op.accepts left.kind right.kind = true) :
    (Term.binary op left right).kind.has (op.apply D left.kind x y) = true := by
  cases op with
  | add | sub | mul | div | rem | smod =>
    simp only [accepts, Bool.and_eq_true] at h
    exact Kind.has_number h.2 _
  | eq | ne | lt | le | gt | ge | and | or | implies => rfl

theorem UnaryOp.has_apply {op : UnaryOp} {operand : Term} (x : Scalar)
    (h : op.accepts operand.kind = true) :
    (Term.unary op operand).kind.has (op.apply operand.kind x) = true := by
  cases op with
  | not => rfl
  | neg => exact Kind.has_number h _

/-- Well-kinded terms denote scalars of their kind. -/
theorem Term.has_denote (D : DivisionByZero) {assignment : SymVar → Scalar} (t : Term)
    (ht : t.wellKinded = true) (hv : ∀ v ∈ t.occurrences, v.kind.has (assignment v) = true) :
    t.kind.has (t.denote D assignment) = true := by
  induction t with
  | var v => exact hv v (by simp [occurrences])
  | bool value => rfl
  | int value kind => exact Kind.has_number ht value
  | unary op operand ih =>
    simp only [wellKinded, Bool.and_eq_true] at ht
    exact UnaryOp.has_apply _ ht.2
  | binary op left right ihl ihr =>
    simp only [wellKinded, Bool.and_eq_true] at ht
    exact BinaryOp.has_apply D _ _ ht.2
  | ite condition yes no ihc ihy ihn =>
    simp only [wellKinded, Bool.and_eq_true, decide_eq_true_eq] at ht
    obtain ⟨⟨⟨⟨hc, hy⟩, hn⟩, -⟩, hk⟩ := ht
    simp only [occurrences, List.mem_append] at hv
    simp only [kind, denote]
    cases (condition.denote D assignment).truth with
    | true => exact ihy hy fun v h => hv v (.inl (.inr h))
    | false =>
      rw [hk]
      exact ihn hn fun v h => hv v (.inr h)

end CoreProver
