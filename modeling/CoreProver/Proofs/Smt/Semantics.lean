import CoreProver.Proofs.Denotation
import CoreProver.Proofs.Smt.Reader
import CoreProver.Term.Smt

/-!
# What expressions of the solver's language mean

The theories that scripts use, as the SMT-LIB standard has them: the Booleans, the integers with
Euclidean division, and bit-vectors in two's complement. Every function is strict in its sorts, so
that an expression that is not well-sorted has no value. The scalars of a kind are encoded as values
of one sort, and there every operator means what its symbol means.
-/

namespace CoreProver.Smt

/-- A sort of the solver language. -/
inductive Domain where
  | bool
  | int
  | bitVec (width : Nat)
  deriving Repr, DecidableEq

/-- A value of some sort. -/
inductive Value where
  | bool (value : Bool)
  | int (value : Int)
  | bits (width : Nat) (vector : BitVec width)
  deriving Repr, DecidableEq

def Value.domain : Value → Domain
  | bool _ => .bool
  | int _ => .int
  | bits width _ => .bitVec width

/-- The functions on two truth values. -/
def onTruths (x y : Bool) : String → Option Value
  | "and" => some (.bool (x && y))
  | "or" => some (.bool (x || y))
  | "=>" => some (.bool (!x || y))
  | _ => none

/-- The functions on two integers. -/
def onIntegers (D : DivisionByZero) (x y : Int) : String → Option Value
  | "+" => some (.int (x + y))
  | "-" => some (.int (x - y))
  | "*" => some (.int (x * y))
  | "div" => some (.int (if y = 0 then D.quotient x else x / y))
  | "mod" => some (.int (if y = 0 then D.remainder x else x % y))
  | "<" => some (.bool (x < y))
  | "<=" => some (.bool (x ≤ y))
  | ">" => some (.bool (y < x))
  | ">=" => some (.bool (y ≤ x))
  | _ => none

/-- The functions on two vectors of one width. -/
def onVectors {width : Nat} (x y : BitVec width) : String → Option Value
  | "bvadd" => some (.bits width (x + y))
  | "bvsub" => some (.bits width (x - y))
  | "bvmul" => some (.bits width (x * y))
  | "bvudiv" => some (.bits width (x.smtUDiv y))
  | "bvurem" => some (.bits width (x % y))
  | "bvsdiv" => some (.bits width (x.smtSDiv y))
  | "bvsrem" => some (.bits width (x.srem y))
  | "bvsmod" => some (.bits width (x.smod y))
  | "bvult" => some (.bool (x.ult y))
  | "bvule" => some (.bool (x.ule y))
  | "bvugt" => some (.bool (y.ult x))
  | "bvuge" => some (.bool (y.ule x))
  | "bvslt" => some (.bool (x.slt y))
  | "bvsle" => some (.bool (x.sle y))
  | "bvsgt" => some (.bool (y.slt x))
  | "bvsge" => some (.bool (y.sle x))
  | _ => none

/-- The value of a function of the theories. -/
def interpret (D : DivisionByZero) (f : String) : List Value → Option Value
  | [.bool x] => if f = "not" then some (.bool !x) else none
  | [.int x] => if f = "-" then some (.int (-x)) else none
  | [.bits width x] => if f = "bvneg" then some (.bits width (-x)) else none
  | [x, y] =>
    if x.domain ≠ y.domain then none
    else if f = "=" then some (.bool (x = y))
    else if f = "distinct" then some (.bool (x ≠ y))
    else match x, y with
      | .bool a, .bool b => onTruths a b f
      | .int a, .int b => onIntegers D a b f
      | .bits width a, .bits width' b =>
        if h : width' = width then onVectors a (b.cast h) f else none
      | _, _ => none
  | [.bool c, x, y] =>
    if f = "ite" ∧ x.domain = y.domain then some (bif c then x else y) else none
  | _ => none

/-- The value of an atom, where a model gives the values of symbols. -/
def Atom.value? (model : String → Option Value) : Atom → Option Value
  | .symbol "true" => some (.bool true)
  | .symbol "false" => some (.bool false)
  | .symbol name => model name
  | .numeral n => some (.int n)
  | .hexadecimal digits =>
    (Text.ofHex? digits).map fun n => .bits (4 * digits.length) (BitVec.ofNat _ n)
  | .binary digits => some (.bits digits.length (BitVec.ofNat _ (Nat.ofDigitChars 2 digits 0)))
  | .keyword _ | .decimal _ | .text _ => none

mutual

/-- The value of an expression. -/
def SExpr.value? (D : DivisionByZero) (model : String → Option Value) : SExpr → Option Value
  | .atom a => a.value? model
  | .list (.atom (.symbol f) :: operands) => (values? D model operands).bind (interpret D f)
  | .list _ => none

def SExpr.values? (D : DivisionByZero) (model : String → Option Value) :
    List SExpr → Option (List Value)
  | [] => some []
  | e :: es => (value? D model e).bind fun x => (values? D model es).map (x :: ·)

end

end CoreProver.Smt

namespace CoreProver

open Smt

namespace Kind

/-- The sort of the values that stand for the scalars of a kind. -/
def domain : Kind → Domain
  | bool => .bool
  | integer => .int
  | signed width | unsigned width => .bitVec width

/-- The value that stands for a scalar of a kind. -/
def encode : Kind → Scalar → Smt.Value
  | bool, x => .bool x.truth
  | integer, x => .int x.int
  | signed width, x | unsigned width, x => .bits width (BitVec.ofInt width x.int)

@[simp] theorem domain_encode (k : Kind) (x : Scalar) : (k.encode x).domain = k.domain := by
  cases k <;> rfl

@[simp] theorem encode_bool (b : Bool) : Kind.bool.encode (.bool b) = .bool b := rfl

/-- The scalars of a signed kind are the vectors in two's complement. -/
theorem exists_vector_of_has_signed {width : Nat} {x : Scalar}
    (h : (signed width).has x = true) : ∃ v : BitVec width, x = .number v.toInt := by
  obtain ⟨hx, hwrap⟩ := eq_number_of_has rfl h
  refine ⟨BitVec.ofInt width x.int, ?_⟩
  rw [BitVec.toInt_ofInt, show x.int.bmod (2 ^ width) = x.int from hwrap]
  exact hx

/-- The scalars of an unsigned kind are the vectors as natural numbers. -/
theorem exists_vector_of_has_unsigned {width : Nat} {x : Scalar}
    (h : (unsigned width).has x = true) : ∃ v : BitVec width, x = .number v.toNat := by
  obtain ⟨hx, hwrap⟩ := eq_number_of_has rfl h
  have hmod : x.int % 2 ^ width = x.int := hwrap
  have hpos : (0 : Int) < 2 ^ width := Int.pow_pos (by decide)
  have hnonneg : 0 ≤ x.int := by
    rw [← hmod]
    exact Int.emod_nonneg _ (by omega)
  refine ⟨BitVec.ofInt width x.int, ?_⟩
  rw [BitVec.toNat_ofInt]
  push_cast
  rw [hmod, Int.toNat_of_nonneg hnonneg]
  exact hx

@[simp] theorem encode_signed_toInt {width : Nat} (v : BitVec width) :
    (signed width).encode (.number v.toInt) = .bits width v := by
  simp [encode]

@[simp] theorem encode_unsigned_toNat {width : Nat} (v : BitVec width) :
    (unsigned width).encode (.number v.toNat) = .bits width v := by
  simp [encode]

/-- Wrapping a number does not change the vector that stands for it. -/
@[simp] theorem encode_signed_number (width : Nat) (n : Int) :
    (signed width).encode ((signed width).number n) = .bits width (BitVec.ofInt width n) := by
  have h : BitVec.ofInt width (n.bmod (2 ^ width)) = BitVec.ofInt width n :=
    BitVec.eq_of_toInt_eq (by simp)
  exact congrArg (Smt.Value.bits width) h

@[simp] theorem encode_unsigned_number (width : Nat) (n : Int) :
    (unsigned width).encode ((unsigned width).number n) = .bits width (BitVec.ofInt width n) := by
  have h : BitVec.ofInt width (n % 2 ^ width) = BitVec.ofInt width n :=
    BitVec.eq_of_toNat_eq (by simp)
  exact congrArg (Smt.Value.bits width) h

/-- Different scalars of a kind are encoded as different values. -/
theorem encode_eq_encode_iff {k : Kind} {x y : Scalar} (hx : k.has x = true)
    (hy : k.has y = true) : k.encode x = k.encode y ↔ x = y := by
  refine ⟨fun h => ?_, fun h => by rw [h]⟩
  cases k with
  | bool =>
    rw [eq_bool_of_has hx, eq_bool_of_has hy] at h ⊢
    simpa using h
  | integer =>
    rw [(eq_number_of_has rfl hx).1, (eq_number_of_has rfl hy).1] at h ⊢
    simpa [encode] using h
  | signed width =>
    obtain ⟨v, rfl⟩ := exists_vector_of_has_signed hx
    obtain ⟨u, rfl⟩ := exists_vector_of_has_signed hy
    simp_all
  | unsigned width =>
    obtain ⟨v, rfl⟩ := exists_vector_of_has_unsigned hx
    obtain ⟨u, rfl⟩ := exists_vector_of_has_unsigned hy
    simp_all

end Kind

/-- The kind of what an operator makes of two scalars of a kind. -/
def BinaryOp.resultKind (op : BinaryOp) (k : Kind) : Kind :=
  if op.isComparison || op.isLogical then .bool else k

theorem Term.kind_binary (op : BinaryOp) (left right : Term) :
    (Term.binary op left right).kind = op.resultKind left.kind := rfl

/-- The kind of what an operator makes of a scalar of a kind. -/
def UnaryOp.resultKind : UnaryOp → Kind → Kind
  | .not, _ => .bool
  | .neg, k => k

theorem Term.kind_unary (op : UnaryOp) (operand : Term) :
    (Term.unary op operand).kind = op.resultKind operand.kind := by
  cases op <;> rfl

/-! ### Arithmetic on vectors -/

section vectors

variable {w : Nat} (x y : BitVec w)

theorem ofInt_toInt_sub : BitVec.ofInt w (x.toInt - y.toInt) = x - y := by
  rw [Int.sub_eq_add_neg, BitVec.ofInt_add, BitVec.ofInt_neg, BitVec.ofInt_toInt,
    BitVec.ofInt_toInt, BitVec.sub_eq_add_neg]

theorem ofInt_toNat_sub : BitVec.ofInt w ((x.toNat : Int) - y.toNat) = x - y := by
  rw [Int.sub_eq_add_neg, BitVec.ofInt_add, BitVec.ofInt_neg, BitVec.ofInt_natCast,
    BitVec.ofInt_natCast, BitVec.ofNat_toNat, BitVec.ofNat_toNat, BitVec.setWidth_eq,
    BitVec.setWidth_eq, BitVec.sub_eq_add_neg]

theorem ofInt_neg_one : BitVec.ofInt w (-1) = BitVec.allOnes w := by
  rw [BitVec.ofInt_neg, ← BitVec.neg_one_eq_allOnes]
  rfl

/-- Away from zero, the solver's signed quotient is the usual one. -/
theorem smtSDiv_of_ne_zero (h : y ≠ 0#w) : x.smtSDiv y = x.sdiv y := by
  have hneg : -y ≠ 0#w := by simpa using h
  rw [BitVec.smtSDiv_eq, BitVec.sdiv_eq]
  cases x.msb <;> cases y.msb <;> simp [BitVec.smtUDiv_eq, h, hneg]

theorem ofInt_signed_divide (D : DivisionByZero) :
    BitVec.ofInt w ((Kind.signed w).divide D x.toInt y.toInt) = x.smtSDiv y := by
  by_cases hy : y = 0#w
  · subst hy
    by_cases hx : x.toInt < 0
    · have hslt : x.slt 0#w = true := by simpa [BitVec.slt_iff_toInt_lt] using hx
      simp [Kind.divide, hx, hslt]
    · have hslt : x.slt 0#w = false := by
        simpa [← Bool.not_eq_true, BitVec.slt_iff_toInt_lt] using hx
      simp [Kind.divide, hx, hslt, ofInt_neg_one]
  · have hzero : y.toInt ≠ 0 := fun h => hy (BitVec.eq_of_toInt_eq (by simpa using h))
    rw [smtSDiv_of_ne_zero x y hy]
    refine BitVec.eq_of_toInt_eq ?_
    rw [BitVec.toInt_ofInt, BitVec.toInt_sdiv]
    simp [Kind.divide, hzero]

theorem ofInt_unsigned_divide (D : DivisionByZero) :
    BitVec.ofInt w ((Kind.unsigned w).divide D x.toNat y.toNat) = x.smtUDiv y := by
  by_cases hy : y = 0#w
  · subst hy
    simp [Kind.divide, ofInt_neg_one]
  · have hzero : (y.toNat : Int) ≠ 0 := by
      simpa [BitVec.toNat_eq] using hy
    rw [BitVec.smtUDiv_eq, if_neg hy]
    refine BitVec.eq_of_toNat_eq ?_
    rw [Kind.divide, if_neg hzero, ← Int.natCast_ediv, BitVec.ofInt_natCast, BitVec.toNat_ofNat,
      BitVec.toNat_udiv]
    exact Nat.mod_eq_of_lt (Nat.lt_of_le_of_lt (Nat.div_le_self _ _) x.isLt)

theorem ofInt_unsigned_residue (D : DivisionByZero) :
    BitVec.ofInt w ((Kind.unsigned w).residue D x.toNat y.toNat) = x % y := by
  rw [Kind.residue, ← Int.natCast_emod, BitVec.ofInt_natCast]
  refine BitVec.eq_of_toNat_eq ?_
  rw [BitVec.toNat_ofNat, BitVec.toNat_umod]
  exact Nat.mod_eq_of_lt (Nat.lt_of_le_of_lt (Nat.mod_le _ _) x.isLt)

theorem ofInt_signed_residue (D : DivisionByZero) :
    BitVec.ofInt w ((Kind.signed w).residue D x.toInt y.toInt) = x.srem y := by
  rw [Kind.residue, ← BitVec.toInt_srem, BitVec.ofInt_toInt]

theorem ofInt_signed_modulus (D : DivisionByZero) :
    BitVec.ofInt w ((Kind.signed w).modulus D x.toInt y.toInt) = x.smod y := by
  rw [Kind.modulus, ← BitVec.toInt_smod, BitVec.ofInt_toInt]

end vectors

/-! ### Symbols of operators -/

section operators

variable (D : DivisionByZero)

/-- Equality and its negation are those of the scalars, at every kind. -/
theorem interpret_eq {k : Kind} {x y : Scalar} (hx : k.has x = true) (hy : k.has y = true) :
    interpret D "=" [k.encode x, k.encode y] = some (.bool (x = y)) ∧
      interpret D "distinct" [k.encode x, k.encode y] = some (.bool (x ≠ y)) := by
  simp [interpret, Kind.encode_eq_encode_iff hx hy]

/-- On vectors of one width, a symbol that is no equality means the vector function. -/
theorem interpret_bits {width : Nat} {f : String} (x y : BitVec width) (h : f ≠ "=")
    (h' : f ≠ "distinct") : interpret D f [.bits width x, .bits width y] = onVectors x y f := by
  simp [interpret, h, h', Smt.Value.domain]

/-- Only equality and its negation have the symbols that all sorts share. -/
theorem BinaryOp.symbol_ne {op : BinaryOp} (k : Kind) (heq : op ≠ .eq) (hne : op ≠ .ne) :
    op.symbol k ≠ "=" ∧ op.symbol k ≠ "distinct" := by
  cases op with
  | eq => exact absurd rfl heq
  | ne => exact absurd rfl hne
  | add | sub | mul | div | rem | smod | lt | le | gt | ge | and | or | implies =>
    cases k <;> simp [symbol]

/-- At signed kinds, operators mean what their symbols mean on vectors in two's complement. -/
theorem BinaryOp.onVectors_symbol_signed {op : BinaryOp} {width : Nat} (x y : BitVec width)
    (hop : op.accepts (.signed width) (.signed width) = true) (heq : op ≠ .eq) (hne : op ≠ .ne) :
    onVectors x y (op.symbol (.signed width)) =
      some ((op.resultKind (.signed width)).encode
        (op.apply D (.signed width) (.number x.toInt) (.number y.toInt))) := by
  cases op with
  | eq => exact absurd rfl heq
  | ne => exact absurd rfl hne
  | and | or | implies => cases hop
  | lt | le | gt | ge => rfl
  | add | mul =>
    simp [onVectors, symbol, resultKind, isComparison, isLogical, apply, BitVec.ofInt_add,
      BitVec.ofInt_mul]
  | sub | div | rem | smod =>
    simp [onVectors, symbol, resultKind, isComparison, isLogical, apply, ofInt_toInt_sub,
      ofInt_signed_divide, ofInt_signed_residue, ofInt_signed_modulus]

/-- At unsigned kinds, operators mean what their symbols mean on vectors as natural numbers. -/
theorem BinaryOp.onVectors_symbol_unsigned {op : BinaryOp} {width : Nat} (x y : BitVec width)
    (hop : op.accepts (.unsigned width) (.unsigned width) = true) (heq : op ≠ .eq)
    (hne : op ≠ .ne) :
    onVectors x y (op.symbol (.unsigned width)) =
      some ((op.resultKind (.unsigned width)).encode
        (op.apply D (.unsigned width) (.number x.toNat) (.number y.toNat))) := by
  cases op with
  | eq => exact absurd rfl heq
  | ne => exact absurd rfl hne
  | and | or | implies => cases hop
  | lt | le | gt | ge =>
    simp [onVectors, symbol, resultKind, isComparison, isLogical, apply, BitVec.ult, BitVec.ule]
  | add | mul =>
    simp [onVectors, symbol, resultKind, isComparison, isLogical, apply, BitVec.ofInt_add,
      BitVec.ofInt_mul]
  | sub | div | rem | smod =>
    simp [onVectors, symbol, resultKind, isComparison, isLogical, apply, ofInt_toNat_sub,
      ofInt_unsigned_divide, ofInt_unsigned_residue, Kind.modulus]

theorem BinaryOp.interpret_symbol {op : BinaryOp} {k : Kind} {x y : Scalar}
    (hop : op.accepts k k = true) (hx : k.has x = true) (hy : k.has y = true) :
    interpret D (op.symbol k) [k.encode x, k.encode y] =
      some ((op.resultKind k).encode (op.apply D k x y)) := by
  rcases eq_or_ne op .eq with rfl | heq
  · exact (interpret_eq D hx hy).1
  rcases eq_or_ne op .ne with rfl | hne
  · exact (interpret_eq D hx hy).2
  obtain ⟨h, h'⟩ := symbol_ne k heq hne
  cases k with
  | bool =>
    rw [Kind.eq_bool_of_has hx, Kind.eq_bool_of_has hy]
    cases op with
    | and | or | implies => rfl
    | eq | ne => contradiction
    | add | sub | mul | div | rem | smod | lt | le | gt | ge => cases hop
  | integer =>
    rw [(Kind.eq_number_of_has rfl hx).1, (Kind.eq_number_of_has rfl hy).1]
    cases op with
    | eq | ne => contradiction
    | and | or | implies => cases hop
    | add | sub | mul | div | rem | smod | lt | le | gt | ge => rfl
  | signed width =>
    obtain ⟨v, rfl⟩ := Kind.exists_vector_of_has_signed hx
    obtain ⟨u, rfl⟩ := Kind.exists_vector_of_has_signed hy
    rw [Kind.encode_signed_toInt, Kind.encode_signed_toInt, interpret_bits D v u h h',
      onVectors_symbol_signed D v u hop heq hne]
  | unsigned width =>
    obtain ⟨v, rfl⟩ := Kind.exists_vector_of_has_unsigned hx
    obtain ⟨u, rfl⟩ := Kind.exists_vector_of_has_unsigned hy
    rw [Kind.encode_unsigned_toNat, Kind.encode_unsigned_toNat, interpret_bits D v u h h',
      onVectors_symbol_unsigned D v u hop heq hne]

theorem UnaryOp.interpret_symbol {op : UnaryOp} {k : Kind} {x : Scalar}
    (hop : op.accepts k = true) (hx : k.has x = true) :
    interpret D (op.symbol k) [k.encode x] = some ((op.resultKind k).encode (op.apply k x)) := by
  cases op with
  | not =>
    obtain rfl : k = .bool := of_decide_eq_true hop
    rfl
  | neg =>
    cases k with
    | bool => cases hop
    | integer => rfl
    | signed width =>
      obtain ⟨v, rfl⟩ := Kind.exists_vector_of_has_signed hx
      simp [symbol, Kind.isBitVector, interpret, resultKind, apply, BitVec.ofInt_neg]
    | unsigned width =>
      obtain ⟨v, rfl⟩ := Kind.exists_vector_of_has_unsigned hx
      simp [symbol, Kind.isBitVector, interpret, resultKind, apply, BitVec.ofInt_neg]

/-- The choice between two scalars of a kind is the choice between their values. -/
theorem interpret_ite {k : Kind} {c : Scalar} (hc : Kind.bool.has c = true) (x y : Scalar) :
    interpret D "ite" [Kind.bool.encode c, k.encode x, k.encode y] =
      some (k.encode (bif c.truth then x else y)) := by
  rw [Kind.eq_bool_of_has hc]
  cases c.truth <;> simp [interpret]

end operators

end CoreProver
