import CoreProver.Proofs.Smt.Rendering
import CoreProver.Proofs.WellSorted

/-!
# What the methods of numbers compute

The terms that the prelude builds for its methods denote, at every kind of numbers, the operations
that the methods are named after: division toward zero and toward minus infinity with their
remainders, the absolute value, the sign, and the smaller and the larger of two numbers. Vectors are
read by their kind, and results are taken modulo the number of vectors.
-/

namespace CoreProver

/-! ### Integers -/

/-- Division by magnitudes, negated when the signs differ, is division toward zero. -/
theorem tdiv_eq_of_magnitudes (x y : Int) :
    (if (0 ≤ x ↔ 0 ≤ y) then |x| / |y| else -(|x| / |y|)) = x.tdiv y := by
  by_cases hx : 0 ≤ x
  · rw [abs_of_nonneg hx, Int.tdiv_eq_ediv_of_nonneg hx]
    by_cases hy : 0 ≤ y
    · simp [hx, hy, abs_of_nonneg hy]
    · rw [abs_of_neg (by omega), Int.ediv_neg]
      simp [hx, hy]
  · have hneg : 0 ≤ -x := by omega
    rw [abs_of_neg (by omega)]
    by_cases hy : 0 ≤ y
    · rw [abs_of_nonneg hy, ← Int.tdiv_eq_ediv_of_nonneg hneg, Int.neg_tdiv]
      simp [hx, hy]
    · rw [abs_of_neg (by omega), ← Int.tdiv_eq_ediv_of_nonneg hneg, Int.neg_tdiv_neg]
      simp [hx, hy]

/-- Division toward minus infinity is Euclidean for a positive divisor, and a negative one can be
made positive. -/
theorem fdiv_eq_of_positive (x y : Int) : (if 0 ≤ y then x / y else -x / -y) = x.fdiv y := by
  by_cases hy : 0 ≤ y
  · rw [if_pos hy, Int.fdiv_eq_ediv_of_nonneg x hy]
  · rw [if_neg hy, ← Int.fdiv_eq_ediv_of_nonneg (-x) (by omega), Int.neg_fdiv_neg]

/-- Division toward minus infinity is one less than division toward zero when that is inexact and
the signs differ. -/
theorem fdiv_eq_of_inexact {x y : Int} (hy : y ≠ 0) :
    (if x.tmod y ≠ 0 ∧ ¬(x < 0 ↔ y < 0) then x.tdiv y - 1 else x.tdiv y) = x.fdiv y := by
  rw [Int.fdiv_eq_tdiv]
  by_cases hdvd : y ∣ x
  · simp [hdvd, Int.tmod_eq_zero_of_dvd hdvd]
  · have hinexact : x.tmod y ≠ 0 := fun h => hdvd (Int.dvd_of_tmod_eq_zero h)
    rcases Int.lt_or_gt_of_ne hy with hneg | hpos
    · have hsign : y.sign = -1 := Int.sign_eq_neg_one_of_neg hneg
      by_cases hx : 0 ≤ x
      · simp [hdvd, hinexact, hx, hneg]
      · simp [hdvd, hinexact, hx, hneg, hsign]
        omega
    · have hsign : y.sign = 1 := Int.sign_eq_one_of_pos hpos
      by_cases hx : 0 ≤ x <;> simp [hdvd, hinexact, hx, hsign] <;> omega

/-! ### Numbers of a kind -/

namespace Kind

@[simp] theorem wrap_zero (k : Kind) : k.wrap 0 = 0 := by cases k <;> simp [wrap]

theorem wrap_add_wrap (k : Kind) (m n : Int) :
    k.wrap (k.wrap m + k.wrap n) = k.wrap (m + n) := by
  cases k <;> simp [wrap]

theorem wrap_sub_wrap (k : Kind) (m n : Int) :
    k.wrap (k.wrap m - k.wrap n) = k.wrap (m - n) := by
  cases k <;> simp [wrap]

theorem wrap_mul_wrap (k : Kind) (m n : Int) :
    k.wrap (k.wrap m * k.wrap n) = k.wrap (m * n) := by
  cases k <;> simp [wrap, Int.mul_emod]

theorem wrap_neg_wrap (k : Kind) (n : Int) : k.wrap (-k.wrap n) = k.wrap (-n) := by
  simpa using k.wrap_sub_wrap 0 n

theorem nonneg_of_wrap_unsigned {width : Nat} {n : Int} (h : (unsigned width).wrap n = n) :
    0 ≤ n := by
  have hpos : (0 : Int) < 2 ^ width := Int.pow_pos (by decide)
  rw [← h]
  exact Int.emod_nonneg _ (by omega)

theorem wrap_tmod_signed {width : Nat} {x y : Int} (hx : (signed width).wrap x = x)
    (hy : (signed width).wrap y = y) : (signed width).wrap (x.tmod y) = x.tmod y := by
  have hvector : ∀ {n : Int}, (signed width).wrap n = n → (BitVec.ofInt width n).toInt = n :=
    fun h => by rw [BitVec.toInt_ofInt]; exact h
  rw [← hvector hx, ← hvector hy, ← BitVec.toInt_srem]
  exact BitVec.toInt_bmod_cancel _

end Kind

namespace Term

/-- The term is of the kind, and the number of the kind that it denotes stands for `n`. -/
structure IsNumber (D : DivisionByZero) (assignment : SymVar → Scalar) (t : Term) (k : Kind)
    (n : Int) : Prop where
  kind_eq : t.kind = k
  denote_eq : t.denote D assignment = k.number n

variable {D : DivisionByZero} {assignment : SymVar → Scalar} {k : Kind} {a b c : Term} {x y : Int}

namespace IsNumber

theorem int (n : Int) (k : Kind) : (Term.int n k).IsNumber D assignment k n := ⟨rfl, rfl⟩

theorem neg (ha : a.IsNumber D assignment k x) :
    (unary .neg a).IsNumber D assignment k (-x) where
  kind_eq := ha.kind_eq
  denote_eq := by
    simp [denote, UnaryOp.apply, ha.kind_eq, ha.denote_eq, Kind.number, Kind.wrap_neg_wrap]

theorem sub (ha : a.IsNumber D assignment k x) (hb : b.IsNumber D assignment k y) :
    (binary .sub a b).IsNumber D assignment k (x - y) where
  kind_eq := ha.kind_eq
  denote_eq := by
    simp [denote, BinaryOp.apply, ha.kind_eq, ha.denote_eq, hb.denote_eq, Kind.number,
      Kind.wrap_sub_wrap]

theorem mul (ha : a.IsNumber D assignment k x) (hb : b.IsNumber D assignment k y) :
    (binary .mul a b).IsNumber D assignment k (x * y) where
  kind_eq := ha.kind_eq
  denote_eq := by
    simp [denote, BinaryOp.apply, ha.kind_eq, ha.denote_eq, hb.denote_eq, Kind.number,
      Kind.wrap_mul_wrap]

theorem ite {p : Prop} [Decidable p] (hc : c.denote D assignment = .bool (decide p))
    (ha : a.IsNumber D assignment k x) (hb : b.IsNumber D assignment k y) :
    (Term.ite c a b).IsNumber D assignment k (if p then x else y) where
  kind_eq := ha.kind_eq
  denote_eq := by
    by_cases hp : p <;> simp [denote, hc, hp, ha.denote_eq, hb.denote_eq]

end IsNumber

/-- An operator denotes what it makes of the numbers that its operands denote. -/
theorem denote_binary_of_isNumber (op : BinaryOp) (ha : a.IsNumber D assignment k x)
    (hb : b.IsNumber D assignment k y) (hx : k.wrap x = x) (hy : k.wrap y = y) :
    (binary op a b).denote D assignment = op.apply D k (.number x) (.number y) := by
  rw [denote, ha.kind_eq, ha.denote_eq, hb.denote_eq, Kind.number, Kind.number, hx, hy]

/-! ### Terms of one number -/

section unary

variable (hk : k.isNumeric = true) (ha : a.IsNumber D assignment k x) (hx : k.wrap x = x)

include hk ha hx

theorem denote_isNegative : (isNegative k a).denote D assignment = .bool (x < 0) := by
  cases k with
  | bool => cases hk
  | integer | signed width => exact denote_binary_of_isNumber .lt ha (.int 0 _) hx (by simp)
  | unsigned width =>
    have hnonneg := Kind.nonneg_of_wrap_unsigned hx
    simp [isNegative, denote, hnonneg]

theorem IsNumber.absolute : (absolute k a).IsNumber D assignment k |x| := by
  have hnegative := denote_isNegative hk ha hx
  have habs : |x| = if x < 0 then -x else x := by
    split_ifs with h
    · exact abs_of_neg h
    · exact abs_of_nonneg (not_lt.1 h)
  cases k with
  | bool => cases hk
  | integer | signed width =>
    rw [habs]
    exact .ite hnegative ha.neg ha
  | unsigned width =>
    rw [abs_of_nonneg (Kind.nonneg_of_wrap_unsigned hx)]
    exact ha

theorem IsNumber.sign : (sign k a).IsNumber D assignment k x.sign := by
  have hnegative := denote_isNegative hk ha hx
  have hzero : (binary .eq a (.int 0 k)).denote D assignment = .bool (x = 0) := by
    rw [denote_binary_of_isNumber .eq ha (.int 0 k) hx (by simp)]
    simp [BinaryOp.apply]
  have hnonnegative : (Term.ite (binary .eq a (.int 0 k)) (.int 0 k) (.int 1 k)).IsNumber D
      assignment k (if x = 0 then 0 else 1) := .ite hzero (.int 0 k) (.int 1 k)
  have hsign : x.sign = if x < 0 then -1 else if x = 0 then 0 else 1 := by
    split_ifs with hneg heq
    · exact Int.sign_eq_neg_one_of_neg hneg
    · rw [heq, Int.sign_zero]
    · exact Int.sign_eq_one_of_pos (by omega)
  rw [hsign]
  cases k with
  | bool => cases hk
  | integer | signed width => exact .ite hnegative (.int (-1) _) hnonnegative
  | unsigned width =>
    rw [if_neg (not_lt.2 (Kind.nonneg_of_wrap_unsigned hx))]
    exact hnonnegative

end unary

/-! ### Terms of two numbers -/

section binary

variable (hk : k.isNumeric = true) (ha : a.IsNumber D assignment k x)
  (hb : b.IsNumber D assignment k y) (hx : k.wrap x = x) (hy : k.wrap y = y)

include ha hb hx hy

theorem IsNumber.minimum : (minimum a b).IsNumber D assignment k (min x y) := by
  rw [min_def]
  exact .ite (denote_binary_of_isNumber .le ha hb hx hy) ha hb

theorem IsNumber.maximum : (maximum a b).IsNumber D assignment k (max x y) := by
  rw [max_def]
  exact .ite (denote_binary_of_isNumber .le ha hb hx hy) hb ha

/-- The solver's division is the one of the kind. -/
theorem IsNumber.div : (binary .div a b).IsNumber D assignment k (k.divide D x y) :=
  ⟨ha.kind_eq, denote_binary_of_isNumber .div ha hb hx hy⟩

theorem IsNumber.rem : (binary .rem a b).IsNumber D assignment k (k.residue D x y) :=
  ⟨ha.kind_eq, denote_binary_of_isNumber .rem ha hb hx hy⟩

theorem IsNumber.smod : (binary .smod a b).IsNumber D assignment k (k.modulus D x y) :=
  ⟨ha.kind_eq, denote_binary_of_isNumber .smod ha hb hx hy⟩

include hk

variable (hne : y ≠ 0)

include hne

theorem IsNumber.quotient : (quotient k a b).IsNumber D assignment k (x.tdiv y) := by
  have hdiv := ha.div hb hx hy
  cases k with
  | bool => cases hk
  | integer =>
    have hmagnitude : (binary .div (Term.absolute .integer a) (Term.absolute .integer b)).IsNumber D
        assignment .integer (|x| / |y|) := by
      simpa [Kind.divide, hne] using (ha.absolute rfl rfl).div (hb.absolute rfl rfl) rfl rfl
    have hsame : (binary .eq (binary .ge a (.int 0 .integer))
        (binary .ge b (.int 0 .integer))).denote D assignment = .bool (0 ≤ x ↔ 0 ≤ y) := by
      simp [denote, BinaryOp.apply, ha.denote_eq, hb.denote_eq, Kind.number, Kind.wrap]
    rw [← tdiv_eq_of_magnitudes]
    exact .ite hsame hmagnitude hmagnitude.neg
  | signed width =>
    rw [Kind.divide, if_neg hne] at hdiv
    exact hdiv
  | unsigned width =>
    rw [Kind.divide, if_neg hne] at hdiv
    rw [Int.tdiv_eq_ediv_of_nonneg (Kind.nonneg_of_wrap_unsigned hx)]
    exact hdiv

theorem IsNumber.remainder : (remainder k a b).IsNumber D assignment k (x.tmod y) := by
  have hrem := ha.rem hb hx hy
  cases k with
  | bool => cases hk
  | integer =>
    rw [Int.tmod_def]
    exact ha.sub (hb.mul (ha.quotient rfl hb rfl rfl hne))
  | signed width => exact hrem
  | unsigned width =>
    rw [Int.tmod_eq_emod_of_nonneg (Kind.nonneg_of_wrap_unsigned hx)]
    exact hrem

theorem IsNumber.floorDiv : (floorDiv k a b).IsNumber D assignment k (x.fdiv y) := by
  have hdiv := ha.div hb hx hy
  cases k with
  | bool => cases hk
  | integer =>
    have hge := denote_binary_of_isNumber .ge hb (.int 0 .integer) hy rfl
    have hneg := ha.neg.div hb.neg rfl rfl
    rw [← fdiv_eq_of_positive]
    simp only [Kind.divide, hne, neg_eq_zero, if_false] at hdiv hneg
    exact .ite hge hdiv hneg
  | signed width =>
    have hrem := ha.rem hb hx hy
    have hinexact := denote_binary_of_isNumber .ne hrem (.int 0 _) (Kind.wrap_tmod_signed hx hy)
      (by simp)
    have hdiffer : (binary .ne (isNegative (.signed width) a) (isNegative (.signed width) b)).denote
        D assignment = .bool (¬(x < 0 ↔ y < 0)) := by
      rw [denote, denote_isNegative hk ha hx, denote_isNegative hk hb hy]
      simp [BinaryOp.apply]
    rw [Kind.divide, if_neg hne] at hdiv
    rw [← fdiv_eq_of_inexact hne]
    refine .ite ?_ (hdiv.sub (.int 1 _)) hdiv
    rw [denote, hinexact, hdiffer]
    simp [BinaryOp.apply, Kind.residue]
  | unsigned width =>
    rw [Kind.divide, if_neg hne] at hdiv
    rw [Int.fdiv_eq_ediv_of_nonneg _ (Kind.nonneg_of_wrap_unsigned hy)]
    exact hdiv

theorem IsNumber.floorMod : (floorMod k a b).IsNumber D assignment k (x.fmod y) := by
  cases k with
  | bool => cases hk
  | integer =>
    rw [Int.fmod_def]
    exact ha.sub (hb.mul (ha.floorDiv rfl hb rfl rfl hne))
  | signed width => exact ha.smod hb hx hy
  | unsigned width =>
    rw [Int.fmod_eq_emod_of_nonneg _ (Kind.nonneg_of_wrap_unsigned hy)]
    exact ha.rem hb hx hy

end binary

/-! ### Operands and results -/

/-- A well-kinded term of the kind, without vectors of no bits, whose variables stand for scalars of
their kinds. -/
structure Operand (assignment : SymVar → Scalar) (k : Kind) (t : Term) : Prop where
  kind_eq : t.kind = k
  wellKinded : t.wellKinded = true
  widths : ∀ j ∈ t.partKinds, j.width? ≠ some 0
  has : ∀ v ∈ t.occurrences, v.kind.has (assignment v) = true

/-- The term denotes the number at the kind, and so does its expression in every model of the
assignment. -/
structure Computes (D : DivisionByZero) (assignment : SymVar → Scalar) (t : Term) (k : Kind)
    (n : Int) : Prop extends t.IsNumber D assignment k n where
  solved : ∀ model : String → Option Smt.Value,
    (∀ v ∈ t.occurrences, model v.symbol = some (v.kind.encode (assignment v))) →
    t.expr.value? D model = some (k.encode (k.number n))

theorem Operand.computes (h : a.Operand assignment k) (hx : a.IsNumber D assignment k x) :
    a.Computes D assignment k x where
  toIsNumber := hx
  solved model hmodel := by
    rw [a.value?_expr D h.wellKinded h.widths h.has hmodel, hx.kind_eq, hx.denote_eq]

/-- An operand of a numeric kind denotes a number of the kind. -/
theorem Operand.wrap_eq (h : a.Operand assignment k) (hk : k.isNumeric = true)
    (hx : a.denote D assignment = .number x) : k.wrap x = x := by
  have hhas := a.has_denote D h.wellKinded h.has
  rw [h.kind_eq, hx] at hhas
  exact (Kind.eq_number_of_has hk hhas).2

theorem Operand.isNumber (h : a.Operand assignment k) (hk : k.isNumeric = true)
    (hx : a.denote D assignment = .number x) : a.IsNumber D assignment k x where
  kind_eq := h.kind_eq
  denote_eq := by rw [hx, Kind.number, h.wrap_eq hk hx]

end Term

/-- A method has only parts of its kind besides truth values and the parts of its operand. -/
theorem UnaryMethod.mem_partKinds_term (m : UnaryMethod) {k j : Kind} {a : Term} (ha : a.kind = k)
    (hj : j ∈ (m.term k a).partKinds) : j = .bool ∨ j = k ∨ j ∈ a.partKinds := by
  cases m <;> cases k <;>
    simp [term, Term.absolute, Term.sign, Term.isNegative, Term.partKinds, Term.kind,
      BinaryOp.isComparison, ha] at hj <;>
    tauto

theorem BinaryMethod.mem_partKinds_term (m : BinaryMethod) {k j : Kind} {a b : Term}
    (ha : a.kind = k) (hb : b.kind = k) (hj : j ∈ (m.term k a b).partKinds) :
    j = .bool ∨ j = k ∨ j ∈ a.partKinds ∨ j ∈ b.partKinds := by
  cases m <;> cases k <;>
    simp [term, Term.quotient, Term.remainder, Term.floorDiv, Term.floorMod, Term.minimum,
      Term.maximum, Term.absolute, Term.isNegative, Term.partKinds, Term.kind,
      BinaryOp.isComparison, BinaryOp.isLogical, ha, hb] at hj <;>
    tauto

theorem Term.kind_mem_partKinds (t : Term) : t.kind ∈ t.partKinds := by
  cases t <;> simp [partKinds]

section operands

variable {assignment : SymVar → Scalar} {k : Kind} (hk : k.isNumeric = true) {a b : Term}
  (ha : a.Operand assignment k)

include hk ha

theorem UnaryMethod.operand_term (m : UnaryMethod) : (m.term k a).Operand assignment k where
  kind_eq := m.kind_term ha.kind_eq
  wellKinded := m.wellKinded_term hk ha.kind_eq ha.wellKinded
  widths j hj := by
    rcases m.mem_partKinds_term ha.kind_eq hj with rfl | rfl | hj
    · simp [Kind.width?]
    · exact ha.kind_eq ▸ ha.widths _ a.kind_mem_partKinds
    · exact ha.widths j hj
  has v hv := ha.has v (m.occurrences_term k a v hv)

theorem BinaryMethod.operand_term (m : BinaryMethod) (hm : m.resultKind k = k)
    (hb : b.Operand assignment k) : (m.term k a b).Operand assignment k where
  kind_eq := (m.kind_term ha.kind_eq hb.kind_eq).trans hm
  wellKinded := m.wellKinded_term hk ha.kind_eq ha.wellKinded hb.kind_eq hb.wellKinded
  widths j hj := by
    rcases m.mem_partKinds_term ha.kind_eq hb.kind_eq hj with rfl | rfl | hj | hj
    · simp [Kind.width?]
    · exact ha.kind_eq ▸ ha.widths _ a.kind_mem_partKinds
    · exact ha.widths j hj
    · exact hb.widths j hj
  has v hv := (m.occurrences_term k a b v hv).elim (ha.has v) (hb.has v)

end operands

/-! ### Methods by name -/

/-- What a value makes of scalars that are given one by one. -/
def Value.applied? {F : Type} [Foreign F] : Value F → List Term → Option Term
  | .scalar t, [] => some t
  | .function op, t :: ts =>
    match op.call (.scalar t) with
    | .ok value => value.applied? ts
    | .error _ => none
  | _, _ => none

namespace Prelude

/-- What the method of a name at a kind makes of its operands. -/
def method? (k : Kind) (name : String) (operands : List Term) : Option Term :=
  ((numbers k : Frame Empty).lookup? ⟨name, k⟩).bind (·.applied? operands)

theorem method?_unary (m : UnaryMethod) {k : Kind} {a : Term} (ha : a.kind = k) :
    method? k m.name [a] = some (m.term k a) := by
  cases m <;>
    simp [method?, numbers, Frame.lookup?, UnaryMethod.all, unaryMethod, UnaryMethod.name,
      Value.applied?, Operation.call, Value.expect, ha, Except.map]

theorem method?_binary (m : BinaryMethod) {k : Kind} {a b : Term} (ha : a.kind = k)
    (hb : b.kind = k) : method? k m.name [a, b] = some (m.term k a b) := by
  cases m <;>
    simp [method?, numbers, Frame.lookup?, UnaryMethod.all, unaryMethod, UnaryMethod.name,
      BinaryMethod.numeric, binaryMethod, BinaryMethod.name, Value.applied?, Operation.call,
      Value.expect, ha, hb, Except.map]

/-- The method of a name computes the number from its operands. -/
def Computes (D : DivisionByZero) (assignment : SymVar → Scalar) (k : Kind) (name : String)
    (operands : List Term) (n : Int) : Prop :=
  ∃ t, method? k name operands = some t ∧ t.Computes D assignment k n

variable {D : DivisionByZero} {assignment : SymVar → Scalar} {k : Kind} {a b : Term} {n x y : Int}

theorem computes_unary (m : UnaryMethod) (hk : k.isNumeric = true) (ha : a.Operand assignment k)
    (h : (m.term k a).IsNumber D assignment k n) : Computes D assignment k m.name [a] n :=
  ⟨_, method?_unary m ha.kind_eq, (m.operand_term hk ha).computes h⟩

theorem computes_binary (m : BinaryMethod) (hm : m.resultKind k = k) (hk : k.isNumeric = true)
    (ha : a.Operand assignment k) (hb : b.Operand assignment k)
    (h : (m.term k a b).IsNumber D assignment k n) : Computes D assignment k m.name [a, b] n :=
  ⟨_, method?_binary m ha.kind_eq hb.kind_eq, (m.operand_term hk ha hm hb).computes h⟩

/-- At every kind of numbers, the methods compute the operations that they are named after; at the
vectors modulo their number. Quotient and remainder make up the dividend, for both ways to round. -/
theorem methods_compute_named_operations (D : DivisionByZero) (hk : k.isNumeric = true)
    (ha : a.Operand assignment k) (hb : b.Operand assignment k)
    (hx : a.denote D assignment = .number x) (hy : b.denote D assignment = .number y) :
    (a.Computes D assignment k x ∧ b.Computes D assignment k y) ∧
    (y ≠ 0 →
      (Computes D assignment k "quot" [a, b] (x.tdiv y) ∧
        Computes D assignment k "rem" [a, b] (x.tmod y) ∧
        Computes D assignment k "div" [a, b] (x.fdiv y) ∧
        Computes D assignment k "mod" [a, b] (x.fmod y)) ∧
      k.wrap (y * k.wrap (x.tdiv y) + k.wrap (x.tmod y)) = x ∧
      k.wrap (y * k.wrap (x.fdiv y) + k.wrap (x.fmod y)) = x) ∧
    Computes D assignment k "abs" [a] |x| ∧
    Computes D assignment k "signum" [a] x.sign ∧
    Computes D assignment k "min" [a, b] (min x y) ∧
    Computes D assignment k "max" [a, b] (max x y) := by
  have hwx := ha.wrap_eq hk hx
  have hwy := hb.wrap_eq hk hy
  have hnx := ha.isNumber hk hx
  have hny := hb.isNumber hk hy
  -- wrapping the quotient and the remainder first makes no difference
  have hidentity (q r : Int) (h : y * q + r = x) : k.wrap (y * k.wrap q + k.wrap r) = x := by
    rw [← k.wrap_add_wrap, k.wrap_wrap, ← hwy, k.wrap_mul_wrap, k.wrap_add_wrap, h, hwx]
  refine ⟨⟨ha.computes hnx, hb.computes hny⟩, fun hne => ⟨⟨?_, ?_, ?_, ?_⟩,
    hidentity _ _ (Int.mul_tdiv_add_tmod x y), hidentity _ _ (Int.mul_fdiv_add_fmod x y)⟩,
    ?_, ?_, ?_, ?_⟩
  · exact computes_binary .quot rfl hk ha hb (hnx.quotient hk hny hwx hwy hne)
  · exact computes_binary .rem rfl hk ha hb (hnx.remainder hk hny hwx hwy hne)
  · exact computes_binary .div rfl hk ha hb (hnx.floorDiv hk hny hwx hwy hne)
  · exact computes_binary .mod rfl hk ha hb (hnx.floorMod hk hny hwx hwy hne)
  · exact computes_unary .abs hk ha (hnx.absolute hk hwx)
  · exact computes_unary .signum hk ha (hnx.sign hk hwx)
  · exact computes_binary .min rfl hk ha hb (hnx.minimum hny hwx hwy)
  · exact computes_binary .max rfl hk ha hb (hnx.maximum hny hwx hwy)

/-- The least vector of eight bits, to be divided by minus one. -/
def leastByMinusOne (v : SymVar) : Scalar := .number (if v.id = 0 then -128 else -1)

/-- The quotient of the least vector by minus one, and its absolute value, are the vector again. -/
theorem methods_compute_named_operations_of_leastByMinusOne :
    (Kind.signed 8).wrap 128 = -128 ∧ ∀ D : DivisionByZero,
      Computes D leastByMinusOne (.signed 8) "quot" [operand (.signed 8) 0, operand (.signed 8) 1]
        128 ∧
      Computes D leastByMinusOne (.signed 8) "rem" [operand (.signed 8) 0, operand (.signed 8) 1]
        0 ∧
      Computes D leastByMinusOne (.signed 8) "abs" [operand (.signed 8) 0] 128 := by
  refine ⟨by decide, fun D => ?_⟩
  have ha : (operand (.signed 8) 0).Operand leastByMinusOne (.signed 8) :=
    ⟨rfl, rfl, by decide, by decide⟩
  have hb : (operand (.signed 8) 1).Operand leastByMinusOne (.signed 8) :=
    ⟨rfl, rfl, by decide, by decide⟩
  obtain ⟨-, hdivision, habs, -⟩ := methods_compute_named_operations D rfl ha hb rfl rfl
  obtain ⟨⟨hquot, hrem, -⟩, -⟩ := hdivision (by decide)
  exact ⟨hquot, hrem, habs⟩

end Prelude

end CoreProver
