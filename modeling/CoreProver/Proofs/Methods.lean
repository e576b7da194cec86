import CoreProver.Prelude
import CoreProver.Proofs.Denotation

/-!
# The methods of the prelude

What the terms of the methods have for kinds and variables, and what they denote. A method denotes
one function of scalars at each kind, whatever terms it is given.
-/

namespace CoreProver

section Calls

variable {F : Type} [Foreign F]

theorem Value.expect_eq_ok_iff (function : String) (kind : Kind) (v : Value F) (t : Term) :
    v.expect function kind = .ok t ↔ v = .scalar t ∧ t.kind = kind := by
  cases v with
  | scalar u =>
    by_cases hk : u.kind = kind
    · simp only [expect, hk, if_true, Except.ok.injEq, Value.scalar.injEq]
      exact ⟨fun h => ⟨h, h ▸ hk⟩, And.left⟩
    · simp only [expect, hk, if_false, reduceCtorEq, Value.scalar.injEq, false_iff, not_and]
      exact fun h => h ▸ hk
  | function f => simp [expect]

namespace Operation

variable {name : String} {kind : Kind} {v value : Value F}

/-- A function of one scalar returns a value exactly for the scalars of its kind. -/
theorem call_unary_eq_ok_iff {f : Term → Term} :
    (unary name kind f).call v = .ok value ↔
      ∃ t, v = .scalar t ∧ t.kind = kind ∧ value = .scalar (f t) := by
  simp only [← and_assoc, ← v.expect_eq_ok_iff name, call]
  cases v.expect name kind <;> simp [Except.map, eq_comm]

/-- A function of two scalars takes the first one, of its kind, and waits for the second. -/
theorem call_binary_eq_ok_iff {f : Term → Term → Term} :
    (binary name kind f).call v = .ok value ↔
      ∃ t, v = .scalar t ∧ t.kind = kind ∧ value = .function (.unary name kind (f t)) := by
  simp only [← and_assoc, ← v.expect_eq_ok_iff name, call]
  cases v.expect name kind <;> simp [Except.map, eq_comm]

end Operation

end Calls

def BinaryMethod.resultKind (kind : Kind) : BinaryMethod → Kind
  | eq | ne | lt | le | gt | ge => .bool
  | add | sub | mul | quot | rem | div | mod | min | max => kind

theorem UnaryMethod.kind_term (m : UnaryMethod) {kind : Kind} {t : Term} (ht : t.kind = kind) :
    (m.term kind t).kind = kind := by
  cases m <;> cases kind <;> simp [term, Term.absolute, Term.sign, Term.kind, ht]

theorem BinaryMethod.kind_term (m : BinaryMethod) {kind : Kind} {t u : Term}
    (ht : t.kind = kind) (hu : u.kind = kind) : (m.term kind t u).kind = m.resultKind kind := by
  cases m <;> cases kind <;>
    simp [term, resultKind, Term.quotient, Term.remainder, Term.floorDiv, Term.floorMod,
      Term.minimum, Term.maximum, Term.absolute, Term.kind, BinaryOp.isComparison,
      BinaryOp.isLogical, ht, hu]

/-- A method brings in no variables. -/
theorem UnaryMethod.occurrences_term (m : UnaryMethod) (kind : Kind) (t : Term) (v : SymVar)
    (h : v ∈ (m.term kind t).occurrences) : v ∈ t.occurrences := by
  cases m <;> cases kind <;>
    simp_all [term, Term.absolute, Term.sign, Term.isNegative, Term.occurrences]

theorem BinaryMethod.occurrences_term (m : BinaryMethod) (kind : Kind) (t u : Term) (v : SymVar)
    (h : v ∈ (m.term kind t u).occurrences) : v ∈ t.occurrences ∨ v ∈ u.occurrences := by
  cases m <;> cases kind <;>
    simp [term, Term.quotient, Term.remainder, Term.floorDiv, Term.floorMod, Term.minimum,
      Term.maximum, Term.absolute, Term.isNegative, Term.occurrences] at h <;>
    tauto

/-- What holds of truth values, of numbers and of the methods holds of all values of the prelude. -/
theorem Prelude.forall_standard {F : Type} {P : Value F → Prop}
    (hbool : ∀ b, P (.scalar (.bool b)))
    (hint : ∀ n, ∀ kind ∈ numericKinds, P (.scalar (.int n kind)))
    (hunary : ∀ kind ∈ numericKinds, ∀ m, P (unaryMethod kind m).2)
    (hbinary : ∀ kind m, kind = .bool ∧ m ∈ BinaryMethod.boolean ∨ kind ∈ numericKinds →
      P (binaryMethod kind m).2) (e : Key × Value F) (he : e ∈ standard.globals) : P e.2 := by
  simp only [standard, booleans, numbers, List.mem_append, List.mem_cons, List.not_mem_nil,
    or_false, List.mem_map, List.mem_flatMap] at he
  rcases he with ((rfl | rfl) | ⟨m, hm, rfl⟩) |
    ⟨kind, hk, ((rfl | rfl) | ⟨m, -, rfl⟩) | ⟨m, -, rfl⟩⟩
  · exact hbool true
  · exact hbool false
  · exact hbinary .bool m (.inl ⟨rfl, hm⟩)
  · exact hint 0 kind hk
  · exact hint 1 kind hk
  · exact hunary kind hk m
  · exact hbinary kind m (.inr hk)

/-- A variable that stands for an operand of a method. -/
def operand (kind : Kind) (position : Nat) : Term := .var ⟨position, "", kind, .parameter⟩

/-- The function that a method's term denotes at a kind. -/
def UnaryMethod.function (D : DivisionByZero) (m : UnaryMethod) (kind : Kind) (x : Scalar) :
    Scalar :=
  (m.term kind (operand kind 0)).denote D fun _ => x

/-- The function that a method's term denotes at a kind. -/
def BinaryMethod.function (D : DivisionByZero) (m : BinaryMethod) (kind : Kind) (x y : Scalar) :
    Scalar :=
  (m.term kind (operand kind 0) (operand kind 1)).denote D fun v => if v.id = 0 then x else y

/-- A method denotes its function of what its operand denotes. -/
theorem UnaryMethod.denote_term (D : DivisionByZero) (assignment : SymVar → Scalar)
    (m : UnaryMethod) {kind : Kind} {t : Term} (ht : t.kind = kind) :
    (m.term kind t).denote D assignment = m.function D kind (t.denote D assignment) := by
  cases m <;> cases kind <;>
    simp [function, operand, term, Term.absolute, Term.sign, Term.isNegative, Term.denote,
      Term.kind, ht]

/-- A method denotes its function of what its operands denote. -/
theorem BinaryMethod.denote_term (D : DivisionByZero) (assignment : SymVar → Scalar)
    (m : BinaryMethod) {kind : Kind} {t u : Term} (ht : t.kind = kind) (hu : u.kind = kind) :
    (m.term kind t u).denote D assignment =
      m.function D kind (t.denote D assignment) (u.denote D assignment) := by
  cases m <;> cases kind <;>
    simp [function, operand, term, Term.quotient, Term.remainder, Term.floorDiv, Term.floorMod,
      Term.minimum, Term.maximum, Term.absolute, Term.isNegative, Term.denote, Term.kind,
      BinaryOp.isComparison, BinaryOp.isLogical, ht, hu]

end CoreProver
