import CoreProver.Proofs.Arithmetic
import CoreProver.Proofs.Run.Provenance

/-!
# Strict evaluation

A solver gives every division a result, also a division by zero. Strict evaluation does not: it
evaluates all parts of a term, the branch that is not taken included, and comes to nothing if one of
the divisors is zero. The safety conditions of a term are terms for the solver, so they may divide
by zero themselves. Nevertheless, whatever a division by zero results in, they hold exactly when
strict evaluation has a result.
-/

namespace CoreProver

/-- What an operator makes of two scalars of a kind, but nothing of a division by zero. What that
would result in does not matter otherwise. -/
def BinaryOp.strict? (k : Kind) (x y : Scalar) (op : BinaryOp) : Option Scalar :=
  match op with
  | .div | .rem | .smod => if y.int = 0 then none else some (op.apply ⟨id, id⟩ k x y)
  | _ => some (op.apply ⟨id, id⟩ k x y)

/-- Where an operator is defined, it makes the same of its operands for every solver. -/
theorem BinaryOp.strict?_eq_some_iff (D : DivisionByZero) (op : BinaryOp) (k : Kind)
    (x y z : Scalar) :
    op.strict? k x y = some z ↔ (op.isPartial = true → y.int ≠ 0) ∧ op.apply D k x y = z := by
  cases op with
  | div | rem | smod =>
    by_cases hy : y.int = 0
    · simp [strict?, isPartial, hy]
    · cases k <;> simp [strict?, isPartial, apply, Kind.divide, Kind.residue, Kind.modulus, hy]
  | add | sub | mul | eq | ne | lt | le | gt | ge | and | or | implies =>
    simp [strict?, isPartial, apply]

namespace Term

/-- The scalar that a term has under strict evaluation. -/
def strict? (assignment : SymVar → Scalar) : Term → Option Scalar
  | var v => some (assignment v)
  | bool value => some (.bool value)
  | int value kind => some (kind.number value)
  | unary op operand => (operand.strict? assignment).map fun x => op.apply operand.kind x
  | binary op left right =>
    (left.strict? assignment).bind fun x => (right.strict? assignment).bind fun y =>
      op.strict? left.kind x y
  | ite condition yes no =>
    (condition.strict? assignment).bind fun c => (yes.strict? assignment).bind fun x =>
      (no.strict? assignment).map fun y => bif c.truth then x else y

/-- What a term divides by, if it is a division. -/
def divisor? : Term → Option Term
  | binary .div _ divisor | binary .rem _ divisor | binary .smod _ divisor => some divisor
  | _ => none

/-- What the divisions in a term divide by, wherever they stand in it. -/
def divisors (t : Term) : List Term := t.parts.filterMap divisor?

theorem divisionConditions_eq_map (t : Term) : t.divisionConditions = t.divisors.map nonzero := by
  induction t with
  | var _ | bool _ | int _ _ => rfl
  | unary op operand ih =>
    simpa [divisionConditions, divisors, parts, List.filterMap_cons, divisor?] using ih
  | binary op left right ihl ihr =>
    rw [divisionConditions, ihl, ihr]
    cases op <;> simp [BinaryOp.isPartial, divisors, parts, List.filterMap_cons, divisor?]
  | ite condition yes no ihc ihy ihn =>
    rw [divisionConditions, ihc, ihy, ihn]
    simp [divisors, parts, List.filterMap_cons, divisor?]

/-- The conjunction of the conditions is trivial only for a term without divisions. -/
theorem all_safetyConditions_eq_true_iff_divisors (t : Term) :
    all t.safetyConditions = .bool true ↔ t.divisors = [] := by
  rw [all_safetyConditions_eq_true_iff, List.eq_nil_iff_forall_not_mem,
    List.eq_nil_iff_forall_not_mem]
  simp [safetyConditions, divisionConditions_eq_map]

section

variable (D : DivisionByZero) (assignment : SymVar → Scalar)

/-- The solver finds the safety conditions of a term to hold. -/
def Safe (t : Term) : Prop := ∀ c ∈ t.safetyConditions, c.denote D assignment = .bool true

variable {D assignment}

theorem denote_all_eq_true_iff (ts : List Term) :
    (all ts).denote D assignment = .bool true ↔ ∀ t ∈ ts, t.denote D assignment = .bool true := by
  refine all_induction (P := fun ts t => t.denote D assignment = .bool true ↔
    ∀ u ∈ ts, u.denote D assignment = .bool true) ?_ ?_ ?_ ts
  · simp [denote]
  · simp
  · intro ts t u ih
    rw [List.forall_mem_append, List.forall_mem_singleton, ← ih]
    simp [denote, BinaryOp.apply, Scalar.truth_eq_true_iff]

theorem denote_nonzero_eq_true_iff (t : Term) :
    (nonzero t).denote D assignment = .bool true ↔ t.denote D assignment ≠ .number 0 := by
  simp [nonzero, denote, BinaryOp.apply, Kind.number]

/-! ### Conditions of the parts -/

@[simp] theorem safe_var (v : SymVar) : (var v).Safe D assignment := by
  simp [Safe, safetyConditions, divisionConditions]

@[simp] theorem safe_bool (value : Bool) : (bool value).Safe D assignment := by
  simp [Safe, safetyConditions, divisionConditions]

@[simp] theorem safe_int (value : Int) (kind : Kind) : (int value kind).Safe D assignment := by
  simp [Safe, safetyConditions, divisionConditions]

@[simp] theorem safe_unary (op : UnaryOp) (t : Term) :
    (unary op t).Safe D assignment ↔ t.Safe D assignment := Iff.rfl

@[simp] theorem safe_binary (op : BinaryOp) (t u : Term) :
    (binary op t u).Safe D assignment ↔
      (op.isPartial = true → u.denote D assignment ≠ .number 0) ∧ t.Safe D assignment ∧
        u.Safe D assignment := by
  rw [← denote_nonzero_eq_true_iff]
  cases hop : op.isPartial <;>
    simp [Safe, safetyConditions, divisionConditions, hop, or_imp, forall_and]

@[simp] theorem safe_ite (t u v : Term) :
    (ite t u v).Safe D assignment ↔
      t.Safe D assignment ∧ u.Safe D assignment ∧ v.Safe D assignment := by
  simp [Safe, safetyConditions, divisionConditions, or_imp, forall_and]

/-! ### Strict evaluation and the solver -/

/-- A well-kinded term of a numeric kind denotes a number of the kind. -/
theorem isNumber_of_wellKinded {t : Term} (ht : t.wellKinded = true)
    (hv : ∀ v ∈ t.occurrences, v.kind.has (assignment v) = true) {k : Kind}
    (hk : k.isNumeric = true) (hkind : t.kind = k) :
    ∃ n, t.denote D assignment = .number n ∧ k.wrap n = n ∧ t.IsNumber D assignment k n := by
  have hhas := t.has_denote D ht hv
  rw [hkind] at hhas
  obtain ⟨hnumber, hwrap⟩ := Kind.eq_number_of_has hk hhas
  refine ⟨_, hnumber, hwrap, hkind, ?_⟩
  rw [Kind.number, hwrap]
  exact hnumber

/-- Strict evaluation has a result exactly when the conditions hold, and then it is what the solver
takes the term for. -/
theorem strict?_eq_some_iff (D : DivisionByZero) {t : Term} (ht : t.wellKinded = true)
    (hv : ∀ v ∈ t.occurrences, v.kind.has (assignment v) = true) (x : Scalar) :
    t.strict? assignment = some x ↔ t.Safe D assignment ∧ t.denote D assignment = x := by
  induction t generalizing x with
  | var _ | bool _ | int _ _ => simp [strict?, denote]
  | unary op operand ih =>
    simp only [wellKinded, Bool.and_eq_true] at ht
    simp only [strict?, Option.map_eq_some_iff, ih ht.1 hv, safe_unary, denote]
    constructor
    · rintro ⟨y, ⟨hsafe, rfl⟩, rfl⟩
      exact ⟨hsafe, rfl⟩
    · rintro ⟨hsafe, rfl⟩
      exact ⟨_, ⟨hsafe, rfl⟩, rfl⟩
  | binary op left right ihl ihr =>
    simp only [wellKinded, Bool.and_eq_true] at ht
    obtain ⟨⟨hl, hr⟩, ha⟩ := ht
    simp only [occurrences, List.mem_append] at hv
    have hvr : ∀ v ∈ right.occurrences, v.kind.has (assignment v) = true :=
      fun v h => hv v (.inr h)
    -- what is divided by is a number, and strict evaluation looks only at the number
    have hzero : op.isPartial = true → ((right.denote D assignment).int ≠ 0 ↔
        right.denote D assignment ≠ .number 0) := by
      intro hop
      obtain ⟨n, hn, -⟩ := isNumber_of_wellKinded (D := D) hr hvr
        (op.isNumeric_of_isPartial hop ha) rfl
      simp [hn]
    simp only [strict?, Option.bind_eq_some_iff, ihl hl fun v h => hv v (.inl h), ihr hr hvr,
      BinaryOp.strict?_eq_some_iff D, safe_binary, denote]
    constructor
    · rintro ⟨y, ⟨hsl, rfl⟩, z, ⟨hsr, rfl⟩, hne, rfl⟩
      exact ⟨⟨fun hop => (hzero hop).1 (hne hop), hsl, hsr⟩, rfl⟩
    · rintro ⟨⟨hne, hsl, hsr⟩, rfl⟩
      exact ⟨_, ⟨hsl, rfl⟩, _, ⟨hsr, rfl⟩, fun hop => (hzero hop).2 (hne hop), rfl⟩
  | ite condition yes no ihc ihy ihn =>
    simp only [wellKinded, Bool.and_eq_true] at ht
    obtain ⟨⟨⟨⟨hc, hy⟩, hn⟩, -⟩, -⟩ := ht
    simp only [occurrences, List.mem_append] at hv
    simp only [strict?, Option.bind_eq_some_iff, Option.map_eq_some_iff,
      ihc hc fun v h => hv v (.inl (.inl h)), ihy hy fun v h => hv v (.inl (.inr h)),
      ihn hn fun v h => hv v (.inr h), safe_ite, denote]
    constructor
    · rintro ⟨c, ⟨hsc, rfl⟩, y, ⟨hsy, rfl⟩, n, ⟨hsn, rfl⟩, rfl⟩
      exact ⟨⟨hsc, hsy, hsn⟩, rfl⟩
    · rintro ⟨⟨hsc, hsy, hsn⟩, rfl⟩
      exact ⟨_, ⟨hsc, rfl⟩, _, ⟨hsy, rfl⟩, _, ⟨hsn, rfl⟩, rfl⟩

theorem isSome_strict?_iff (D : DivisionByZero) {t : Term} (ht : t.wellKinded = true)
    (hv : ∀ v ∈ t.occurrences, v.kind.has (assignment v) = true) :
    (t.strict? assignment).isSome = true ↔ t.Safe D assignment := by
  simp [Option.isSome_iff_exists, strict?_eq_some_iff D ht hv]

/-! ### Divisions of the prelude -/

theorem safe_isNegative (k : Kind) (a : Term) (ha : a.Safe D assignment) :
    (isNegative k a).Safe D assignment := by
  cases k <;> simp [isNegative, BinaryOp.isPartial, ha]

theorem safe_absolute (k : Kind) (a : Term) :
    (absolute k a).Safe D assignment ↔ a.Safe D assignment := by
  cases k with
  | unsigned width => rfl
  | bool | integer | signed width =>
    simp only [absolute, safe_ite, safe_unary, and_self]
    exact ⟨And.right, fun ha => ⟨safe_isNegative _ a ha, ha⟩⟩

section divisions

variable {k : Kind} (hk : k.isNumeric = true) (a : Term) {b : Term} {y : Int}
  (hb : b.IsNumber D assignment k y)

include hk hb

/-- Integers are divided by the magnitude of the divisor, which is zero only if the divisor is. -/
theorem safe_quotient :
    (quotient k a b).Safe D assignment ↔
      a.Safe D assignment ∧ b.Safe D assignment ∧ b.denote D assignment ≠ .number 0 := by
  cases k with
  | bool => cases hk
  | integer =>
    have habs : (absolute .integer b).denote D assignment = .number 0 ↔
        b.denote D assignment = .number 0 := by
      simp [(hb.absolute rfl rfl).denote_eq, hb.denote_eq, Kind.number, Kind.wrap]
    simp only [quotient, safe_ite, safe_binary, safe_unary, safe_int, safe_absolute,
      BinaryOp.isPartial, ne_eq, habs]
    tauto
  | signed width | unsigned width =>
    simp only [quotient, safe_binary, BinaryOp.isPartial, true_imp_iff]
    tauto

theorem safe_remainder :
    (remainder k a b).Safe D assignment ↔
      a.Safe D assignment ∧ b.Safe D assignment ∧ b.denote D assignment ≠ .number 0 := by
  have hquotient := safe_quotient hk a hb
  cases k with
  | bool => cases hk
  | integer =>
    simp only [remainder, safe_binary, BinaryOp.isPartial, hquotient]
    tauto
  | signed width | unsigned width =>
    simp only [remainder, safe_binary, BinaryOp.isPartial, true_imp_iff]
    tauto

/-- Integers are also divided by the negated divisor. -/
theorem safe_floorDiv :
    (floorDiv k a b).Safe D assignment ↔
      a.Safe D assignment ∧ b.Safe D assignment ∧ b.denote D assignment ≠ .number 0 := by
  cases k with
  | bool => cases hk
  | integer =>
    have hneg : (unary .neg b).denote D assignment = .number 0 ↔
        b.denote D assignment = .number 0 := by
      simp [hb.neg.denote_eq, hb.denote_eq, Kind.number, Kind.wrap]
    simp only [floorDiv, safe_ite, safe_binary, safe_unary, safe_int, BinaryOp.isPartial, ne_eq,
      hneg]
    tauto
  | signed width =>
    simp only [floorDiv, isNegative, safe_ite, safe_binary, safe_int, BinaryOp.isPartial,
      Bool.false_eq_true, false_imp_iff, true_imp_iff, true_and, and_true]
    tauto
  | unsigned width =>
    simp only [floorDiv, safe_binary, BinaryOp.isPartial, true_imp_iff]
    tauto

theorem safe_floorMod :
    (floorMod k a b).Safe D assignment ↔
      a.Safe D assignment ∧ b.Safe D assignment ∧ b.denote D assignment ≠ .number 0 := by
  have hfloor := safe_floorDiv hk a hb
  cases k with
  | bool => cases hk
  | integer =>
    simp only [floorMod, safe_binary, BinaryOp.isPartial, hfloor]
    tauto
  | signed width | unsigned width =>
    simp only [floorMod, safe_binary, BinaryOp.isPartial, true_imp_iff]
    tauto

end divisions

end

end Term

/-! ### Checks for safety -/

variable {F : Type} [Foreign F]

section checks

variable {s : Session F} {c : Constants} {b : Binding} {r : Request} {t : Term} {state : EvalState}

/-- The obligation of a safety check of a scalar is the conjunction of its conditions. -/
theorem Session.yields_safetyConditions (hmode : r.mode = .safety) (ha : s.Admits b r)
    (ht : evalScalar s.prelude.types b.body (s.prelude.scope c b) .initial = (.ok t, state)) :
    s.Yields c b r (.ok (.ofGoal state.fresh (.all t.safetyConditions))) where
  admits := ha
  mode_ne := by simp [hmode]
  result_eq := by
    have heval := (evalScalar_eq_ok_iff ..).1 ht
    rw [hmode, Prelude.obligation, (evalSafety_eq_ok_iff ..).2 ⟨t, heval, rfl⟩]

/-- Backends are passed over in a safety check exactly when its body has no divisions. -/
theorem Session.passes_backends_iff (hmode : r.mode = .safety) (ha : s.Admits b r)
    (ht : evalScalar s.prelude.types b.body (s.prelude.scope c b) .initial = (.ok t, state)) :
    ((∃ o, (s.examine c b r).ending = .trivial o) ↔ t.divisors = []) ∧
      ((∃ o, s.Poses c b r o) ↔ t.divisors ≠ []) := by
  have hyields := Session.yields_safetyConditions hmode ha ht
  have hunconditional : s.prelude.Unconditional c b ↔ t.divisors = [] := by
    have hresult := hyields.result_eq
    rw [hmode] at hresult
    rw [Prelude.unconditional_iff, ← Term.all_safetyConditions_eq_true_iff_divisors]
    constructor
    · rintro ⟨o, ho, hgoal⟩
      rw [hresult, Except.ok.injEq] at ho
      rw [← hgoal, ← ho]
      rfl
    · exact fun hgoal => ⟨_, hresult, hgoal⟩
  rw [exists_trivial_iff hmode, hunconditional]
  refine ⟨and_iff_right ha, ?_, ?_⟩
  · exact fun h hnone => not_poses_of_unconditional hmode (hunconditional.2 hnone) h
  · intro hsome
    rw [ne_eq, ← Term.all_safetyConditions_eq_true_iff_divisors] at hsome
    exact ⟨_, hyields, fun h => hsome h.2⟩

end checks

/-- Safety conditions say exactly that nothing is divided by zero. For every well-kinded term, every
assignment of scalars of the right kinds and every result of a division by zero, the conditions
hold, and so does their conjunction, exactly when strict evaluation has a result, which then is what
the term denotes. The conjunction is the literal true, for which no backend is asked, exactly when
there is no division in the term. The conditions of what a dividing method builds are those of its
operands together with the one that the second is not zero. -/
theorem safety_conditions_exclude_division_by_zero (D : DivisionByZero)
    (assignment : SymVar → Scalar) :
    (∀ t : Term, t.wellKinded = true →
      (∀ v ∈ t.occurrences, v.kind.has (assignment v) = true) →
      (t.Safe D assignment ↔ (t.strict? assignment).isSome = true) ∧
      ((Term.all t.safetyConditions).denote D assignment = .bool true ↔
        (t.strict? assignment).isSome = true) ∧
      ∀ x, t.strict? assignment = some x → t.denote D assignment = x) ∧
    (∀ t : Term, (Term.all t.safetyConditions = .bool true ↔ t.divisors = []) ∧
      ∀ (s : Session F) (c : Constants) (b : Binding) (r : Request) (state : EvalState),
        r.mode = .safety → s.Admits b r →
        evalScalar s.prelude.types b.body (s.prelude.scope c b) .initial = (.ok t, state) →
        ((∃ o, (s.examine c b r).ending = .trivial o) ↔ t.divisors = []) ∧
          ((∃ o, s.Poses c b r o) ↔ t.divisors ≠ [])) ∧
    ∀ (k : Kind) (a b : Term), k.isNumeric = true →
      a.kind = k → b.kind = k → b.wellKinded = true →
      (∀ v ∈ b.occurrences, v.kind.has (assignment v) = true) →
      ∀ name ∈ ["quot", "rem", "div", "mod"], ∃ t, Prelude.method? k name [a, b] = some t ∧
        (t.Safe D assignment ↔
          a.Safe D assignment ∧ b.Safe D assignment ∧ b.denote D assignment ≠ .number 0) := by
  refine ⟨fun t ht hv => ?_, fun t => ⟨t.all_safetyConditions_eq_true_iff_divisors, ?_⟩, ?_⟩
  · have hsafe := Term.isSome_strict?_iff D ht hv
    refine ⟨hsafe.symm, ?_, fun x hx => ((Term.strict?_eq_some_iff D ht hv x).1 hx).2⟩
    rw [Term.denote_all_eq_true_iff, hsafe]
    rfl
  · intro s c b r state hmode ha ht
    exact Session.passes_backends_iff hmode ha ht
  · intro k a b hk ha hb hw hv name hname
    obtain ⟨y, -, -, hy⟩ := Term.isNumber_of_wellKinded (D := D) hw hv hk hb
    have hbuilt (m : BinaryMethod) := Prelude.method?_binary m ha hb
    simp only [List.mem_cons, List.not_mem_nil, or_false] at hname
    rcases hname with rfl | rfl | rfl | rfl
    · exact ⟨_, hbuilt .quot, Term.safe_quotient hk a hy⟩
    · exact ⟨_, hbuilt .rem, Term.safe_remainder hk a hy⟩
    · exact ⟨_, hbuilt .div, Term.safe_floorDiv hk a hy⟩
    · exact ⟨_, hbuilt .mod, Term.safe_floorMod hk a hy⟩

/-- A remainder, where the divisor is itself a quotient. -/
def nestedDivision : Term :=
  .binary .rem (operand .integer 1) (.binary .div (operand .integer 2) (operand .integer 0))

/-- A binding that divides its parameter by itself, with the request to check that. -/
def dividedBySelf : Binding :=
  let t := Ty.con "Integer" []
  ⟨"one", ⟨"P.hs", 1, 1⟩, .arrow t t, .lam ⟨"x", t⟩
    (.app (.app (.methodAt "div" t) (.var ⟨"x", t⟩)) (.var ⟨"x", t⟩)), [.checkSafety []]⟩

/-- The inner divisor is zero, and the outer one is whatever the solver makes of that. -/
theorem safety_conditions_exclude_division_by_zero_of_nestedDivision :
    nestedDivision.strict? (fun v => .number v.id) = none ∧
    ∀ D : DivisionByZero, ¬nestedDivision.Safe D (fun v => .number v.id) ∧
      (∃ o, undecidedSession.Poses .empty dividedBySelf (.checkSafety []) o) ∧
      ∃ t, Prelude.method? .integer "div" [nestedDivision, operand .integer 0] = some t ∧
        ¬t.Safe D (fun v => .number v.id) := by
  have hstrict : nestedDivision.strict? (fun v => .number v.id) = none := by decide
  refine ⟨hstrict, fun D => ?_⟩
  obtain ⟨hterm, hcheck, hmethod⟩ :=
    safety_conditions_exclude_division_by_zero (F := Empty) D fun v => .number v.id
  have hfails : ¬nestedDivision.Safe D fun v => .number v.id := by
    rw [(hterm nestedDivision (by decide) (by decide)).1, hstrict]
    simp
  obtain ⟨t, ht, hsafe⟩ := hmethod .integer nestedDivision (operand .integer 0) rfl rfl rfl rfl
    (by decide) "div" (by decide)
  refine ⟨hfails, ?_, t, ht, fun h => hfails (hsafe.1 h).1⟩
  exact (((hcheck _).2 undecidedSession .empty dividedBySelf (.checkSafety []) _ rfl ⟨rfl, rfl⟩
    rfl).2).2 (by decide)

end CoreProver
