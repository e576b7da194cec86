import CoreProver.Proofs.Run.Course

/-!
# Obligations are well-sorted

`Term.kind` looks at one operand only, so it cannot tell whether a term is well-sorted. `HasSort`
can: it has the sorting rules of the solver's language, over the variables that are declared. Every
method of the prelude makes well-sorted terms of well-sorted operands, so evaluation does, and so
does the collection of the conditions of a safety check. Hence every obligation of a run is a closed
Boolean formula, and its logic is the one for the kinds that it involves.
-/

namespace CoreProver

/-- Operators from numbers to a number. -/
def BinaryOp.isArithmetic : BinaryOp → Bool
  | add | sub | mul | div | rem | smod => true
  | _ => false

/-- Comparisons of numbers. -/
def BinaryOp.isOrder : BinaryOp → Bool
  | lt | le | gt | ge => true
  | _ => false

def BinaryOp.isEquality : BinaryOp → Bool
  | eq | ne => true
  | _ => false

/-- The sorting rules: the kind of a term over declared variables. -/
inductive Term.HasSort (declared : List SymVar) : Term → Kind → Prop where
  | var {v : SymVar} (h : v ∈ declared) : HasSort declared (.var v) v.kind
  | bool (value : Bool) : HasSort declared (.bool value) .bool
  | int (value : Int) {k : Kind} (hk : k.isNumeric = true) : HasSort declared (.int value k) k
  | not {t : Term} (ht : HasSort declared t .bool) : HasSort declared (.unary .not t) .bool
  | neg {t : Term} {k : Kind} (hk : k.isNumeric = true) (ht : HasSort declared t k) :
      HasSort declared (.unary .neg t) k
  | arithmetic {op : BinaryOp} {t u : Term} {k : Kind} (hop : op.isArithmetic = true)
      (hk : k.isNumeric = true) (ht : HasSort declared t k) (hu : HasSort declared u k) :
      HasSort declared (.binary op t u) k
  | order {op : BinaryOp} {t u : Term} {k : Kind} (hop : op.isOrder = true)
      (hk : k.isNumeric = true) (ht : HasSort declared t k) (hu : HasSort declared u k) :
      HasSort declared (.binary op t u) .bool
  | equality {op : BinaryOp} {t u : Term} {k : Kind} (hop : op.isEquality = true)
      (ht : HasSort declared t k) (hu : HasSort declared u k) :
      HasSort declared (.binary op t u) .bool
  | logical {op : BinaryOp} {t u : Term} (hop : op.isLogical = true)
      (ht : HasSort declared t .bool) (hu : HasSort declared u .bool) :
      HasSort declared (.binary op t u) .bool
  | ite {t u v : Term} {k : Kind} (ht : HasSort declared t .bool) (hu : HasSort declared u k)
      (hv : HasSort declared v k) : HasSort declared (.ite t u v) k

namespace Term

variable {declared : List SymVar}

/-- An operator has operands of the kinds that it takes. -/
theorem HasSort.binary {op : BinaryOp} {t u : Term} (ht : t.HasSort declared t.kind)
    (hu : u.HasSort declared u.kind) (h : op.accepts t.kind u.kind = true) :
    (Term.binary op t u).HasSort declared (Term.binary op t u).kind := by
  have hkind := op.kind_eq_of_accepts h
  rw [← hkind] at hu h
  cases op with
  | add | sub | mul | div | rem | smod =>
    simp only [BinaryOp.accepts, Bool.and_eq_true] at h
    exact .arithmetic rfl h.2 ht hu
  | lt | le | gt | ge =>
    simp only [BinaryOp.accepts, Bool.and_eq_true] at h
    exact .order rfl h.2 ht hu
  | eq | ne => exact .equality rfl ht hu
  | and | or | implies =>
    simp only [BinaryOp.accepts, Bool.and_self, decide_eq_true_eq] at h
    rw [h] at ht hu
    exact .logical rfl ht hu

theorem HasSort.unary {op : UnaryOp} {t : Term} (ht : t.HasSort declared t.kind)
    (h : op.accepts t.kind = true) :
    (Term.unary op t).HasSort declared (Term.unary op t).kind := by
  cases op with
  | not =>
    rw [of_decide_eq_true h] at ht
    exact .not ht
  | neg => exact .neg h ht

/-- A well-kinded term over declared variables follows the sorting rules. -/
theorem hasSort_kind {t : Term} (ht : t.wellKinded = true)
    (hv : ∀ v ∈ t.occurrences, v ∈ declared) : t.HasSort declared t.kind := by
  induction t with
  | var v => exact .var (hv v (by simp [occurrences]))
  | bool value => exact .bool value
  | int value kind => exact .int value ht
  | unary op operand ih =>
    simp only [wellKinded, Bool.and_eq_true] at ht
    exact .unary (ih ht.1 hv) ht.2
  | binary op left right ihl ihr =>
    simp only [wellKinded, Bool.and_eq_true] at ht
    simp only [occurrences, List.mem_append] at hv
    exact .binary (ihl ht.1.1 fun v h => hv v (.inl h)) (ihr ht.1.2 fun v h => hv v (.inr h)) ht.2
  | ite condition yes no ihc ihy ihn =>
    simp only [wellKinded, Bool.and_eq_true, decide_eq_true_eq] at ht
    obtain ⟨⟨⟨⟨hc, hy⟩, hn⟩, hbool⟩, hkind⟩ := ht
    simp only [occurrences, List.mem_append] at hv
    have hcs := ihc hc fun v h => hv v (.inl (.inl h))
    have hys := ihy hy fun v h => hv v (.inl (.inr h))
    have hns := ihn hn fun v h => hv v (.inr h)
    rw [hbool] at hcs
    rw [← hkind] at hns
    exact .ite hcs hys hns

end Term

/-! ### Methods and safety conditions -/

theorem Prelude.isNumeric_of_mem_numericKinds :
    ∀ kind ∈ Prelude.numericKinds, kind.isNumeric = true := by
  decide

theorem BinaryOp.isNumeric_of_isPartial {left right : Kind} (op : BinaryOp)
    (hop : op.isPartial = true) (h : op.accepts left right = true) : right.isNumeric = true := by
  obtain rfl := op.kind_eq_of_accepts h
  cases op <;> simp_all [isPartial, accepts]

section methods

variable {kind : Kind} (hk : kind.isNumeric = true) {t u : Term} (ht : t.kind = kind)
  (hw : t.wellKinded = true)

include hk ht hw

/-- A method of one number makes a well-kinded term of a well-kinded operand. -/
theorem UnaryMethod.wellKinded_term (m : UnaryMethod) : (m.term kind t).wellKinded = true := by
  cases m <;> cases kind <;>
    simp_all [term, Term.absolute, Term.sign, Term.isNegative, Term.wellKinded, Term.kind,
      UnaryOp.accepts, BinaryOp.accepts, BinaryOp.isComparison, Kind.isNumeric]

/-- A method of two numbers makes a well-kinded term of well-kinded operands. -/
theorem BinaryMethod.wellKinded_term (m : BinaryMethod) (hu : u.kind = kind)
    (hwu : u.wellKinded = true) : (m.term kind t u).wellKinded = true := by
  cases m <;> cases kind <;>
    simp_all [term, Term.quotient, Term.remainder, Term.floorDiv, Term.floorMod, Term.minimum,
      Term.maximum, Term.absolute, Term.isNegative, Term.wellKinded, Term.kind, UnaryOp.accepts,
      BinaryOp.accepts, BinaryOp.isComparison, BinaryOp.isLogical, Kind.isNumeric]

end methods

namespace Term

theorem stable_wellKinded : Term.Stable fun t => t.wellKinded = true where
  bool _ := rfl
  int _ := Prelude.isNumeric_of_mem_numericKinds
  unary m kind hk t ht hw :=
    m.wellKinded_term (Prelude.isNumeric_of_mem_numericKinds kind hk) ht hw
  binary m kind hk t u ht hu hwt hwu := by
    rcases hk with ⟨rfl, hm⟩ | hk
    · simp only [BinaryMethod.boolean, List.mem_cons, List.not_mem_nil, or_false] at hm
      rcases hm with rfl | rfl <;>
        simp [BinaryMethod.term, wellKinded, BinaryOp.accepts, hwt, hwu, ht, hu]
    · exact m.wellKinded_term (Prelude.isNumeric_of_mem_numericKinds kind hk) ht hwt hu hwu

/-- The condition for a division is a well-kinded truth value. -/
theorem wellKinded_divisionConditions {t u : Term} (ht : t.wellKinded = true)
    (hu : u ∈ t.divisionConditions) : u.wellKinded = true ∧ u.kind = .bool := by
  induction t with
  | var _ | bool _ | int _ _ => cases hu
  | unary op operand ih =>
    simp only [wellKinded, Bool.and_eq_true] at ht
    exact ih ht.1 hu
  | binary op left right ihl ihr =>
    simp only [wellKinded, Bool.and_eq_true] at ht
    obtain ⟨⟨hl, hr⟩, ha⟩ := ht
    simp only [divisionConditions, List.mem_append] at hu
    rcases hu with (hu | hu) | hu
    · cases hop : op.isPartial with
      | false => simp [hop] at hu
      | true =>
        obtain rfl : u = nonzero right := by simpa [hop] using hu
        have hnum := op.isNumeric_of_isPartial hop ha
        refine ⟨?_, rfl⟩
        simp [nonzero, wellKinded, BinaryOp.accepts, kind, hr, hnum]
    · exact ihl hl hu
    · exact ihr hr hu
  | ite condition yes no ihc ihy ihn =>
    simp only [wellKinded, Bool.and_eq_true] at ht
    obtain ⟨⟨⟨⟨hc, hy⟩, hn⟩, -⟩, -⟩ := ht
    simp only [divisionConditions, List.mem_append] at hu
    rcases hu with (hu | hu) | hu
    · exact ihc hc hu
    · exact ihy hy hu
    · exact ihn hn hu

theorem wellKinded_all {ts : List Term}
    (h : ∀ t ∈ ts, t.wellKinded = true ∧ t.kind = .bool) :
    (all ts).wellKinded = true ∧ (all ts).kind = .bool := by
  revert h
  refine all_induction (P := fun ts t => (∀ u ∈ ts, u.wellKinded = true ∧ u.kind = .bool) →
    t.wellKinded = true ∧ t.kind = .bool) ?_ ?_ ?_ ts
  · exact fun _ => ⟨rfl, rfl⟩
  · exact fun t h => h t (List.mem_singleton_self t)
  · intro ts t u ih h
    obtain ⟨hts, hu⟩ := List.forall_mem_append.1 h
    have hboth := And.intro (ih hts) (List.forall_mem_singleton.1 hu)
    exact ⟨by simp [wellKinded, BinaryOp.accepts, hboth], rfl⟩

end Term

/-! ### The kinds of an obligation -/

def Term.parts : Term → List Term
  | t@(.var _) | t@(.bool _) | t@(.int ..) => [t]
  | t@(.unary _ operand) => t :: operand.parts
  | t@(.binary _ left right) => t :: (left.parts ++ right.parts)
  | t@(.ite condition yes no) => t :: (condition.parts ++ yes.parts ++ no.parts)

theorem Term.partKinds_eq_map (t : Term) : t.partKinds = t.parts.map Term.kind := by
  induction t with
  | var _ | bool _ | int _ _ => rfl
  | unary op operand ih => simp [partKinds, parts, ih]
  | binary op left right ihl ihr => simp [partKinds, parts, ihl, ihr]
  | ite condition yes no ihc ihy ihn => simp [partKinds, parts, ihc, ihy, ihn]

namespace Obligation

/-- A declared variable or a part of the goal has the kind. -/
def Involves (o : Obligation) (k : Kind) : Prop :=
  (∃ v ∈ o.vars, v.kind = k) ∨ ∃ t ∈ o.goal.parts, t.kind = k

theorem mem_kinds_iff (o : Obligation) (k : Kind) :
    k ∈ o.kinds ++ o.goal.partKinds ↔ o.Involves k := by
  rw [List.mem_append, Term.partKinds_eq_map, kinds, List.mem_map, List.mem_map, Involves]

/-- The logic depends on whether integers and whether bit-vectors are involved. -/
theorem logic_eq_iff (o : Obligation) :
    (o.logic = "QF_BV" ↔ ¬o.Involves .integer) ∧
    (o.logic = "QF_NIA" ↔ o.Involves .integer ∧ ∀ k, k.isBitVector = true → ¬o.Involves k) ∧
    (o.logic = "ALL" ↔ o.Involves .integer ∧ ∃ k, k.isBitVector = true ∧ o.Involves k) := by
  have hint := o.mem_kinds_iff .integer
  have hbv : (o.kinds ++ o.goal.partKinds).any Kind.isBitVector = true ↔
      ∃ k, k.isBitVector = true ∧ o.Involves k := by
    simp only [List.any_eq_true, ← mem_kinds_iff, and_comm]
  have hno : (∀ k, k.isBitVector = true → ¬o.Involves k) ↔
      ¬∃ k, k.isBitVector = true ∧ o.Involves k := by
    simp only [not_exists, not_and]
  rw [hno, ← hbv, ← hint]
  simp only [logic, List.contains_iff_mem]
  by_cases hi : Kind.integer ∈ o.kinds ++ o.goal.partKinds
  · by_cases hb : (o.kinds ++ o.goal.partKinds).any Kind.isBitVector = true
    · simp [hi, hb]
    · simp [hi, hb]
  · simp [hi]

end Obligation

/-! ### Runs -/

variable {F : Type} [Foreign F]

theorem Evaluates.wellKinded {p : Prelude F} (hp : p.globals = Prelude.standard.globals)
    {types : TypeTable} {c : Constants} {b : Binding} {s s' : EvalState} {t : Term}
    (h : Evaluates types (p.scope c b) s b.body (.scalar t) s') : t.wellKinded = true := by
  obtain ⟨kinds, result, hfits⟩ := h.exists_fits Term.stable_wellKinded
    (Prelude.addsScalars_scope hp (fun _ _ => rfl) b) fun _ _ => rfl
  exact hfits.of_scalar.2.2

/-- A goal over its own variables and those that were bound for it is closed. -/
theorem Obligation.hasSort_ofGoal {goal : Term} (hw : goal.wellKinded = true)
    (hk : goal.kind = .bool) (bound : List SymVar) :
    goal.HasSort (Obligation.ofGoal bound goal).vars .bool := by
  rw [← hk]
  refine Term.hasSort_kind hw fun v hv => ?_
  simp [Obligation.ofGoal, Term.freeVars, hv]

/-- In both modes, the obligation of a binding is a closed Boolean formula. -/
theorem Prelude.hasSort_goal {p : Prelude F} (hp : p.globals = Prelude.standard.globals)
    {c : Constants} {b : Binding} {mode : Mode} {o : Obligation} {s' : EvalState}
    (h : p.obligation c b mode = (.ok o, s')) : o.goal.HasSort o.vars .bool := by
  unfold Prelude.obligation at h
  split at h
  · obtain ⟨t, ht, rfl⟩ := (evalSafety_eq_ok_iff ..).1 h
    have hconditions : ∀ u ∈ t.safetyConditions, u.wellKinded = true ∧ u.kind = .bool :=
      fun u hu => Term.wellKinded_divisionConditions (ht.wellKinded hp) ((mem_distinct u _).1 hu)
    obtain ⟨hw, hk⟩ := Term.wellKinded_all hconditions
    exact Obligation.hasSort_ofGoal hw hk s'.fresh
  · obtain ⟨goal, hgoal, hk, rfl⟩ := (evalProperty_eq_ok_iff ..).1 h
    exact Obligation.hasSort_ofGoal (hgoal.wellKinded hp) hk s'.fresh

/-- Whatever backends do, every obligation of a run is a Boolean formula that follows the sorting
rules over its own variables, and its logic is that of the kinds that it involves. -/
theorem Session.obligations_well_sorted {s : Session F}
    (hs : s.prelude.globals = Prelude.standard.globals) (p : Program) {run : Run}
    (hrun : s.Course p.requests .empty run) {x : Examination} (hx : x ∈ run) {o : Obligation}
    (ho : x.ending.obligation? = some o) :
    o.goal.HasSort o.vars .bool ∧
      (o.logic = "QF_BV" ↔ ¬o.Involves .integer) ∧
      (o.logic = "QF_NIA" ↔ o.Involves .integer ∧ ∀ k, k.isBitVector = true → ¬o.Involves k) ∧
      (o.logic = "ALL" ↔ o.Involves .integer ∧ ∃ k, k.isBitVector = true ∧ o.Involves k) := by
  obtain ⟨before, after, rfl⟩ := List.append_of_mem hx
  obtain ⟨b, r, pool, -, -, rfl, -⟩ := hrun.exists_request
  obtain ⟨state, hstate⟩ := Session.exists_obligation_eq ho
  exact ⟨Prelude.hasSort_goal hs hstate, o.logic_eq_iff⟩

/-- An unknown integer, and a check that dividing by it is safe. The check has a parameter of
another kind. -/
def divisionByConstant : Program :=
  let integer : Ty := .con "Integer" []
  let word : Ty := .con "Word8" []
  let quotient : Expr := .app (.app (.methodAt "quot" integer) (.var ⟨"x", integer⟩))
    (.var ⟨"c", integer⟩)
  ⟨none, [⟨"c", ⟨"P.hs", 1, 1⟩, integer, .var ⟨"one", integer⟩, [.uninterpret]⟩,
    ⟨"safe", ⟨"P.hs", 2, 1⟩, .arrow integer (.arrow word integer),
      .lam ⟨"x", integer⟩ (.lam ⟨"w", word⟩ quotient), [.checkSafety []]⟩]⟩

theorem obligations_well_sorted_of_divisionByConstant :
    ∃ x ∈ undecidedSession.run divisionByConstant, ∃ o v,
      x.ending.obligation? = some o ∧ x.ending.verdict? = some v ∧
      o.goal.text = "(distinct (ite (< u0_c 0) (- u0_c) u0_c) 0)" ∧
      o.goal.HasSort o.vars .bool ∧ o.logic = "ALL" ∧ o.Involves .integer ∧
      ∃ k, k.isBitVector = true ∧ o.Involves k := by
  have hrun : ∃ x ∈ undecidedSession.run divisionByConstant, ∃ o v,
      x.ending.obligation? = some o ∧ x.ending.verdict? = some v ∧
      o.goal.text = "(distinct (ite (< u0_c 0) (- u0_c) u0_c) 0)" ∧ o.logic = "ALL" :=
    ⟨_, .tail _ (.head _), _, _, rfl, rfl, by decide, by decide⟩
  obtain ⟨x, hx, o, v, ho, hv, htext, hlogic⟩ := hrun
  have hsorted := Session.obligations_well_sorted rfl divisionByConstant
    (undecidedSession.course_run divisionByConstant) hx ho
  obtain ⟨hinteger, hvector⟩ := hsorted.2.2.2.1 hlogic
  exact ⟨x, hx, o, v, ho, hv, htext, hsorted.1, hlogic, hinteger, hvector⟩

end CoreProver
