import CoreProver.Proofs.Run.Course

/-!
# What evaluations depend on

The requests of a run share one thing, the table of constants. A request for a constant adds to it
or aborts the run, and no other request touches it; so as far as a run gets, the table follows from
the names and types that were declared as constants before. What the body of a binding evaluates to
follows from that table and the binding, whatever backends, settings and other bindings do.
-/

namespace CoreProver

/-! ### Declared constants -/

/-- The key under which a constant of the type of a variable is bound. -/
def TypeTable.key? (types : TypeTable) (v : Var) : Option Key :=
  (types.resolve? v.type).map fun kind => ⟨v.name, kind⟩

/-- The constant that a request declares: the name and the type of its binding, if the request is
for a constant and is not skipped. -/
def Request.declaration? (r : Request) (b : Binding) : Option Var :=
  if r.options.skipReason? = none ∧ r.mode = .constant then some ⟨b.name, b.type⟩ else none

/-- The constants that requests declare, in order. -/
def declarations (requests : List (Binding × Request)) : List Var :=
  requests.filterMap fun (b, r) => r.declaration? b

variable {F : Type}

/-- The table of constants after these declarations. -/
def Prelude.declare (p : Prelude F) (vars : List Var) : Constants :=
  .ofKeys (vars.filterMap p.types.key?)

theorem Prelude.constantKind_eq_ok_iff (p : Prelude F) (b : Binding) (kind : Kind) :
    p.constantKind b = .ok kind ↔ p.types.resolve? b.type = some kind := by
  unfold constantKind
  cases p.types.resolve? b.type <;> simp

/-! ### What an evaluation came to -/

/-- What evaluating an expression at a location comes to when these constants were declared before:
an obligation, a coverage error or a crash. -/
def Prelude.outcome [Foreign F] (p : Prelude F) (declared : List Var) (body : Expr)
    (location : Location) (mode : Mode) : Except Stop Obligation :=
  let scope := ((Scope.root p.globals).extendAll (p.declare declared).frame).moveTo location
  match mode with
  | .safety => (evalSafety p.types body scope .initial).1
  | _ => (evalProperty p.types body scope .initial).1

/-- Of the binding itself, its obligation depends on body and location alone. -/
theorem Prelude.obligation_declare [Foreign F] (p : Prelude F) (declared : List Var)
    (b : Binding) (mode : Mode) :
    (p.obligation (p.declare declared) b mode).1 = p.outcome declared b.body b.location mode := by
  cases mode <;> rfl

/-- What the evaluation came to, if there was one or the name could not be made a constant. -/
def Ending.outcome? : Ending → Option (Except Stop Obligation)
  | skipped _ | unprovable | bound _ => none
  | uncovered e => some (.error (.failed e))
  | crashed c => some (.error (.crashed c))
  | trivial o | unselected o _ _ | unasked o _ | judged o _ _ => some (.ok o)

namespace Session

/-- What an evaluation comes to can be read off the ending, whatever the backends say. -/
theorem outcome?_settle (s : Session F) (r : Request) (result : Except Stop Obligation) :
    (s.settle r result).outcome? = some result := by
  cases result with
  | error stop => cases stop <;> rfl
  | ok o =>
    by_cases htrivial : r.mode = .safety ∧ o.goal = .bool true
    · rw [settle, if_pos htrivial]
      rfl
    · rw [settle, if_neg htrivial, solve]
      cases s.pool (s.selectorsFor r) (s.isVerbose r) with
      | error e => rfl
      | ok backends => cases hv : prove? o backends <;> simp [hv] <;> rfl

variable [Foreign F] {s : Session F} {c : Constants} {b : Binding} {r : Request}

/-- A request that is looked at has the outcome of its binding's evaluation. -/
theorem outcome?_examine_of_admits (ha : s.Admits b r) (hm : r.mode ≠ .constant) :
    (s.examine c b r).ending.outcome? = some (s.prelude.obligation c b r.mode).1 := by
  have hyields : s.Yields c b r (s.prelude.obligation c b r.mode).1 := ⟨ha, hm, rfl⟩
  rw [hyields.ending_eq, outcome?_settle]

/-- A request for a constant evaluates nothing; it fails if the type of its binding has no kind. -/
theorem outcome?_examine_of_constant (ha : s.Admits b r) (hm : r.mode = .constant) :
    (s.examine c b r).ending.outcome? =
      if (s.prelude.types.resolve? b.type).isSome then none
      else some (.error (.failed ⟨.unresolvableType ⟨b.name, b.type⟩, some b.location⟩)) := by
  cases hresolve : s.prelude.types.resolve? b.type with
  | some kind =>
    have hkind := (s.prelude.constantKind_eq_ok_iff b kind).2 hresolve
    rw [(Concludes.bound ha hm hkind).ending_eq]
    rfl
  | none =>
    have hkind : s.prelude.constantKind b =
        .error ⟨.unresolvableType ⟨b.name, b.type⟩, some b.location⟩ := by
      simp [Prelude.constantKind, hresolve]
    rw [(Concludes.untyped ha hm hkind).ending_eq]
    rfl

/-- A request that is skipped or whose binding is rejected has no outcome. -/
theorem outcome?_examine_of_not_admits (ha : ¬ s.Admits b r) :
    (s.examine c b r).ending.outcome? = none := by
  cases hskip : r.options.skipReason? with
  | some reason =>
    rw [(Concludes.skipped hskip).ending_eq]
    rfl
  | none =>
    have hb : s.provable b = false := by
      rw [← Bool.not_eq_true]
      exact fun hb => ha ⟨hskip, hb⟩
    rw [(Concludes.unprovable hskip hb).ending_eq]
    rfl

/-- Sessions with the same prelude and the same policy come to the same outcome of a request, with
whatever backends and settings. -/
theorem outcome?_examine_congr {s' : Session F} (hprelude : s.prelude = s'.prelude)
    (hpolicy : s.provable = s'.provable) (c : Constants) (b : Binding) (r : Request) :
    (s.examine c b r).ending.outcome? = (s'.examine c b r).ending.outcome? := by
  have hadmits : s.Admits b r ↔ s'.Admits b r := by rw [Admits, Admits, hpolicy]
  by_cases ha : s.Admits b r
  · have ha' := hadmits.1 ha
    by_cases hm : r.mode = .constant
    · rw [outcome?_examine_of_constant ha hm, outcome?_examine_of_constant ha' hm, hprelude]
    · rw [outcome?_examine_of_admits ha hm, outcome?_examine_of_admits ha' hm, hprelude]
  · have ha' : ¬ s'.Admits b r := fun h => ha (hadmits.2 h)
    rw [outcome?_examine_of_not_admits ha, outcome?_examine_of_not_admits ha']

/-! ### The table over a run -/

/-- A request that does not abort binds the key of the constant that it declares, if it declares
one, and nothing else. -/
theorem boundKey?_examine (h : (s.examine c b r).abort? = none) :
    (s.examine c b r).boundKey? = (r.declaration? b).bind s.prelude.types.key? := by
  have hends := s.concludes_ending c b r
  generalize hx : s.examine c b r = x at h hends
  have hbinding : x.binding = b := by rw [← hx, examine_binding]
  unfold Examination.boundKey?
  generalize hending : x.ending = e at hends
  cases hends with
  | skipped hskip => simp [Request.declaration?, hskip]
  | unprovable hskip hb => simp [Examination.abort?, hending] at h
  | bound ha hm hk =>
    have hresolve := (s.prelude.constantKind_eq_ok_iff b _).1 hk
    simp [Request.declaration?, ha.1, hm, TypeTable.key?, hresolve, hbinding]
  | untyped ha hm hk => simp [Examination.abort?, hending] at h
  | uncovered hyields => simp [Request.declaration?, hyields.mode_ne]
  | crashed hyields => simp [Request.declaration?, hyields.mode_ne]
  | trivial hyields _ _ => simp [Request.declaration?, hyields.mode_ne]
  | unselected hposes _ => simp [Request.declaration?, hposes.yields.mode_ne]
  | unasked hposes _ => simp [Request.declaration?, hposes.yields.mode_ne]
  | judged hposes _ _ => simp [Request.declaration?, hposes.yields.mode_ne]

namespace CourseWith

variable {pools : Set Pool} {requests : List (Binding × Request)} {before after : Run}
  {x : Examination}

/-- As far as a run gets, the keys of the declared constants are bound. -/
theorem boundKeys_eq (h : s.CourseWith pools requests c (before ++ x :: after)) :
    before.boundKeys =
      (declarations (requests.take before.length)).filterMap s.prelude.types.key? := by
  induction before generalizing requests c with
  | nil => rfl
  | cons y ys ih =>
    obtain ⟨b, r, rest, pool, -, rfl, rfl, hnone, hrest⟩ := h.cons_inv (by simp)
    have hfirst := boundKey?_examine hnone
    have htail := ih hrest
    simp only [Run.boundKeys, declarations] at htail ⊢
    rw [List.length_cons, List.take_succ_cons, List.filterMap_cons, List.filterMap_cons, hfirst,
      htail]
    cases hdeclares : r.declaration? b with
    | none => rfl
    | some v =>
      rw [List.filterMap_cons]
      rfl

/-- As far as a run gets, the table of constants is that of the declarations up to there. -/
theorem constants_eq_declare (h : s.CourseWith pools requests .empty (before ++ x :: after)) :
    before.constants = s.prelude.declare (declarations (requests.take before.length)) := by
  rw [Run.constants_eq_ofKeys, h.boundKeys_eq, Prelude.declare]

/-- The examination at a place is that of the request at the place, made with the constants that
were declared before it. -/
theorem exists_examine_declare {run : Run} (h : s.CourseWith pools requests .empty run)
    {i : Nat} (hx : run[i]? = some x) :
    ∃ b r pool, requests[i]? = some (b, r) ∧
      x = (s.withPool pool).examine (s.prelude.declare (declarations (requests.take i))) b r := by
  have hsplit : run = run.take i ++ x :: run.drop (i + 1) := by
    obtain ⟨hi, rfl⟩ := List.getElem?_eq_some_iff.1 hx
    rw [List.getElem_cons_drop, List.take_append_drop]
  have hlength : (run.take i).length = i := by
    have hi := (List.getElem?_eq_some_iff.1 hx).1
    rw [List.length_take]
    omega
  rw [hsplit] at h
  obtain ⟨b, r, pool, -, hget, hexamine, -⟩ := h.exists_request
  have hconstants := h.constants_eq_declare
  rw [hlength] at hget hconstants
  rw [← hconstants]
  exact ⟨b, r, pool, hget, hexamine⟩

end CourseWith

end Session

/-- Two runs of a program with the same prelude and the same policy, whatever backends, their
selection and the settings do in each of them. Every request that both runs reach has the same
outcome in both: the same obligation, coverage error or crash. Of a request that is evaluated, it is
a function of the prelude, of body and location of its binding, of its mode, and of the constants
declared before it. A request for a constant evaluates nothing and fails only by its own type. -/
theorem Session.outcomes_depend_on_declarations [Foreign F] {s s' : Session F}
    (hprelude : s.prelude = s'.prelude) (hpolicy : s.provable = s'.provable) (p : Program)
    {run run' : Run} (hrun : s.Course p.requests .empty run)
    (hrun' : s'.Course p.requests .empty run') :
    (∀ (i : Nat) x x', run[i]? = some x → run'[i]? = some x' →
      x.ending.outcome? = x'.ending.outcome?) ∧
    ∀ (i : Nat) x b r, run[i]? = some x → p.requests[i]? = some (b, r) →
      (¬ s.Admits b r → x.ending.outcome? = none) ∧
      (s.Admits b r → r.mode ≠ .constant → x.ending.outcome? =
        some (s.prelude.outcome (declarations (p.requests.take i)) b.body b.location r.mode)) ∧
      (s.Admits b r → r.mode = .constant → x.ending.outcome? =
        if (s.prelude.types.resolve? b.type).isSome then none
        else some (.error (.failed ⟨.unresolvableType ⟨b.name, b.type⟩, some b.location⟩))) := by
  refine ⟨?_, ?_⟩
  · intro i x x' hx hx'
    obtain ⟨b, r, pool, hget, rfl⟩ := hrun.exists_examine_declare hx
    obtain ⟨b', r', pool', hget', rfl⟩ := hrun'.exists_examine_declare hx'
    obtain ⟨rfl, rfl⟩ : b = b' ∧ r = r' := by simpa [hget] using hget'
    have hprelude' : (s.withPool pool).prelude = (s'.withPool pool').prelude := hprelude
    have hpolicy' : (s.withPool pool).provable = (s'.withPool pool').provable := hpolicy
    rw [hprelude]
    exact outcome?_examine_congr hprelude' hpolicy' _ b r
  · intro i x b r hx hget
    obtain ⟨b', r', pool, hget', rfl⟩ := hrun.exists_examine_declare hx
    obtain ⟨rfl, rfl⟩ : b = b' ∧ r = r' := by simpa [hget] using hget'
    have hsame : (s.withPool pool).Admits b r ↔ s.Admits b r := Iff.rfl
    rw [← hsame]
    refine ⟨outcome?_examine_of_not_admits, fun ha hm => ?_, outcome?_examine_of_constant⟩
    rw [outcome?_examine_of_admits ha hm, ← Prelude.obligation_declare]
    rfl

/-- A session with a backend that proves everything, and with other settings. -/
def credulousSession : Session Empty where
  prelude := .standard
  pool := fun _ _ => .ok [⟨"cvc5", fun _ => .answered ⟨.proved, "unsat"⟩⟩]
  provable := fun _ => true
  settings := ⟨[.engine .cvc5], true, true⟩

def numberBinding (name : String) (requests : List Request) : Binding :=
  ⟨name, ⟨"P.hs", 1, 1⟩, .con "Int" [], .var ⟨"zero", .con "Int" []⟩, requests⟩

/-- The property that `limit` is an upper bound, with these requests on it. -/
def boundedBinding (requests : List Request) : Binding :=
  let int : Ty := .con "Int" []
  let bounded : Expr := .app (.app (.methodAt "<=" int) (.var ⟨"x", int⟩)) (.var ⟨"limit", int⟩)
  ⟨"bounded", ⟨"P.hs", 2, 1⟩, .arrow int (.con "Bool" []), .lam ⟨"x", int⟩ bounded, requests⟩

/-- A constant, one that is skipped, a property that fails, and a bound by the constant. -/
def boundedByConstant : Program :=
  let bool : Ty := .con "Bool" []
  ⟨none, [numberBinding "limit" [.prove [.uninterpret]],
    numberBinding "other" [.prove [.uninterpret, .skip "later"]],
    ⟨"fails", ⟨"P.hs", 3, 1⟩, bool, .var ⟨"False", bool⟩, [.prove [.warnIfFails]]⟩,
    boundedBinding [.prove []]]⟩

theorem outcomes_depend_on_declarations_of_boundedByConstant :
    (declarations (boundedByConstant.requests.take 3)).map (·.name) = ["limit"] ∧
    (undecidedSession.run boundedByConstant).map (·.stage) =
      [.succeeded, .notStarted, .failedRecoverable, .failedFatal] ∧
    (credulousSession.run boundedByConstant).map (·.stage) =
      [.succeeded, .notStarted, .succeeded, .succeeded] ∧
    ∃ x x' o, (undecidedSession.run boundedByConstant)[3]? = some x ∧
      (credulousSession.run boundedByConstant)[3]? = some x' ∧
      x.ending.outcome? = some (.ok o) ∧ x'.ending.outcome? = some (.ok o) ∧
      o.goal.text = "(bvsle l0_x u0_limit)" := by
  have hprelude : undecidedSession.prelude = credulousSession.prelude := rfl
  obtain ⟨hsame, hdetermined⟩ := Session.outcomes_depend_on_declarations hprelude rfl
    boundedByConstant (undecidedSession.course_run boundedByConstant)
    (credulousSession.course_run boundedByConstant)
  let v : SymVar := ⟨0, "x", .signed 64, .parameter⟩
  let w : SymVar := ⟨0, "limit", .signed 64, .constant⟩
  let o : Obligation := ⟨[v, w], .binary .le (.var v) (.var w)⟩
  have hreached : ∃ x x', (undecidedSession.run boundedByConstant)[3]? = some x ∧
      (credulousSession.run boundedByConstant)[3]? = some x' := ⟨_, _, rfl, rfl⟩
  obtain ⟨x, x', hx, hx'⟩ := hreached
  have houtcome : x.ending.outcome? = some (.ok o) :=
    (hdetermined 3 x _ _ hx rfl).2.1 ⟨rfl, rfl⟩ (by decide)
  exact ⟨by decide, by decide, by decide, x, x', o, hx, hx', houtcome,
    (hsame 3 x x' hx hx').symm.trans houtcome, by decide⟩

end CoreProver
