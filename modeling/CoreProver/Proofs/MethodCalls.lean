import CoreProver.Proofs.Failures
import CoreProver.Proofs.Markers

/-!
# What method calls add to evaluation

`evalOrdinary` evaluates without method calls: whatever is applied to a value is evaluated, and so
is the value. Where that succeeds, evaluation has the same result, since the evidence of a method
call has no value of its own. So resolving method calls adds results and changes none; what it adds
are the values bound under the names of methods.
-/

namespace CoreProver

/-- The type is one of evidence: the dictionary of a class, an equality, or a tuple of such types
that is not empty. -/
inductive Ty.IsConstraint : Ty → Prop where
  | dict (name : String) (args : List Ty) : IsConstraint (.dict name args)
  | equality (left right : Ty) : IsConstraint (.equality left right)
  | tuple {items : List Ty} (hne : items ≠ []) (h : ∀ t ∈ items, IsConstraint t) :
      IsConstraint (.tuple items)

mutual

theorem Ty.IsConstraint.of_evidence? : ∀ {t : Ty}, t.evidence?.isSome = true → t.IsConstraint
  | .dict name args, _ => .dict name args
  | .equality left right, _ => .equality left right
  | .tuple (t :: ts), h => by
    have hall : t.evidence?.isSome = true ∧ Ty.allEvidence ts = true := by
      by_contra hnot
      simp [Ty.evidence?, hnot] at h
    exact .tuple (List.cons_ne_nil t ts)
      (List.forall_mem_cons.2 ⟨.of_evidence? hall.1, .of_allEvidence hall.2⟩)

theorem Ty.IsConstraint.of_allEvidence :
    ∀ {ts : List Ty}, Ty.allEvidence ts = true → ∀ t ∈ ts, t.IsConstraint
  | [], _ => by simp
  | t :: ts, h => by
    rw [Ty.allEvidence, Bool.and_eq_true] at h
    exact List.forall_mem_cons.2 ⟨.of_evidence? h.1, .of_allEvidence h.2⟩

end

theorem Ty.allEvidence_iff (ts : List Ty) :
    Ty.allEvidence ts = true ↔ ∀ t ∈ ts, t.evidence?.isSome = true := by
  induction ts with
  | nil => simp [Ty.allEvidence]
  | cons t ts ih => simp [Ty.allEvidence, ih]

/-- Types of evidence are told by their shape. -/
theorem Ty.isSome_evidence?_iff (t : Ty) : t.evidence?.isSome = true ↔ t.IsConstraint := by
  refine ⟨.of_evidence?, fun h => ?_⟩
  induction h with
  | dict name args => rfl
  | equality left right => rfl
  | @tuple items hne _ ih =>
    cases items with
    | nil => exact absurd rfl hne
    | cons t ts =>
      have hfirst := ih t List.mem_cons_self
      have hrest := (Ty.allEvidence_iff ts).2 fun u hu => ih u (List.mem_cons_of_mem t hu)
      simp [Ty.evidence?, hfirst, hrest]

/-- Evaluate an expression in which every application to anything but a bare type is an ordinary
one: its function and its argument are evaluated, and the one is applied to the other. -/
def evalOrdinary {F : Type} [Foreign F] (types : TypeTable) :
    Expr → Scope F → EvalState → Outcome (Value F)
  | .var v, scope, s => (evalVar types scope v, s)
  | .app f (.type _), scope, s => evalOrdinary types f scope s
  | e@(.app f a), scope, s =>
    match evalOrdinary types f scope s with
    | (.error stop, s) => (.error stop, s)
    | (.ok (.scalar _), s) => (scope.fail (.notApplicable e), s)
    | (.ok (.function op), s) =>
      match evalOrdinary types a scope s with
      | (.error stop, s) => (.error stop, s)
      | (.ok value, s) => (callResult scope e (op.call value), s)
  | e@(.lam v body), scope, s =>
    match types.resolve? v.type with
    | none => (scope.fail (.nonBasicParameter v e), s)
    | some kind =>
      evalOrdinary types body
        (scope.extend ⟨v.name, kind⟩ (.scalar (.var (s.nextVar v.name kind))))
        (s.allocate v.name kind)
  | .tick location body, scope, s => evalOrdinary types body (scope.moveTo location) s
  | e@(.lit _), scope, s => (scope.fail (.unsupported .literal e), s)
  | e@(.letIn ..), scope, s => (scope.fail (.unsupported .localBinding e), s)
  | e@(.letRec ..), scope, s => (scope.fail (.unsupported .localBinding e), s)
  | e@(.cases ..), scope, s => (scope.fail (.unsupported .caseDistinction e), s)
  | e@(.cast ..), scope, s => (scope.fail (.unsupported .cast e), s)
  | e@(.type _), scope, s => (scope.fail (.unsupported .bareType e), s)
  | e@(.coercion _), scope, s => (scope.fail (.unsupported .bareCoercion e), s)

variable {F : Type}

section

variable [Foreign F] {types : TypeTable} {scope : Scope F} {s s' : EvalState} {e : Expr}
  {value : Value F}

/-- Ordinary evaluation follows the rules, and none of them is that for method calls. -/
theorem Evaluates.of_evalOrdinary (h : evalOrdinary types e scope s = (.ok value, s')) :
    Evaluates types scope s e value s' ∧ s'.calls = s.calls := by
  induction e, scope, s using evalOrdinary.induct (F := F) types generalizing value s' with
  | case1 v scope s =>
    rw [evalOrdinary, Prod.mk.injEq, evalVar_eq_ok_iff] at h
    obtain ⟨⟨kind, hk, hv⟩, rfl⟩ := h
    exact ⟨.var hk hv, rfl⟩
  | case2 f t scope s ih =>
    rw [evalOrdinary] at h
    obtain ⟨hf, hcalls⟩ := ih h
    exact ⟨.typeApp hf, hcalls⟩
  | case3 f a scope s ha stop s₁ hf =>
    rw [evalOrdinary.eq_3 types scope s f a ha] at h
    simp [hf] at h
  | case4 f a scope s ha term s₁ hf =>
    rw [evalOrdinary.eq_3 types scope s f a ha] at h
    simp [hf, Scope.fail] at h
  | case5 f a scope s ha op s₁ hf stop s₂ harg =>
    rw [evalOrdinary.eq_3 types scope s f a ha] at h
    simp [hf, harg] at h
  | case6 f a scope s ha op s₁ hf arg s₂ harg ihf iha =>
    rw [evalOrdinary.eq_3 types scope s f a ha] at h
    simp only [hf, harg, Prod.mk.injEq, callResult_eq_ok_iff] at h
    obtain ⟨hc, rfl⟩ := h
    obtain ⟨hevalf, hcallsf⟩ := ihf hf
    obtain ⟨hevala, hcallsa⟩ := iha harg
    -- the argument has a value, so it is not evidence and the application is no method call
    have hm := methodValue?_eq_none_of_ofApp? types scope (hevala.ofApp?_eq_none f)
    exact ⟨.app hevala.bareType?_eq_none hm hevalf hevala hc, hcallsa.trans hcallsf⟩
  | case7 v body scope s hk =>
    simp [evalOrdinary, hk, Scope.fail] at h
  | case8 v body scope s kind hk ih =>
    simp only [evalOrdinary, hk] at h
    obtain ⟨hb, hcalls⟩ := ih h
    exact ⟨.lam hk hb, hcalls⟩
  | case9 location body scope s ih =>
    rw [evalOrdinary] at h
    obtain ⟨hb, hcalls⟩ := ih h
    exact ⟨.tick hb, hcalls⟩
  | case10 | case11 | case12 | case13 | case14 | case15 | case16 =>
    simp [evalOrdinary, Scope.fail] at h

theorem Evaluates.calls_prefix (h : Evaluates types scope s e value s') : s.calls <+: s'.calls := by
  induction h with
  | var => exact List.prefix_rfl
  | typeApp _ ih => exact ih
  | method => exact List.prefix_append _ _
  | app _ _ _ _ _ ihf iha => exact ihf.trans iha
  | lam _ _ ih => exact ih
  | tick _ ih => exact ih

/-- An evaluation that notes no method call is an ordinary one. -/
theorem Evaluates.evalOrdinary_eq (h : Evaluates types scope s e value s')
    (hcalls : s'.calls = s.calls) : evalOrdinary types e scope s = (.ok value, s') := by
  induction h with
  | var hk hv => rw [evalOrdinary, (evalVar_eq_ok_iff types _ _ _).2 ⟨_, hk, hv⟩]
  | typeApp _ ih => rw [evalOrdinary, ih hcalls]
  | method => simp [EvalState.noteCall] at hcalls
  | @app scope s s₁ s₂ f a op arg value ha _ hf harg hc ihf iha =>
    have hbetween : s₁.calls = s.calls :=
      (hcalls ▸ harg.calls_prefix).eq_of_length_le hf.calls_prefix.length_le
    rw [evalOrdinary.eq_3 types _ _ _ _ ((Expr.bareType?_eq_none_iff _).1 ha)]
    simp only [ihf hbetween, iha (hcalls.trans hbetween.symm), hc, callResult]
  | lam hk _ ih => simp only [evalOrdinary, hk, ih hcalls]
  | tick _ ih => rw [evalOrdinary, ih hcalls]

/-- Ordinary evaluation succeeds exactly where evaluation does without a method call. -/
theorem evalOrdinary_eq_ok_iff :
    evalOrdinary types e scope s = (.ok value, s') ↔
      eval types e scope s = (.ok value, s') ∧ s'.calls = s.calls := by
  rw [eval_eq_ok_iff]
  exact ⟨Evaluates.of_evalOrdinary, fun h => h.1.evalOrdinary_eq h.2⟩

end

theorem TypeTable.resolve?_eq_none_of_isConstraint (types : TypeTable) {t : Ty}
    (h : t.IsConstraint) : types.resolve? t = none :=
  types.resolve?_eq_none_of_evidence ((Ty.isSome_evidence?_iff t).2 h)

/-- A variable of evidence type has no value, whatever is bound under its name. -/
theorem evalVar_eq_fail_of_isConstraint (types : TypeTable) (scope : Scope F) {d : Var}
    (hd : d.type.IsConstraint) : evalVar types scope d = scope.fail (.unresolvableType d) := by
  rw [evalVar, types.resolve?_eq_none_of_isConstraint hd]

/-- The application `method @t d`. -/
def Expr.methodCall (method : Var) (t : Ty) (d : Var) : Expr :=
  .app (.app (.var method) (.type t)) (.var d)

theorem methodValue?_methodCall (types : TypeTable) (scope : Scope F) (method : Var) (t : Ty)
    {d : Var} (hd : d.type.IsConstraint) :
    methodValue? types scope (.app (.var method) (.type t)) (.var d) =
      (types.resolve? t).bind fun kind => scope.lookup? ⟨method.name, kind⟩ := by
  obtain ⟨evidence, hevidence⟩ :=
    Option.isSome_iff_exists.1 ((Ty.isSome_evidence?_iff d.type).2 hd)
  simp only [methodValue?, MethodCall.ofApp?, hevidence, Option.map_some, Option.bind_some,
    MethodCall.resolve?]

variable [Foreign F]

/-- A method call is never ordinary: at the latest its evidence has no value. -/
theorem exists_evalOrdinary_methodCall_eq (types : TypeTable) (scope : Scope F) (s : EvalState)
    (method : Var) (t : Ty) {d : Var} (hd : d.type.IsConstraint) :
    ∃ e, evalOrdinary types (.methodCall method t d) scope s = (.error (.failed e), s) := by
  have hevidence := evalVar_eq_fail_of_isConstraint types scope hd
  simp only [Expr.methodCall, evalOrdinary]
  cases hmethod : evalVar types scope method with
  | error stop =>
    have hraises : Raises types scope s (.var method) stop s := .of_evalVar hmethod
    cases hraises with
    | unresolvableType => exact ⟨_, rfl⟩
    | unbound => exact ⟨_, rfl⟩
    | unsupported h => cases h
  | ok value =>
    cases value with
    | scalar term => exact ⟨_, rfl⟩
    | function op =>
      simp only [hevidence]
      exact ⟨_, rfl⟩

/-- A method call has exactly the value that is bound under the name of the method and the kind of
the type. -/
theorem eval_methodCall_eq_ok_iff (types : TypeTable) (scope : Scope F) (s s' : EvalState)
    (method : Var) (t : Ty) {d : Var} (hd : d.type.IsConstraint) (value : Value F) :
    eval types (.methodCall method t d) scope s = (.ok value, s') ↔
      ∃ kind, types.resolve? t = some kind ∧ scope.lookup? ⟨method.name, kind⟩ = some value ∧
        s' = s.noteCall (.methodCall method t d) := by
  have hmethod := methodValue?_methodCall types scope method t hd
  rw [eval_eq_ok_iff]
  constructor
  · intro h
    cases h with
    | method ha hm =>
      obtain ⟨kind, hk, hv⟩ := Option.bind_eq_some_iff.1 (hmethod ▸ hm)
      exact ⟨kind, hk, hv, rfl⟩
    | app _ _ _ harg _ =>
      cases harg with
      | var hk _ =>
        rw [types.resolve?_eq_none_of_isConstraint hd] at hk
        cases hk
  · rintro ⟨kind, hk, hv, rfl⟩
    exact .method rfl (hmethod.trans (Option.bind_eq_some_iff.2 ⟨kind, hk, hv⟩))

/-- Resolving method calls only adds results. Whatever the type table and the scope hold, ordinary
evaluation has a result exactly where evaluation has the same one, with the same variables
allocated, and meets no method call on the way. An application `method @t d` to a variable of
evidence type is never an ordinary one: that always fails, whatever is bound under the name of `d`.
Only the value bound under the name of the method and the kind of `t` is added for it. -/
theorem method_calls_only_add_results (types : TypeTable) (scope : Scope F) (s : EvalState) :
    (∀ e value s', evalOrdinary types e scope s = (.ok value, s') ↔
      eval types e scope s = (.ok value, s') ∧ s'.calls = s.calls) ∧
    ∀ (method : Var) (t : Ty) (d : Var), d.type.IsConstraint →
      (∃ e, evalOrdinary types (.methodCall method t d) scope s = (.error (.failed e), s)) ∧
      ∀ value s', eval types (.methodCall method t d) scope s = (.ok value, s') ↔
        ∃ kind, types.resolve? t = some kind ∧ scope.lookup? ⟨method.name, kind⟩ = some value ∧
          s' = s.noteCall (.methodCall method t d) := by
  refine ⟨fun e value s' => evalOrdinary_eq_ok_iff, fun method t d hd => ⟨?_, fun value s' => ?_⟩⟩
  · exact exists_evalOrdinary_methodCall_eq types scope s method t hd
  · exact eval_methodCall_eq_ok_iff types scope s s' method t hd value

/-- The prelude and `id`, in a scope where the name of a piece of evidence is also that of a
number. -/
def scopeWithNamedEvidence : Scope IdentityFunction :=
  scopeWithIdentity.extend ⟨"$d", .signed 64⟩ (.scalar (.int 3 (.signed 64)))

theorem method_calls_only_add_results_of_namedEvidence :
    let types := Prelude.standardTypes
    let int := Ty.con "Int" []
    let negate := Expr.app (.var ⟨"id", int⟩) (.var ⟨"negate", int⟩)
    let negated := Expr.lam ⟨"x", int⟩ (.app negate (.var ⟨"x", int⟩))
    let evidence : Var := ⟨"$d", .tuple [.dict "Int" [], .tuple [.equality (.var "a") int]]⟩
    let call := Expr.methodCall ⟨"==", int⟩ int evidence
    (∃ value s', evalOrdinary types negated scopeWithNamedEvidence .initial = (.ok value, s') ∧
      eval types negated scopeWithNamedEvidence .initial = (.ok value, s')) ∧
    (∃ e, evalOrdinary types call scopeWithNamedEvidence .initial =
      (.error (.failed e), .initial)) ∧
    ∃ value s', eval types call scopeWithNamedEvidence .initial = (.ok value, s') := by
  intro types int negate negated evidence call
  have hevidence : evidence.type.IsConstraint := by
    refine .tuple (by simp) (List.forall_mem_cons.2 ⟨.dict _ _, List.forall_mem_singleton.2 ?_⟩)
    exact .tuple (by simp) (List.forall_mem_singleton.2 (.equality _ _))
  obtain ⟨hsame, hcalls⟩ := method_calls_only_add_results types scopeWithNamedEvidence .initial
  obtain ⟨hfails, hvalue⟩ := hcalls ⟨"==", int⟩ int evidence hevidence
  refine ⟨⟨_, _, rfl, ((hsame _ _ _).1 rfl).1⟩, hfails, ?_⟩
  exact ⟨_, _, (hvalue _ _).2 ⟨.signed 64, rfl, rfl, rfl⟩⟩

end CoreProver
