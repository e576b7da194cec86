import CoreProver.Proofs.Evaluation

/-!
# Failed evaluations

`Raises` lists the ways in which evaluation stops at an expression itself, one rule for each, and
`Fails` adds that a stop inside an expression is passed on as it is. With the rules of `Evaluates`
these are all outcomes of an evaluation, so that what a whole evaluation preserves can be shown for
failures too. In particular, states that evaluations lead to are numbered through, whether the
evaluations succeed or not.
-/

namespace CoreProver

variable {F : Type} [Foreign F]

/-- The construct that an expression is, if it is one that is never evaluated. -/
def Expr.construct? : Expr → Option Construct
  | .lit _ => some .literal
  | .letIn .. | .letRec .. => some .localBinding
  | .cases .. => some .caseDistinction
  | .cast .. => some .cast
  | .type _ => some .bareType
  | .coercion _ => some .bareCoercion
  | .var _ | .app .. | .lam .. | .tick .. => none

/-- Evaluation stops at the expression itself. The parts that had to be evaluated before have
values, and lead from the first state to the second. -/
inductive Raises (types : TypeTable) : Scope F → EvalState → Expr → Stop → EvalState → Prop where
  | unresolvableType {scope : Scope F} {s : EvalState} {v : Var}
      (hk : types.resolve? v.type = none) :
      Raises types scope s (.var v) (.failed ⟨.unresolvableType v, scope.location⟩) s
  | unbound {scope : Scope F} {s : EvalState} {v : Var} {kind : Kind}
      (hk : types.resolve? v.type = some kind) (hv : scope.lookup? ⟨v.name, kind⟩ = none) :
      Raises types scope s (.var v) (.failed ⟨.unbound v kind, scope.location⟩) s
  | notApplicable {scope : Scope F} {s s' : EvalState} {f a : Expr} {t : Term}
      (ha : a.bareType? = none) (hm : methodValue? types scope f a = none)
      (hf : Evaluates types scope s f (.scalar t) s') :
      Raises types scope s (.app f a) (.failed ⟨.notApplicable (.app f a), scope.location⟩) s'
  | refused {scope : Scope F} {s s₁ s₂ : EvalState} {f a : Expr} {op : Operation F}
      {arg : Value F} {why : String} (ha : a.bareType? = none)
      (hm : methodValue? types scope f a = none)
      (hf : Evaluates types scope s f (.function op) s₁)
      (harg : Evaluates types scope s₁ a arg s₂)
      (hc : op.call arg = .error (.refused why)) :
      Raises types scope s (.app f a) (.failed ⟨.misuse why (.app f a), scope.location⟩) s₂
  | crashed {scope : Scope F} {s s₁ s₂ : EvalState} {f a : Expr} {op : Operation F}
      {arg : Value F} {crash : Crash} (ha : a.bareType? = none)
      (hm : methodValue? types scope f a = none)
      (hf : Evaluates types scope s f (.function op) s₁)
      (harg : Evaluates types scope s₁ a arg s₂)
      (hc : op.call arg = .error (.crashed crash)) :
      Raises types scope s (.app f a) (.crashed crash) s₂
  | nonBasicParameter {scope : Scope F} {s : EvalState} {v : Var} {body : Expr}
      (hk : types.resolve? v.type = none) :
      Raises types scope s (.lam v body)
        (.failed ⟨.nonBasicParameter v (.lam v body), scope.location⟩) s
  | unsupported {scope : Scope F} {s : EvalState} {e : Expr} {construct : Construct}
      (he : e.construct? = some construct) :
      Raises types scope s e (.failed ⟨.unsupported construct e, scope.location⟩) s

/-- The expression has no value in the scope: its evaluation leads from the first state to the
second and stops there, at the expression or inside it. -/
inductive Fails (types : TypeTable) : Scope F → EvalState → Expr → Stop → EvalState → Prop where
  | raised {scope : Scope F} {s s' : EvalState} {e : Expr} {stop : Stop}
      (h : Raises types scope s e stop s') : Fails types scope s e stop s'
  | typeApp {scope : Scope F} {s s' : EvalState} {f : Expr} {t : Ty} {stop : Stop}
      (hf : Fails types scope s f stop s') : Fails types scope s (.app f (.type t)) stop s'
  | function {scope : Scope F} {s s' : EvalState} {f a : Expr} {stop : Stop}
      (ha : a.bareType? = none) (hm : methodValue? types scope f a = none)
      (hf : Fails types scope s f stop s') : Fails types scope s (.app f a) stop s'
  | argument {scope : Scope F} {s s₁ s₂ : EvalState} {f a : Expr} {op : Operation F} {stop : Stop}
      (ha : a.bareType? = none) (hm : methodValue? types scope f a = none)
      (hf : Evaluates types scope s f (.function op) s₁)
      (harg : Fails types scope s₁ a stop s₂) : Fails types scope s (.app f a) stop s₂
  | lam {scope : Scope F} {s s' : EvalState} {v : Var} {body : Expr} {kind : Kind} {stop : Stop}
      (hk : types.resolve? v.type = some kind)
      (hb : Fails types (scope.extend ⟨v.name, kind⟩ (.scalar (.var (s.nextVar v.name kind))))
        (s.allocate v.name kind) body stop s') :
      Fails types scope s (.lam v body) stop s'
  | tick {scope : Scope F} {s s' : EvalState} {location : Location} {body : Expr} {stop : Stop}
      (hb : Fails types (scope.moveTo location) s body stop s') :
      Fails types scope s (.tick location body) stop s'

/-! ### The rules and the evaluator -/

theorem Raises.of_evalVar {types : TypeTable} {scope : Scope F} {s : EvalState} {v : Var}
    {stop : Stop} (h : evalVar types scope v = .error stop) :
    Raises types scope s (.var v) stop s := by
  unfold evalVar at h
  cases hk : types.resolve? v.type with
  | none =>
    simp only [hk, Scope.fail, Except.error.injEq] at h
    exact h ▸ .unresolvableType hk
  | some kind =>
    cases hv : scope.lookup? ⟨v.name, kind⟩ with
    | none =>
      simp only [hk, hv, Scope.fail, Except.error.injEq] at h
      exact h ▸ .unbound hk hv
    | some value => simp [hk, hv] at h

theorem Fails.of_eval {types : TypeTable} {e : Expr} {scope : Scope F} {s s' : EvalState}
    {stop : Stop} (h : eval types e scope s = (.error stop, s')) :
    Fails types scope s e stop s' := by
  induction e, scope, s using eval.induct (F := F) types generalizing stop s' with
  | case1 v scope s =>
    rw [eval, Prod.mk.injEq] at h
    obtain ⟨hv, rfl⟩ := h
    exact .raised (.of_evalVar hv)
  | case2 f t scope s ih =>
    rw [eval] at h
    exact .typeApp (ih h)
  | case3 f a scope s ha result hm =>
    rw [eval.eq_3 types scope s f a ha, hm] at h
    simp at h
  | case4 f a scope s ha hm stop' s₁ hf ih =>
    rw [eval.eq_3 types scope s f a ha, hm] at h
    simp only [hf] at h
    exact .function ((Expr.bareType?_eq_none_iff a).2 ha) hm (ih (hf.trans h))
  | case5 f a scope s ha hm term s₁ hf =>
    rw [eval.eq_3 types scope s f a ha, hm] at h
    simp only [hf, Scope.fail, Prod.mk.injEq, Except.error.injEq] at h
    obtain ⟨rfl, rfl⟩ := h
    exact .raised (.notApplicable ((Expr.bareType?_eq_none_iff a).2 ha) hm (.of_eval hf))
  | case6 f a scope s ha hm op s₁ hf stop' s₂ harg _ ih =>
    rw [eval.eq_3 types scope s f a ha, hm] at h
    simp only [hf, harg] at h
    exact .argument ((Expr.bareType?_eq_none_iff a).2 ha) hm (.of_eval hf) (ih (harg.trans h))
  | case7 f a scope s ha hm op s₁ hf arg s₂ harg =>
    have hbare := (Expr.bareType?_eq_none_iff a).2 ha
    rw [eval.eq_3 types scope s f a ha, hm] at h
    simp only [hf, harg, Prod.mk.injEq] at h
    obtain ⟨hcall, rfl⟩ := h
    rcases hc : op.call arg with (why | crash) | value
    · simp only [hc, callResult, Scope.fail, Except.error.injEq] at hcall
      exact hcall ▸ .raised (.refused hbare hm (.of_eval hf) (.of_eval harg) hc)
    · simp only [hc, callResult, Except.error.injEq] at hcall
      exact hcall ▸ .raised (.crashed hbare hm (.of_eval hf) (.of_eval harg) hc)
    · simp [hc, callResult] at hcall
  | case8 v body scope s hk =>
    simp only [eval, hk, Scope.fail, Prod.mk.injEq, Except.error.injEq] at h
    obtain ⟨rfl, rfl⟩ := h
    exact .raised (.nonBasicParameter hk)
  | case9 v body scope s kind hk ih =>
    simp only [eval, hk] at h
    exact .lam hk (ih h)
  | case10 location body scope s ih =>
    rw [eval] at h
    exact .tick (ih h)
  | case11 | case12 | case13 | case14 | case15 | case16 | case17 =>
    simp only [eval, Scope.fail, Prod.mk.injEq, Except.error.injEq] at h
    obtain ⟨rfl, rfl⟩ := h
    exact .raised (.unsupported rfl)

theorem Raises.eval_eq {types : TypeTable} {e : Expr} {scope : Scope F} {s s' : EvalState}
    {stop : Stop} (h : Raises types scope s e stop s') :
    eval types e scope s = (.error stop, s') := by
  cases h with
  | unresolvableType hk => simp [eval, evalVar, hk, Scope.fail]
  | unbound hk hv => simp [eval, evalVar, hk, hv, Scope.fail]
  | notApplicable ha hm hf =>
    rw [eval.eq_3 types _ _ _ _ ((Expr.bareType?_eq_none_iff _).1 ha), hm]
    simp only [hf.eval_eq, Scope.fail]
  | refused ha hm hf harg hc | crashed ha hm hf harg hc =>
    rw [eval.eq_3 types _ _ _ _ ((Expr.bareType?_eq_none_iff _).1 ha), hm]
    simp only [hf.eval_eq, harg.eval_eq, hc, callResult, Scope.fail]
  | nonBasicParameter hk => simp only [eval, hk, Scope.fail]
  | unsupported he =>
    cases e with
    | var | app | lam | tick => cases he
    | lit | letIn | letRec | cases | cast | type | coercion =>
      cases he
      simp only [eval, Scope.fail]

theorem Fails.eval_eq {types : TypeTable} {e : Expr} {scope : Scope F} {s s' : EvalState}
    {stop : Stop} (h : Fails types scope s e stop s') :
    eval types e scope s = (.error stop, s') := by
  induction h with
  | raised h => exact h.eval_eq
  | typeApp _ ih => rw [eval, ih]
  | function ha hm _ ih =>
    rw [eval.eq_3 types _ _ _ _ ((Expr.bareType?_eq_none_iff _).1 ha), hm]
    simp only [ih]
  | argument ha hm hf _ ih =>
    rw [eval.eq_3 types _ _ _ _ ((Expr.bareType?_eq_none_iff _).1 ha), hm]
    simp only [hf.eval_eq, ih]
  | lam hk _ ih => simp only [eval, hk, ih]
  | tick _ ih => rw [eval, ih]

/-- Evaluation stops exactly by the rules. -/
theorem eval_eq_error_iff (types : TypeTable) (e : Expr) (scope : Scope F) (s s' : EvalState)
    (stop : Stop) :
    eval types e scope s = (.error stop, s') ↔ Fails types scope s e stop s' :=
  ⟨Fails.of_eval, Fails.eval_eq⟩

/-- An expression is no scalar if it has no value, or if its value is a function. -/
theorem evalScalar_eq_error_iff (types : TypeTable) (e : Expr) (scope : Scope F) (s s' : EvalState)
    (stop : Stop) :
    evalScalar types e scope s = (.error stop, s') ↔
      Fails types scope s e stop s' ∨
        (∃ op, Evaluates types scope s e (.function op) s') ∧
          stop = .failed ⟨.tooComplicated e, scope.location⟩ := by
  simp only [← eval_eq_error_iff, ← eval_eq_ok_iff]
  unfold evalScalar
  rcases eval types e scope s with ⟨stop' | ⟨t⟩ | ⟨op⟩, s₁⟩
  · simp
  · simp
  · simp only [Scope.fail, Prod.mk.injEq, Except.error.injEq, reduceCtorEq, false_and, false_or,
      Except.ok.injEq, Value.function.injEq]
    constructor
    · rintro ⟨rfl, rfl⟩
      exact ⟨⟨op, rfl, rfl⟩, rfl⟩
    · rintro ⟨⟨-, -, rfl⟩, rfl⟩
      exact ⟨rfl, rfl⟩

/-- A property has no obligation if it is no scalar, or one that is not Boolean. -/
theorem evalProperty_eq_error_iff (types : TypeTable) (e : Expr) (scope : Scope F)
    (s s' : EvalState) (stop : Stop) :
    evalProperty types e scope s = (.error stop, s') ↔
      evalScalar types e scope s = (.error stop, s') ∨
        ∃ t, Evaluates types scope s e (.scalar t) s' ∧ t.kind ≠ .bool ∧
          stop = .failed ⟨.notBoolean t.kind e, scope.location⟩ := by
  simp only [← evalScalar_eq_ok_iff]
  unfold evalProperty
  rcases evalScalar types e scope s with ⟨stop' | t, s₁⟩
  · simp
  · by_cases hk : t.kind = .bool
    · simp only [hk, if_true, Prod.mk.injEq, reduceCtorEq, false_and, false_or, Except.ok.injEq,
        false_iff, not_exists, not_and]
      rintro u ⟨rfl, -⟩ hu
      exact absurd hk hu
    · simp only [hk, if_false, Scope.fail, Prod.mk.injEq, Except.error.injEq, reduceCtorEq,
        false_and, false_or, Except.ok.injEq]
      constructor
      · rintro ⟨rfl, rfl⟩
        exact ⟨t, ⟨rfl, rfl⟩, hk, rfl⟩
      · rintro ⟨u, ⟨rfl, rfl⟩, -, rfl⟩
        exact ⟨rfl, rfl⟩

theorem evalSafety_eq_error_iff (types : TypeTable) (e : Expr) (scope : Scope F) (s s' : EvalState)
    (stop : Stop) :
    evalSafety types e scope s = (.error stop, s') ↔
      evalScalar types e scope s = (.error stop, s') := by
  unfold evalSafety
  rcases evalScalar types e scope s with ⟨stop' | t, s₁⟩ <;> simp

/-! ### States -/

theorem Raises.numbered {types : TypeTable} {e : Expr} {scope : Scope F} {s s' : EvalState}
    {stop : Stop} (h : Raises types scope s e stop s') (hs : s.Numbered) : s'.Numbered := by
  cases h with
  | unresolvableType | unbound | nonBasicParameter | unsupported => exact hs
  | notApplicable _ _ hf => exact hf.numbered hs
  | refused _ _ hf harg | crashed _ _ hf harg => exact harg.numbered (hf.numbered hs)

/-- A failed evaluation goes on with the numbering up to where it stops. -/
theorem Fails.numbered {types : TypeTable} {e : Expr} {scope : Scope F} {s s' : EvalState}
    {stop : Stop} (h : Fails types scope s e stop s') (hs : s.Numbered) : s'.Numbered := by
  induction h with
  | raised h => exact h.numbered hs
  | typeApp _ ih | function _ _ _ ih | tick _ ih => exact ih hs
  | argument _ _ hf _ ih => exact ih (hf.numbered hs)
  | lam _ _ ih => exact ih (hs.allocate _ _)

theorem eval_numbered (types : TypeTable) (e : Expr) (scope : Scope F) {s : EvalState}
    (hs : s.Numbered) : (eval types e scope s).2.Numbered := by
  rcases h : eval types e scope s with ⟨stop | value, s'⟩
  · exact (Fails.of_eval h).numbered hs
  · exact (Evaluates.of_eval h).numbered hs

end CoreProver
