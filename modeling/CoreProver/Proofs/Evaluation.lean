import CoreProver.Eval.Basic
import Mathlib.Data.List.Forall2
import Mathlib.Tactic.Common

/-!
# Successful evaluations

`Evaluates` lists the ways in which an expression comes to a value, one rule for each. Evaluation
succeeds exactly by these rules, so that what a whole evaluation preserves is an induction on the
rules used.
-/

namespace CoreProver

variable {F : Type}

theorem Expr.bareType?_eq_none_iff (e : Expr) :
    e.bareType? = none ↔ ∀ t, e = .type t → False := by
  cases e <;> simp [Expr.bareType?]

theorem callResult_eq_ok_iff (scope : Scope F) (e : Expr) (r : Except CallFailure (Value F))
    (value : Value F) : callResult scope e r = .ok value ↔ r = .ok value := by
  cases r with
  | ok v => simp [callResult]
  | error f => cases f <;> simp [callResult, Scope.fail]

theorem evalVar_eq_ok_iff (types : TypeTable) (scope : Scope F) (v : Var) (value : Value F) :
    evalVar types scope v = .ok value ↔
      ∃ kind, types.resolve? v.type = some kind ∧ scope.lookup? ⟨v.name, kind⟩ = some value := by
  unfold evalVar
  cases hk : types.resolve? v.type with
  | none => simp [Scope.fail]
  | some kind =>
    cases hv : scope.lookup? ⟨v.name, kind⟩ <;> simp [Scope.fail, hv]

/-- A method call consists of a variable, a type and a variable that is evidence. -/
theorem MethodCall.exists_of_isSome_ofApp? {f a : Expr} (h : (ofApp? f a).isSome = true) :
    ∃ method t d, f = .app (.var method) (.type t) ∧ a = .var d ∧
      d.type.evidence?.isSome = true := by
  unfold ofApp? at h
  split at h
  · exact ⟨_, _, _, rfl, rfl, by simpa using h⟩
  · cases h

theorem isSome_ofApp?_of_methodValue?_eq_some {types : TypeTable} {scope : Scope F} {f a : Expr}
    {value : Value F} (h : methodValue? types scope f a = some value) :
    (MethodCall.ofApp? f a).isSome = true := by
  obtain ⟨c, hc, -⟩ := Option.bind_eq_some_iff.1 h
  exact Option.isSome_of_eq_some hc

theorem exists_of_methodValue?_eq_some {types : TypeTable} {scope : Scope F} {f a : Expr}
    {value : Value F} (h : methodValue? types scope f a = some value) :
    ∃ method t d, f = .app (.var method) (.type t) ∧ a = .var d := by
  obtain ⟨method, t, d, hf, ha, -⟩ :=
    MethodCall.exists_of_isSome_ofApp? (isSome_ofApp?_of_methodValue?_eq_some h)
  exact ⟨method, t, d, hf, ha⟩

/-- A method call has a value that the scope holds. -/
theorem exists_lookup?_of_methodValue?_eq_some {types : TypeTable} {scope : Scope F} {f a : Expr}
    {value : Value F} (h : methodValue? types scope f a = some value) :
    ∃ key, scope.lookup? key = some value := by
  obtain ⟨c, -, hc⟩ := Option.bind_eq_some_iff.1 h
  obtain ⟨kind, -, hv⟩ := Option.bind_eq_some_iff.1 hc
  exact ⟨_, hv⟩

/-! ### Entries that correspond -/

theorem exists_of_rel_some {α β : Type} {r : α → β → Prop} {x : Option α} {b : β}
    (h : Option.Rel r x (some b)) : ∃ a, x = some a ∧ r a b := by
  cases h with
  | some hab => exact ⟨_, rfl, hab⟩

theorem eq_none_of_rel_none {α β : Type} {r : α → β → Prop} {x : Option α}
    (h : Option.Rel r x none) : x = none := by
  cases h with
  | none => rfl

/-- Where the entries of two lists correspond, the first ones under a key do. -/
theorem rel_find? {α β : Type} {r : α → β → Prop} {xs : List (Key × α)} {ys : List (Key × β)}
    (h : List.Forall₂ (fun x y => x.1 = y.1 ∧ r x.2 y.2) xs ys) (key : Key) :
    Option.Rel r ((xs.find? fun x => x.1 = key).map Prod.snd)
      ((ys.find? fun y => y.1 = key).map Prod.snd) := by
  induction h with
  | nil => exact .none
  | @cons x y xs ys hxy _ ih =>
    obtain ⟨hkey, hr⟩ := hxy
    by_cases hy : y.1 = key
    · have hx : x.1 = key := hkey.trans hy
      simp only [List.find?_cons, hx, hy, decide_true]
      exact .some hr
    · have hx : x.1 ≠ key := fun hx => hy (hkey.symm.trans hx)
      simpa [List.find?_cons, hx, hy] using ih

theorem rel_map_map {α β γ : Type} {r : β → γ → Prop} {f : α → β} {g : α → γ} {xs : List α}
    (h : ∀ x ∈ xs, r (f x) (g x)) : List.Forall₂ r (xs.map f) (xs.map g) := by
  rw [List.forall₂_map_left_iff, List.forall₂_map_right_iff, List.forall₂_same]
  exact h

/-- Looking up in a scope is looking up in its frames one after the other. -/
theorem Scope.lookup?_eq_flatten (scope : Scope F) (key : Key) :
    scope.lookup? key = Frame.lookup? scope.frames.flatten key := by
  obtain ⟨frames, location⟩ := scope
  simp only [Scope.lookup?]
  induction frames with
  | nil => rfl
  | cons f fs ih =>
    rw [List.findSome?_cons, List.flatten_cons, ih]
    simp only [Frame.lookup?, List.find?_append]
    cases List.find? (fun e => decide (e.1 = key)) f <;> rfl

/-- Where entries correspond to those of a scope, method calls do. -/
theorem rel_methodValue? {α : Type} {r : α → Value F → Prop} {find : Key → Option α}
    {scope : Scope F} (h : ∀ key, Option.Rel r (find key) (scope.lookup? key))
    (types : TypeTable) (f a : Expr) :
    Option.Rel r
      ((MethodCall.ofApp? f a).bind fun c =>
        (types.resolve? c.type).bind fun kind => find ⟨c.method.name, kind⟩)
      (methodValue? types scope f a) := by
  unfold methodValue? MethodCall.resolve?
  cases MethodCall.ofApp? f a with
  | none => exact .none
  | some c =>
    simp only [Option.bind_some]
    cases types.resolve? c.type with
    | none => exact .none
    | some kind => exact h _

/-! ### The rules -/

variable [Foreign F]

/-- The expression has the value in the scope, and the evaluation leads from the first state to the
second. -/
inductive Evaluates (types : TypeTable) :
    Scope F → EvalState → Expr → Value F → EvalState → Prop where
  | var {scope : Scope F} {s : EvalState} {v : Var} {kind : Kind} {value : Value F}
      (hk : types.resolve? v.type = some kind)
      (hv : scope.lookup? ⟨v.name, kind⟩ = some value) :
      Evaluates types scope s (.var v) value s
  | typeApp {scope : Scope F} {s s' : EvalState} {f : Expr} {t : Ty} {value : Value F}
      (hf : Evaluates types scope s f value s') :
      Evaluates types scope s (.app f (.type t)) value s'
  | method {scope : Scope F} {s : EvalState} {f a : Expr} {value : Value F}
      (ha : a.bareType? = none) (hm : methodValue? types scope f a = some value) :
      Evaluates types scope s (.app f a) value (s.noteCall (.app f a))
  | app {scope : Scope F} {s s₁ s₂ : EvalState} {f a : Expr} {op : Operation F}
      {arg value : Value F} (ha : a.bareType? = none) (hm : methodValue? types scope f a = none)
      (hf : Evaluates types scope s f (.function op) s₁)
      (harg : Evaluates types scope s₁ a arg s₂) (hc : op.call arg = .ok value) :
      Evaluates types scope s (.app f a) value s₂
  | lam {scope : Scope F} {s s' : EvalState} {v : Var} {body : Expr} {kind : Kind} {value : Value F}
      (hk : types.resolve? v.type = some kind)
      (hb : Evaluates types
        (scope.extend ⟨v.name, kind⟩ (.scalar (.var (s.nextVar v.name kind))))
        (s.allocate v.name kind) body value s') :
      Evaluates types scope s (.lam v body) value s'
  | tick {scope : Scope F} {s s' : EvalState} {location : Location} {body : Expr} {value : Value F}
      (hb : Evaluates types (scope.moveTo location) s body value s') :
      Evaluates types scope s (.tick location body) value s'

/-- Every value that evaluation returns comes from one of the rules. -/
theorem Evaluates.of_eval {types : TypeTable} {e : Expr} {scope : Scope F} {s s' : EvalState}
    {value : Value F} (h : eval types e scope s = (.ok value, s')) :
    Evaluates types scope s e value s' := by
  induction e, scope, s using eval.induct (F := F) types generalizing value s' with
  | case1 v scope s =>
    rw [eval, Prod.mk.injEq, evalVar_eq_ok_iff] at h
    obtain ⟨⟨kind, hk, hv⟩, rfl⟩ := h
    exact .var hk hv
  | case2 f t scope s ih =>
    rw [eval] at h
    exact .typeApp (ih h)
  | case3 f a scope s ha result hm =>
    rw [eval.eq_3 types scope s f a ha, hm, Prod.mk.injEq] at h
    obtain ⟨hv, rfl⟩ := h
    cases hv
    exact .method ((Expr.bareType?_eq_none_iff a).2 ha) hm
  | case4 f a scope s ha hm stop s₁ hf =>
    rw [eval.eq_3 types scope s f a ha, hm] at h
    simp [hf] at h
  | case5 f a scope s ha hm term s₁ hf =>
    rw [eval.eq_3 types scope s f a ha, hm] at h
    simp [hf, Scope.fail] at h
  | case6 f a scope s ha hm op s₁ hf stop s₂ harg =>
    rw [eval.eq_3 types scope s f a ha, hm] at h
    simp [hf, harg] at h
  | case7 f a scope s ha hm op s₁ hf arg s₂ harg ihf iha =>
    rw [eval.eq_3 types scope s f a ha, hm] at h
    simp only [hf, harg, Prod.mk.injEq, callResult_eq_ok_iff] at h
    obtain ⟨hc, rfl⟩ := h
    exact .app ((Expr.bareType?_eq_none_iff a).2 ha) hm (ihf hf) (iha harg) hc
  | case8 v body scope s hk =>
    simp [eval, hk, Scope.fail] at h
  | case9 v body scope s kind hk ih =>
    simp only [eval, hk] at h
    exact .lam hk (ih h)
  | case10 location body scope s ih =>
    rw [eval] at h
    exact .tick (ih h)
  | case11 | case12 | case13 | case14 | case15 | case16 | case17 =>
    simp [eval, Scope.fail] at h

theorem Evaluates.eval_eq {types : TypeTable} {e : Expr} {scope : Scope F} {s s' : EvalState}
    {value : Value F} (h : Evaluates types scope s e value s') :
    eval types e scope s = (.ok value, s') := by
  induction h with
  | var hk hv => rw [eval, (evalVar_eq_ok_iff types _ _ _).2 ⟨_, hk, hv⟩]
  | typeApp _ ih => rw [eval, ih]
  | method ha hm => rw [eval.eq_3 types _ _ _ _ ((Expr.bareType?_eq_none_iff _).1 ha), hm]
  | app ha hm _ _ hc ihf iha =>
    rw [eval.eq_3 types _ _ _ _ ((Expr.bareType?_eq_none_iff _).1 ha), hm]
    simp only [ihf, iha, hc, callResult]
  | lam hk _ ih => simp only [eval, hk, ih]
  | tick _ ih => rw [eval, ih]

/-- Evaluation succeeds exactly by the rules. -/
theorem eval_eq_ok_iff (types : TypeTable) (e : Expr) (scope : Scope F) (s s' : EvalState)
    (value : Value F) :
    eval types e scope s = (.ok value, s') ↔ Evaluates types scope s e value s' :=
  ⟨Evaluates.of_eval, Evaluates.eval_eq⟩

/-- An application to a bare type has the value of its function; any other is a method call, or it
applies the value of its function to that of its argument. -/
theorem Evaluates.app_inv {types : TypeTable} {f a : Expr} {scope : Scope F} {s s' : EvalState}
    {value : Value F} (h : Evaluates types scope s (.app f a) value s') :
    (a.bareType?.isSome = true ∧ Evaluates types scope s f value s') ∨
    (methodValue? types scope f a = some value ∧ s' = s.noteCall (.app f a)) ∨
    ∃ op s₁ arg, Evaluates types scope s f (.function op) s₁ ∧
      Evaluates types scope s₁ a arg s' ∧ op.call arg = .ok value := by
  cases h with
  | typeApp hf => exact .inl ⟨rfl, hf⟩
  | method _ hm => exact .inr (.inl ⟨hm, rfl⟩)
  | app _ _ hf harg hc => exact .inr (.inr ⟨_, _, _, hf, harg, hc⟩)

theorem evalScalar_eq_ok_iff (types : TypeTable) (e : Expr) (scope : Scope F) (s s' : EvalState)
    (t : Term) :
    evalScalar types e scope s = (.ok t, s') ↔ Evaluates types scope s e (.scalar t) s' := by
  rw [← eval_eq_ok_iff]
  unfold evalScalar
  rcases eval types e scope s with ⟨stop | ⟨u⟩ | ⟨op⟩, s₁⟩ <;> simp [Scope.fail]

/-- A property has an obligation exactly when its body is a Boolean scalar. -/
theorem evalProperty_eq_ok_iff (types : TypeTable) (e : Expr) (scope : Scope F) (s s' : EvalState)
    (o : Obligation) :
    evalProperty types e scope s = (.ok o, s') ↔
      ∃ goal, Evaluates types scope s e (.scalar goal) s' ∧ goal.kind = .bool ∧
        o = .ofGoal s'.fresh goal := by
  simp only [← evalScalar_eq_ok_iff]
  unfold evalProperty
  rcases evalScalar types e scope s with ⟨stop | t, s₁⟩
  · simp
  · by_cases hk : t.kind = .bool
    · simp only [hk, if_true, Prod.mk.injEq, Except.ok.injEq]
      constructor
      · rintro ⟨rfl, rfl⟩
        exact ⟨t, ⟨rfl, rfl⟩, hk, rfl⟩
      · rintro ⟨goal, ⟨rfl, rfl⟩, -, rfl⟩
        exact ⟨rfl, rfl⟩
    · simp only [hk, if_false, Scope.fail, Prod.mk.injEq, reduceCtorEq, false_and, Except.ok.injEq,
        false_iff, not_exists, not_and]
      rintro goal ⟨rfl, -⟩ h
      exact absurd h hk

theorem evalSafety_eq_ok_iff (types : TypeTable) (e : Expr) (scope : Scope F) (s s' : EvalState)
    (o : Obligation) :
    evalSafety types e scope s = (.ok o, s') ↔
      ∃ t, Evaluates types scope s e (.scalar t) s' ∧
        o = .ofGoal s'.fresh (.all t.safetyConditions) := by
  simp only [← evalScalar_eq_ok_iff]
  unfold evalSafety
  rcases evalScalar types e scope s with ⟨stop | t, s₁⟩
  · simp
  · simp only [Prod.mk.injEq, Except.ok.injEq]
    constructor
    · rintro ⟨rfl, rfl⟩
      exact ⟨t, ⟨rfl, rfl⟩, rfl⟩
    · rintro ⟨u, ⟨rfl, rfl⟩, rfl⟩
      exact ⟨rfl, rfl⟩

/-- A method at a type, with evidence for it. -/
def Expr.methodAt (name : String) (t : Ty) : Expr :=
  .app (.app (.var ⟨name, .forAll "a" (.var "a")⟩) (.type t)) (.var ⟨"$d", .dict "D" [t]⟩)

/-! ### Abstractions -/

mutual

/-- The binders of all abstractions in an expression, from left to right. -/
def Expr.lambdas : Expr → List Var
  | .var _ | .lit _ | .type _ | .coercion _ => []
  | .app function argument => function.lambdas ++ argument.lambdas
  | .lam binder body => binder :: body.lambdas
  | .letIn _ bound body => bound.lambdas ++ body.lambdas
  | .letRec group body => groupLambdas group ++ body.lambdas
  | .cases scrutinee _ _ alternatives => scrutinee.lambdas ++ alternativeLambdas alternatives
  | .cast body _ | .tick _ body => body.lambdas

/-- The binders of the abstractions in bound expressions. -/
def Expr.groupLambdas : List (Var × Expr) → List Var
  | [] => []
  | (_, e) :: rest => e.lambdas ++ groupLambdas rest

def Expr.alternativeLambdas : List Alternative → List Var
  | [] => []
  | .mk _ _ body :: rest => body.lambdas ++ alternativeLambdas rest

end

/-- The parameters of the abstractions that an expression starts with. Markers may stand between
them. -/
def Expr.parameters : Expr → List Var
  | .lam binder body => binder :: body.parameters
  | .tick _ body => body.parameters
  | _ => []

/-- What stands under the parameters. -/
def Expr.inner : Expr → Expr
  | .lam _ body => body.inner
  | .tick _ body => body.inner
  | e => e

/-! ### Allocated variables -/

/-- The variable is the one for an abstraction over the binder, with the number. -/
def TypeTable.Allocates (types : TypeTable) (numbered : Var × Nat) (v : SymVar) : Prop :=
  ∃ kind, types.resolve? numbered.1.type = some kind ∧
    v = ⟨numbered.2, numbered.1.name, kind, .parameter⟩

/-- Every abstraction allocates one variable. They are numbered through from left to right, an
abstraction before those in its body. -/
theorem Evaluates.exists_allocates {types : TypeTable} {e : Expr} {scope : Scope F}
    {s s' : EvalState} {value : Value F} (h : Evaluates types scope s e value s') :
    ∃ vars, s'.fresh = s.fresh ++ vars ∧
      List.Forall₂ types.Allocates (e.lambdas.zipIdx s.fresh.length) vars := by
  induction h with
  | var => exact ⟨[], by simp, .nil⟩
  | typeApp _ ih => simpa [Expr.lambdas] using ih
  | method _ hm =>
    obtain ⟨method, t, d, rfl, rfl⟩ := exists_of_methodValue?_eq_some hm
    exact ⟨[], by simp [EvalState.noteCall], .nil⟩
  | @app scope s s₁ s₂ f a op arg value _ _ _ _ _ ihf iha =>
    obtain ⟨vars, hv, hvars⟩ := ihf
    obtain ⟨vars', hv', hvars'⟩ := iha
    have hlength : s₁.fresh.length = s.fresh.length + f.lambdas.length := by
      rw [hv, List.length_append, ← hvars.length_eq, List.length_zipIdx]
    rw [hlength] at hvars'
    refine ⟨vars ++ vars', by rw [hv', hv, List.append_assoc], ?_⟩
    rw [Expr.lambdas, List.zipIdx_append]
    exact List.rel_append hvars hvars'
  | @lam scope s s' v body kind value hk _ ih =>
    obtain ⟨vars, hv, hvars⟩ := ih
    refine ⟨s.nextVar v.name kind :: vars, by simp [hv, EvalState.allocate], ?_⟩
    rw [Expr.lambdas, List.zipIdx_cons]
    exact .cons ⟨kind, hk, rfl⟩ (by simpa [EvalState.allocate] using hvars)
  | tick _ ih => exact ih

theorem Evaluates.exists_fresh_eq {types : TypeTable} {e : Expr} {scope : Scope F}
    {s s' : EvalState} {value : Value F} (h : Evaluates types scope s e value s') :
    ∃ vars, s'.fresh = s.fresh ++ vars ∧ vars.length = e.lambdas.length := by
  obtain ⟨vars, hv, hvars⟩ := h.exists_allocates
  exact ⟨vars, hv, by rw [← hvars.length_eq, List.length_zipIdx]⟩

/-- Nothing that was allocated is lost. -/
theorem Evaluates.fresh_prefix {types : TypeTable} {e : Expr} {scope : Scope F} {s s' : EvalState}
    {value : Value F} (h : Evaluates types scope s e value s') : s.fresh <+: s'.fresh := by
  induction h with
  | var => exact List.prefix_rfl
  | typeApp _ ih => exact ih
  | method => exact List.prefix_rfl
  | app _ _ _ _ _ ihf iha => exact ihf.trans iha
  | lam _ _ ih => exact (List.prefix_append _ _).trans ih
  | tick _ ih => exact ih

/-- The variables of the state are parameters, each numbered by those before it. -/
def EvalState.Numbered (s : EvalState) : Prop :=
  s.fresh.map SymVar.id = List.range s.fresh.length ∧ ∀ v ∈ s.fresh, v.origin = .parameter

theorem EvalState.numbered_initial : EvalState.initial.Numbered := by
  simp [Numbered, initial]

theorem EvalState.Numbered.allocate {s : EvalState} (h : s.Numbered) (name : String)
    (kind : Kind) : (s.allocate name kind).Numbered := by
  obtain ⟨hid, ho⟩ := h
  refine ⟨?_, ?_⟩
  · simp [EvalState.allocate, EvalState.nextVar, hid, List.range_succ]
  · intro v hv
    simp only [EvalState.allocate, List.mem_append, List.mem_singleton] at hv
    rcases hv with hv | rfl
    · exact ho v hv
    · rfl

theorem Evaluates.numbered {types : TypeTable} {e : Expr} {scope : Scope F} {s s' : EvalState}
    {value : Value F} (h : Evaluates types scope s e value s') (hs : s.Numbered) : s'.Numbered := by
  induction h with
  | var => exact hs
  | typeApp _ ih => exact ih hs
  | method => exact hs
  | app _ _ _ _ _ ihf iha => exact iha (ihf hs)
  | lam _ _ ih => exact ih (hs.allocate _ _)
  | tick _ ih => exact ih hs

end CoreProver
