import CoreProver.Proofs.Evaluation

/-!
# Location markers

Markers stand for nothing but a location, yet evaluation tells a type argument and a method call by
their shape, and a marker inside hides it. Such an expression has no value: a bare type has none,
and neither has the evidence of a method call. So an expression has a value exactly when it has the
same one without its markers and no marker hides a shape.
-/

namespace CoreProver

mutual

/-- The expression without its markers. -/
def Expr.unmarked : Expr → Expr
  | .var v => .var v
  | .lit value => .lit value
  | .app function argument => .app function.unmarked argument.unmarked
  | .lam binder body => .lam binder body.unmarked
  | .letIn binder bound body => .letIn binder bound.unmarked body.unmarked
  | .letRec group body => .letRec (unmarkedGroup group) body.unmarked
  | .cases scrutinee binder t alternatives =>
    .cases scrutinee.unmarked binder t (unmarkedAlternatives alternatives)
  | .cast body c => .cast body.unmarked c
  | .tick _ body => body.unmarked
  | .type t => .type t
  | .coercion c => .coercion c

def Expr.unmarkedGroup : List (Var × Expr) → List (Var × Expr)
  | [] => []
  | (binder, e) :: rest => (binder, e.unmarked) :: unmarkedGroup rest

def Expr.unmarkedAlternatives : List Alternative → List Alternative
  | [] => []
  | .mk pattern binders body :: rest =>
    .mk pattern binders body.unmarked :: unmarkedAlternatives rest

end

/-- No marker hides a shape: type arguments are bare types, and within a method call nothing is
marked. -/
def Expr.plainCalls : Expr → Bool
  | .app f a =>
    if a.unmarked.bareType?.isSome then a.bareType?.isSome && f.plainCalls
    else if (MethodCall.ofApp? f.unmarked a.unmarked).isSome then (MethodCall.ofApp? f a).isSome
    else f.plainCalls && a.plainCalls
  | .lam _ body | .tick _ body => body.plainCalls
  | _ => true

/-! ### Shapes -/

variable {F : Type}

theorem TypeTable.resolve?_eq_none_of_evidence (types : TypeTable) {t : Ty}
    (h : t.evidence?.isSome = true) : types.resolve? t = none := by
  cases t with
  | con name args => simp [Ty.evidence?] at h
  | _ => rfl

theorem methodValue?_eq_none_of_ofApp? (types : TypeTable) (scope : Scope F) {f a : Expr}
    (h : MethodCall.ofApp? f a = none) : methodValue? types scope f a = none := by
  rw [methodValue?, h, Option.bind_none]

theorem Scope.lookup?_congr {scope scope' : Scope F} (h : scope'.frames = scope.frames)
    (key : Key) :
    scope'.lookup? key = scope.lookup? key := by
  rw [Scope.lookup?, Scope.lookup?, h]

theorem Scope.frames_extend_congr {scope scope' : Scope F} (h : scope'.frames = scope.frames)
    (key : Key) (value : Value F) :
    (scope'.extend key value).frames = (scope.extend key value).frames := by
  rw [Scope.extend, Scope.extend, h]

theorem methodValue?_congr (types : TypeTable) {scope scope' : Scope F}
    (h : scope'.frames = scope.frames) (f a : Expr) :
    methodValue? types scope' f a = methodValue? types scope f a := by
  simp only [methodValue?, MethodCall.resolve?, Scope.lookup?_congr h]

/-! ### What has a value -/

variable [Foreign F]

section

variable {types : TypeTable} {scope scope' : Scope F} {s s' : EvalState} {e : Expr}
  {value : Value F}

theorem Evaluates.bareType?_eq_none (h : Evaluates types scope s e value s') :
    e.bareType? = none := by
  cases h <;> rfl

/-- What has a value is not evidence. -/
theorem Evaluates.ofApp?_eq_none (h : Evaluates types scope s e value s') (f : Expr) :
    MethodCall.ofApp? f e = none := by
  rw [← Option.not_isSome_iff_eq_none]
  intro hcall
  obtain ⟨method, t, d, -, rfl, hd⟩ := MethodCall.exists_of_isSome_ofApp? hcall
  cases h with
  | var hk _ =>
    rw [types.resolve?_eq_none_of_evidence hd] at hk
    cases hk

/-- Where an expression has a value, no marker hides a shape, and the value is there without the
markers. The location may be another one. -/
theorem Evaluates.unmarked (h : Evaluates types scope s e value s')
    (hscope : scope'.frames = scope.frames) :
    e.plainCalls = true ∧ Evaluates types scope' s e.unmarked value s' := by
  induction h generalizing scope' with
  | var hk hv => exact ⟨rfl, .var hk (Scope.lookup?_congr hscope _ ▸ hv)⟩
  | typeApp _ ih =>
    obtain ⟨hplain, heval⟩ := ih hscope
    exact ⟨by simpa [Expr.plainCalls, Expr.unmarked, Expr.bareType?] using hplain, .typeApp heval⟩
  | @method scope s f a value ha hm =>
    have hcall := isSome_ofApp?_of_methodValue?_eq_some hm
    obtain ⟨method, t, d, rfl, rfl, -⟩ := MethodCall.exists_of_isSome_ofApp? hcall
    exact ⟨by simp [Expr.plainCalls, Expr.unmarked, Expr.bareType?, hcall],
      .method ha (methodValue?_congr types hscope _ _ ▸ hm)⟩
  | app _ _ _ _ hc ihf iha =>
    obtain ⟨hplainf, hevalf⟩ := ihf hscope
    obtain ⟨hplaina, hevala⟩ := iha hscope
    have hbare := hevala.bareType?_eq_none
    -- the argument has a value, so the application is no method call without its markers either
    have hcall := hevala.ofApp?_eq_none
    refine ⟨?_, .app hbare (methodValue?_eq_none_of_ofApp? types scope' (hcall _)) hevalf hevala hc⟩
    simp [Expr.plainCalls, hbare, hcall, hplainf, hplaina]
  | @lam scope s s' v body kind value hk _ ih =>
    obtain ⟨hplain, heval⟩ := ih (Scope.frames_extend_congr hscope ⟨v.name, kind⟩ _)
    exact ⟨hplain, .lam hk heval⟩
  | tick _ ih => exact ih hscope

/-- If no marker hides a shape, the value without the markers is there with them. -/
theorem Evaluates.of_unmarked (hplain : e.plainCalls = true)
    (h : Evaluates types scope s e.unmarked value s') (hscope : scope'.frames = scope.frames) :
    Evaluates types scope' s e value s' := by
  fun_induction Expr.plainCalls e generalizing scope scope' s s' value with
  | case1 f a htype ih =>
    simp only [Bool.and_eq_true] at hplain
    rw [Expr.unmarked] at h
    rcases h.app_inv with ⟨-, hf⟩ | ⟨hm, -⟩ | ⟨_, _, _, -, harg, -⟩
    · cases a with
      | type t => exact .typeApp (ih hplain.2 hf hscope)
      | _ => cases hplain.1
    · obtain ⟨method, t, d, -, hd⟩ := exists_of_methodValue?_eq_some hm
      simp [hd, Expr.bareType?] at htype
    · simp [harg.bareType?_eq_none] at htype
  | case2 f a htype hcall =>
    obtain ⟨method, t, d, rfl, rfl, -⟩ := MethodCall.exists_of_isSome_ofApp? hplain
    rcases h.app_inv with ⟨hbare, -⟩ | ⟨hm, rfl⟩ | ⟨_, _, _, -, harg, -⟩
    · cases hbare
    · exact .method rfl (methodValue?_congr types hscope _ _ ▸ hm)
    · rw [harg.ofApp?_eq_none] at hcall
      cases hcall
  | case3 f a htype hcall ihf iha =>
    rw [Bool.and_eq_true] at hplain
    rw [Expr.unmarked] at h
    rcases h.app_inv with ⟨hbare, -⟩ | ⟨hm, -⟩ | ⟨op, s₁, arg, hf, harg, hc⟩
    · exact absurd hbare htype
    · rw [methodValue?_eq_none_of_ofApp? types scope (Option.not_isSome_iff_eq_none.1 hcall)] at hm
      cases hm
    · have hf := ihf hplain.1 hf hscope
      have harg := iha hplain.2 harg hscope
      exact .app harg.bareType?_eq_none
        (methodValue?_eq_none_of_ofApp? types scope' (harg.ofApp?_eq_none f)) hf harg hc
  | case4 v body ih =>
    cases h with
    | lam hk hb => exact .lam hk (ih hplain hb (Scope.frames_extend_congr hscope _ _))
  | case5 location body ih => exact .tick (ih hplain h hscope)
  | case6 e happ hlam htick =>
    cases e with
    | var v =>
      cases h with
      | var hk hv => exact .var hk (Scope.lookup?_congr hscope _ ▸ hv)
    | app f a => exact absurd rfl (happ f a)
    | lam v body => exact absurd rfl (hlam v body)
    | tick location body => exact absurd rfl (htick location body)
    | lit | letIn | letRec | cases | cast | type | coercion =>
      rw [Expr.unmarked] at h
      cases h

/-- An expression has a value exactly when it has the same one without its markers and no marker
hides a shape. -/
theorem evaluates_iff_unmarked :
    Evaluates types scope s e value s' ↔
      e.plainCalls = true ∧ Evaluates types scope s e.unmarked value s' :=
  ⟨fun h => h.unmarked rfl, fun h => .of_unmarked h.1 h.2 rfl⟩

end

/-- Removing markers loses no result and changes none, whatever the scope holds. An expression that
has a value has the same value without its markers, and the same variables are allocated. So without
them it fails only if it fails with them; if it has a value without them, it has that value with
them or fails. -/
theorem unmarked_keeps_results (types : TypeTable) (scope : Scope F) (s : EvalState) (e : Expr) :
    (∀ value s', eval types e scope s = (.ok value, s') →
      eval types e.unmarked scope s = (.ok value, s')) ∧
    (∀ stop s', eval types e.unmarked scope s = (.error stop, s') →
      ∃ stop₁ s₁, eval types e scope s = (.error stop₁, s₁)) ∧
    ∀ value s', eval types e.unmarked scope s = (.ok value, s') →
      eval types e scope s = (.ok value, s') ∨
        ∃ stop s₁, eval types e scope s = (.error stop, s₁) := by
  have hkeeps (value : Value F) (s' : EvalState) (h : eval types e scope s = (.ok value, s')) :
      eval types e.unmarked scope s = (.ok value, s') := by
    rw [eval_eq_ok_iff] at h ⊢
    exact (evaluates_iff_unmarked.1 h).2
  rcases hresult : eval types e scope s with ⟨stop | value, s'⟩
  · exact ⟨fun _ _ h => by simp at h, fun _ _ _ => ⟨_, _, rfl⟩, fun _ _ _ => .inr ⟨_, _, rfl⟩⟩
  · rw [hkeeps value s' hresult]
    exact ⟨fun _ _ h => h, fun _ _ h => by simp at h, fun _ _ h => .inl h⟩

/-- A function from outside that returns its argument, be it a scalar or a function. -/
structure IdentityFunction where

instance : Foreign IdentityFunction := ⟨fun _ => "id", fun _ value => .ok value⟩

def scopeWithIdentity : Scope IdentityFunction :=
  (Scope.root Prelude.standard.globals).extend ⟨"id", .signed 64⟩ (.function (.foreign ⟨⟩))

/-- That a parameter equals itself, with markers around the method and around its call, which goes
through `id`. -/
def reflexivity (markMethod markCall : Expr → Expr) : Expr :=
  let t := Ty.con "Int" []
  let method := markMethod (.var ⟨"==", .forAll "a" (.var "a")⟩)
  let call := markCall (.app (.app method (.type t)) (.var ⟨"$d", .dict "D" [t]⟩))
  .lam ⟨"x", t⟩ (.app (.app (.app (.var ⟨"id", t⟩) call) (.var ⟨"x", t⟩)) (.var ⟨"x", t⟩))

theorem unmarked_keeps_results_of_reflexivity :
    let here : Location := ⟨"P.hs", 1, 5⟩
    let scope := scopeWithIdentity
    (∃ value s',
      eval Prelude.standardTypes (reflexivity id (.tick here)) scope .initial = (.ok value, s') ∧
      eval Prelude.standardTypes (reflexivity id (.tick here)).unmarked scope .initial =
        (.ok value, s')) ∧
    (∃ stop s₁,
      eval Prelude.standardTypes (reflexivity (.tick here) id) scope .initial =
        (.error stop, s₁)) ∧
    ∃ value s',
      eval Prelude.standardTypes (reflexivity (.tick here) id).unmarked scope .initial =
        (.ok value, s') :=
  ⟨⟨_, _, rfl, (unmarked_keeps_results _ _ _ _).1 _ _ rfl⟩, ⟨_, _, rfl⟩, ⟨_, _, rfl⟩⟩

/-- Markers change what a property comes down to exactly when one of them hides a shape. Take a
property that has an obligation and any expression that differs from it in markers only. It has the
same obligation if its type arguments are bare types and nothing is marked within its method calls;
otherwise it has none. -/
theorem obligation_unaffected_iff_plainCalls (types : TypeTable) (scope : Scope F)
    (s s' : EvalState) (e e' : Expr) (o : Obligation) (he : e'.unmarked = e.unmarked)
    (h : evalProperty types e scope s = (.ok o, s')) :
    (e'.plainCalls = true → evalProperty types e' scope s = (.ok o, s')) ∧
      (e'.plainCalls = false → ∃ stop s₁, evalProperty types e' scope s = (.error stop, s₁)) := by
  obtain ⟨goal, hgoal, hkind, rfl⟩ := (evalProperty_eq_ok_iff ..).1 h
  obtain ⟨-, hunmarked⟩ := evaluates_iff_unmarked.1 hgoal
  rw [← he] at hunmarked
  constructor
  · intro hplain
    exact (evalProperty_eq_ok_iff ..).2
      ⟨goal, evaluates_iff_unmarked.2 ⟨hplain, hunmarked⟩, hkind, rfl⟩
  · intro hhidden
    rcases hresult : evalProperty types e' scope s with ⟨stop | o', s₁⟩
    · exact ⟨stop, s₁, rfl⟩
    · obtain ⟨goal', hgoal', -⟩ := (evalProperty_eq_ok_iff ..).1 hresult
      rw [(evaluates_iff_unmarked.1 hgoal').1] at hhidden
      cases hhidden

theorem obligation_unaffected_iff_plainCalls_of_reflexivity :
    let here : Location := ⟨"P.hs", 1, 5⟩
    let scope := scopeWithIdentity
    ∃ o s',
      evalProperty Prelude.standardTypes (reflexivity id id) scope .initial = (.ok o, s') ∧
      evalProperty Prelude.standardTypes (reflexivity id (.tick here)) scope .initial =
        (.ok o, s') ∧
      ∃ stop s₁, evalProperty Prelude.standardTypes (reflexivity (.tick here) id) scope .initial =
        (.error stop, s₁) := by
  intro here scope
  refine ⟨_, _, rfl, ?_, ?_⟩
  · exact (obligation_unaffected_iff_plainCalls _ scope _ _ (reflexivity id id)
      (reflexivity id (.tick here)) _ rfl rfl).1 rfl
  · exact (obligation_unaffected_iff_plainCalls _ scope _ _ (reflexivity id id)
      (reflexivity (.tick here) id) _ rfl rfl).2 rfl

end CoreProver
