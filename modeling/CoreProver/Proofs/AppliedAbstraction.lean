import CoreProver.Proofs.Signatures

/-!
# Applied abstractions

An abstraction stands for its body, so its parameter is not bound when it is applied: the argument
goes to the method that the body still waits to apply, and the parameter stays quantified.
-/

namespace CoreProver

variable {F : Type} [Foreign F]

/-- Applying an abstraction is applying what its body evaluates to. -/
theorem Evaluates.exists_of_applied_lam {types : TypeTable} {x : Var} {b a : Expr} {scope : Scope F}
    {s s' : EvalState} {value : Value F} {kind : Kind} (hk : types.resolve? x.type = some kind)
    (ha : a.bareType? = none) (h : Evaluates types scope s (.app (.lam x b) a) value s') :
    ∃ op s₁ arg,
      Evaluates types (scope.extend ⟨x.name, kind⟩ (.scalar (.var (s.nextVar x.name kind))))
        (s.allocate x.name kind) b (.function op) s₁ ∧
      Evaluates types scope s₁ a arg s' ∧ op.call arg = .ok value := by
  cases h with
  | typeApp _ => cases ha
  | method _ hm =>
    obtain ⟨method, t, d, hf, -⟩ := exists_of_methodValue?_eq_some hm
    cases hf
  | app _ _ hf harg hc =>
    cases hf with
    | lam hk' hb =>
      rw [hk, Option.some.injEq] at hk'
      subst hk'
      exact ⟨_, _, _, hb, harg, hc⟩

/-- The argument of an abstraction does not reach its parameter. Take any scope over the prelude in
which an abstraction with a parameter of a basic type is applied and the application has a value.
The argument is a scalar. The body, with a fresh variable for the parameter, is a function: a method
that waits for arguments. The scalar is the next of these, of the kind that is due; the value is
what the function makes of it and waits for the remaining ones. The parameter's variable stays among
the allocated ones, so an obligation that the application comes down to is quantified over it. -/
theorem argument_goes_to_body (x : Var) (kind : Kind) (b a : Expr) (scope : Scope F)
    (s s' : EvalState) (value : Value F)
    (hk : Prelude.standardTypes.resolve? x.type = some kind) (ha : a.bareType? = none)
    (hscope : scope.AddsScalars fun _ => True)
    (h : eval Prelude.standardTypes (.app (.lam x b) a) scope s = (.ok value, s')) :
    ∃ op s₁ t rest result,
      eval Prelude.standardTypes b
          (scope.extend ⟨x.name, kind⟩ (.scalar (.var (s.nextVar x.name kind))))
          (s.allocate x.name kind) = (.ok (.function op), s₁) ∧
        eval Prelude.standardTypes a scope s₁ = (.ok (.scalar t), s') ∧
        op.call (.scalar t) = .ok value ∧
        (Value.function op).Fits (fun _ => True) result (t.kind :: rest) ∧
        value.Fits (fun _ => True) result rest ∧
        s.nextVar x.name kind ∈ s'.fresh ∧
        ∀ o, (evalProperty Prelude.standardTypes (.app (.lam x b) a) scope s).1 = .ok o →
          s.nextVar x.name kind ∈ o.vars := by
  obtain ⟨op, s₁, arg, hb, harg, hc⟩ :=
    ((eval_eq_ok_iff ..).1 h).exists_of_applied_lam hk ha
  obtain ⟨kinds, result, hfits⟩ := hb.exists_fits Term.stable_true
    (hscope.extend _ trivial) fun _ _ => trivial
  obtain ⟨due, rest, t, rfl, rfl, hdue, hvalue⟩ := hfits.call hc fun _ _ => trivial
  have hmem : s.nextVar x.name kind ∈ s'.fresh := by
    apply harg.fresh_prefix.subset
    apply hb.fresh_prefix.subset
    simp [EvalState.allocate]
  refine ⟨op, s₁, t, rest, result, hb.eval_eq, harg.eval_eq, hc, hdue ▸ hfits, hvalue,
    hmem, ?_⟩
  intro o ho
  obtain ⟨goal, hgoal, -, rfl⟩ := (evalProperty_eq_ok_iff ..).1 (Prod.ext ho rfl)
  have hstate := hgoal.eval_eq.symm.trans h
  rw [Prod.mk.injEq] at hstate
  exact (mem_appendNew _ _ _).2 (.inl (hstate.2 ▸ hmem))

/-- The comparison of `x` with something that is still to come. -/
def comparisonOfX : Expr :=
  .app (.methodAt ">=" (.con "Word8" [])) (.var ⟨"x", .con "Word8" []⟩)

/-- The comparison, with `x` as a parameter, applied to zero. -/
def comparisonAtZero : Expr :=
  .app (.lam ⟨"x", .con "Word8" []⟩ comparisonOfX) (.var ⟨"zero", .con "Word8" []⟩)

theorem argument_goes_to_body_at_zero :
    let scope : Scope Empty := Scope.root Prelude.standard.globals
    ∃ op s₁ t rest result,
      eval Prelude.standardTypes comparisonOfX
          (scope.extend ⟨"x", .unsigned 8⟩
            (.scalar (.var (EvalState.initial.nextVar "x" (.unsigned 8)))))
          (EvalState.initial.allocate "x" (.unsigned 8)) = (.ok (.function op), s₁) ∧
        eval Prelude.standardTypes (.var ⟨"zero", .con "Word8" []⟩) scope s₁ =
          (.ok (.scalar t), (eval Prelude.standardTypes comparisonAtZero scope .initial).2) ∧
        op.call (.scalar t) = .ok (.scalar (.binary .ge
          (.var (EvalState.initial.nextVar "x" (.unsigned 8))) (.int 0 (.unsigned 8)))) ∧
        (Value.function op).Fits (fun _ => True) result (t.kind :: rest) :=
  have ⟨op, s₁, t, rest, result, hb, ha, hc, hfits, _⟩ :=
    argument_goes_to_body ⟨"x", .con "Word8" []⟩ (.unsigned 8) comparisonOfX
      (.var ⟨"zero", .con "Word8" []⟩) (Scope.root Prelude.standard.globals) .initial _ _
      rfl rfl ⟨[], rfl, by simp⟩ rfl
  ⟨op, s₁, t, rest, result, hb, ha, hc, hfits⟩

/-- Zero is passed for `x`, and the body with zero for `x` is a function. Yet the application has an
obligation, which is quantified over `x`. -/
theorem argument_misses_parameter :
    let scope : Scope Empty := Scope.root Prelude.standard.globals
    Prelude.standardTypes.resolve? (.con "Word8" []) = some (.unsigned 8) ∧
    scope.AddsScalars (fun _ => True) ∧
    (eval Prelude.standardTypes (.var ⟨"zero", .con "Word8" []⟩) scope .initial).1 =
      .ok (.scalar (.int 0 (.unsigned 8))) ∧
    (∃ op, (eval Prelude.standardTypes comparisonOfX
      (scope.extend ⟨"x", .unsigned 8⟩ (.scalar (.int 0 (.unsigned 8)))) .initial).1 =
        .ok (.function op)) ∧
    (evalProperty Prelude.standardTypes comparisonAtZero scope .initial).1 =
      .ok ⟨[⟨0, "x", .unsigned 8, .parameter⟩],
        .binary .ge (.var ⟨0, "x", .unsigned 8, .parameter⟩) (.int 0 (.unsigned 8))⟩ :=
  ⟨rfl, ⟨[], rfl, by simp⟩, rfl, ⟨_, rfl⟩, rfl⟩

end CoreProver
