import CoreProver.Proofs.Failures
import CoreProver.Proofs.Quantification

/-!
# Evaluations from different states

What was evaluated before decides from which number on variables are allocated, and nothing else.
Two evaluations of one expression are followed rule by rule: the scopes, the states and the values
on both sides stay related by one renaming of variables. Functions are related if the terms that
they build are, and then they take related arguments to related results. This is enough because the
methods of the prelude build their terms without looking at variables.
-/

namespace CoreProver

/-- Both results are the same error, or values that are related. -/
inductive SameUpTo {ε α β : Type} (r : α → β → Prop) : Except ε α → Except ε β → Prop where
  | error (e : ε) : SameUpTo r (.error e) (.error e)
  | ok {a : α} {b : β} (h : r a b) : SameUpTo r (.ok a) (.ok b)

namespace SameUpTo

variable {ε α β : Type} {r : α → β → Prop} {y : Except ε β}

theorem eq_error {e : ε} (h : SameUpTo r (.error e) y) : y = .error e := by
  cases h with
  | error => rfl

theorem exists_ok {a : α} (h : SameUpTo r (.ok a) y) : ∃ b, y = .ok b ∧ r a b := by
  cases h with
  | ok hab => exact ⟨_, rfl, hab⟩

end SameUpTo

/-! ### Renaming terms -/

namespace Term

def rename (ρ : SymVar → SymVar) : Term → Term
  | var v => var (ρ v)
  | bool b => bool b
  | int n kind => int n kind
  | unary op operand => unary op (operand.rename ρ)
  | binary op left right => binary op (left.rename ρ) (right.rename ρ)
  | ite condition yes no => ite (condition.rename ρ) (yes.rename ρ) (no.rename ρ)

theorem occurrences_rename (ρ : SymVar → SymVar) (t : Term) :
    (t.rename ρ).occurrences = t.occurrences.map ρ := by
  induction t with
  | var | bool | int => rfl
  | unary _ _ ih => exact ih
  | binary _ _ _ ihl ihr => simp [rename, occurrences, ihl, ihr]
  | ite _ _ _ ihc ihy ihn => simp [rename, occurrences, ihc, ihy, ihn]

/-- A renaming that keeps the variables of a term keeps the term. -/
theorem rename_eq_self {ρ : SymVar → SymVar} {t : Term} (h : ∀ v ∈ t.occurrences, ρ v = v) :
    t.rename ρ = t := by
  induction t with
  | var v => exact congrArg var (h v (List.mem_singleton_self v))
  | bool | int => rfl
  | unary op _ ih => exact congrArg (unary op) (ih h)
  | binary op _ _ ihl ihr =>
    simp only [occurrences, List.mem_append] at h
    rw [rename, ihl fun v hv => h v (.inl hv), ihr fun v hv => h v (.inr hv)]
  | ite _ _ _ ihc ihy ihn =>
    simp only [occurrences, List.mem_append] at h
    rw [rename, ihc fun v hv => h v (.inl (.inl hv)), ihy fun v hv => h v (.inl (.inr hv)),
      ihn fun v hv => h v (.inr hv)]

end Term

theorem UnaryMethod.rename_term (ρ : SymVar → SymVar) (m : UnaryMethod) (kind : Kind) (t : Term) :
    (m.term kind t).rename ρ = m.term kind (t.rename ρ) := by
  cases m <;> cases kind <;> rfl

theorem BinaryMethod.rename_term (ρ : SymVar → SymVar) (m : BinaryMethod) (kind : Kind)
    (t u : Term) : (m.term kind t u).rename ρ = m.term kind (t.rename ρ) (u.rename ρ) := by
  cases m <;> cases kind <;> rfl

/-- The renaming is one of parameters: it keeps kinds, and constants are left as they are. -/
structure RenamesParameters (ρ : SymVar → SymVar) : Prop where
  kind_eq : ∀ v, (ρ v).kind = v.kind
  isConstant_eq : ∀ v, (ρ v).isConstant = v.isConstant
  eq_self : ∀ v, v.isConstant = true → ρ v = v

namespace RenamesParameters

variable {ρ : SymVar → SymVar} (hρ : RenamesParameters ρ)

include hρ

theorem kind_rename (t : Term) : (t.rename ρ).kind = t.kind := by
  induction t with
  | var v => exact hρ.kind_eq v
  | bool | int => rfl
  | unary op _ ih => cases op <;> simp [Term.rename, Term.kind, ih]
  | binary _ _ _ ihl => simp [Term.rename, Term.kind, ihl]
  | ite _ _ _ _ ihy => simpa [Term.rename, Term.kind] using ihy

theorem map_filter_isConstant (vars : List SymVar) :
    (vars.filter SymVar.isConstant).map ρ = vars.filter SymVar.isConstant := by
  have hself : ∀ v ∈ vars.filter SymVar.isConstant, ρ v = id v :=
    fun v hv => hρ.eq_self v (List.mem_filter.1 hv).2
  rw [List.map_congr_left hself, List.map_id]

/-- The constants of a term occur in the same order. -/
theorem constants_rename (t : Term) :
    (t.rename ρ).freeVars.filter SymVar.isConstant = t.freeVars.filter SymVar.isConstant := by
  have hcomp : SymVar.isConstant ∘ ρ = SymVar.isConstant := funext hρ.isConstant_eq
  rw [Term.freeVars, Term.freeVars, filter_distinct, filter_distinct, Term.occurrences_rename,
    List.filter_map, hcomp, hρ.map_filter_isConstant]

end RenamesParameters

/-! ### Renaming values -/

variable {F : Type}

/-- The second value is the first one with its variables renamed. Functions have one name and one
kind of arguments, and build terms that are renamed to each other; so they take every argument and
its renamed form to related results (`Value.Renamed.call`). -/
inductive Value.Renamed (ρ : SymVar → SymVar) : Value F → Value F → Prop where
  | scalar (t : Term) : Renamed ρ (.scalar t) (.scalar (t.rename ρ))
  | unary (name : String) (kind : Kind) {f f' : Term → Term}
      (h : ∀ t, (f t).rename ρ = f' (t.rename ρ)) :
      Renamed ρ (.function (.unary name kind f)) (.function (.unary name kind f'))
  | binary (name : String) (kind : Kind) {f f' : Term → Term → Term}
      (h : ∀ t u, (f t u).rename ρ = f' (t.rename ρ) (u.rename ρ)) :
      Renamed ρ (.function (.binary name kind f)) (.function (.binary name kind f'))

theorem Prelude.renamed_standard (ρ : SymVar → SymVar) :
    ∀ e ∈ (Prelude.standard : Prelude F).globals, e.2.Renamed ρ e.2 :=
  Prelude.forall_standard (P := fun v => v.Renamed ρ v) (fun b => .scalar (.bool b))
    (fun n kind _ => .scalar (.int n kind))
    (fun kind _ m => .unary m.name kind (m.rename_term ρ kind))
    (fun kind m _ => .binary m.name kind (m.rename_term ρ kind))

theorem Value.Renamed.exists_function {ρ : SymVar → SymVar} {op : Operation F} {v' : Value F}
    (h : (Value.function op).Renamed ρ v') : ∃ op', v' = .function op' := by
  cases h <;> exact ⟨_, rfl⟩

section calls

variable [Foreign F] {ρ : SymVar → SymVar} (hρ : RenamesParameters ρ)

include hρ

/-- Whether an argument is accepted does not depend on the names of variables. -/
theorem Value.Renamed.expect_eq {v v' : Value F} (h : v.Renamed ρ v') (function : String)
    (kind : Kind) : v'.expect function kind = (v.expect function kind).map (Term.rename ρ) := by
  cases h with
  | scalar t =>
    by_cases hk : t.kind = kind <;> simp [expect, hρ.kind_rename, hk, Except.map]
  | unary | binary => rfl

/-- A function that needs a scalar has related results if it has them for related scalars. -/
theorem Value.Renamed.map_expect {r : Value F → Value F → Prop} {f f' : Term → Value F}
    (h : ∀ t, r (f t) (f' (t.rename ρ))) (function : String) (kind : Kind) {v v' : Value F}
    (hv : v.Renamed ρ v') :
    SameUpTo r ((v.expect function kind).map f) ((v'.expect function kind).map f') := by
  rw [hv.expect_eq hρ]
  cases v.expect function kind with
  | error e => exact .error e
  | ok t => exact .ok (h t)

/-- Related functions take related arguments to related results. -/
theorem Value.Renamed.call {op op' : Operation F}
    (h : (Value.function op).Renamed ρ (.function op')) {v v' : Value F} (hv : v.Renamed ρ v') :
    SameUpTo (Value.Renamed ρ) (op.call v) (op'.call v') := by
  cases h with
  | unary name kind h => exact hv.map_expect hρ (fun t => h t ▸ .scalar _) name kind
  | binary name kind h => exact hv.map_expect hρ (fun t => .unary name kind (h t)) name kind

end calls

/-! ### Renaming scopes and states -/

/-- Both scopes are at one place, and what the second one holds is what the first one holds with its
variables renamed. -/
structure Scope.Renamed (ρ : SymVar → SymVar) (scope scope' : Scope F) : Prop where
  location_eq : scope'.location = scope.location
  rel_lookup? : ∀ key, Option.Rel (fun after before : Value F => before.Renamed ρ after)
    (scope'.lookup? key) (scope.lookup? key)

namespace Scope.Renamed

variable {ρ : SymVar → SymVar} {scope scope' : Scope F}

theorem extend (h : scope.Renamed ρ scope') (key : Key) {v v' : Value F} (hv : v.Renamed ρ v') :
    (scope.extend key v).Renamed ρ (scope'.extend key v') := by
  refine ⟨h.location_eq, fun other => ?_⟩
  by_cases hkey : other = key
  · subst hkey
    rw [lookup?_extend_self, lookup?_extend_self]
    exact .some hv
  · rw [lookup?_extend_of_ne _ _ _ _ hkey, lookup?_extend_of_ne _ _ _ _ hkey]
    exact h.rel_lookup? other

theorem moveTo (h : scope.Renamed ρ scope') (location : Location) :
    (scope.moveTo location).Renamed ρ (scope'.moveTo location) :=
  ⟨rfl, h.rel_lookup?⟩

theorem rel_methodValue? (h : scope.Renamed ρ scope') (types : TypeTable) (f a : Expr) :
    Option.Rel (fun after before : Value F => before.Renamed ρ after)
      (methodValue? types scope' f a) (methodValue? types scope f a) :=
  CoreProver.rel_methodValue? h.rel_lookup? types f a

theorem methodValue?_eq_none (h : scope.Renamed ρ scope') {types : TypeTable} {f a : Expr}
    (hm : methodValue? types scope f a = none) : methodValue? types scope' f a = none :=
  eq_none_of_rel_none (hm ▸ h.rel_methodValue? types f a)

end Scope.Renamed

/-- A scope without parameters stays as it is. -/
theorem Scope.AddsScalars.renamed {ρ : SymVar → SymVar} {scope : Scope F}
    (h : scope.AddsScalars Term.ParameterFree) (hρ : RenamesParameters ρ) :
    scope.Renamed ρ scope := by
  refine ⟨rfl, fun key => ?_⟩
  cases hv : scope.lookup? key with
  | none => exact .none
  | some value =>
    refine .some ?_
    rcases h.lookup?_cases hv with ⟨t, rfl, ht⟩ | ⟨e, he, rfl⟩
    · have hself := Term.rename_eq_self fun v hv => hρ.eq_self v (ht v hv)
      simpa only [hself] using Value.Renamed.scalar (F := F) (ρ := ρ) t
    · exact Prelude.renamed_standard ρ e he

/-- Parameters from the first number on are renamed to those from the second number on. -/
def Shifts (ρ : SymVar → SymVar) (n n' : Nat) : Prop :=
  ∀ i name kind, ρ ⟨n + i, name, kind, .parameter⟩ = ⟨n' + i, name, kind, .parameter⟩

theorem Shifts.add {ρ : SymVar → SymVar} {n n' : Nat} (h : Shifts ρ n n') (k : Nat) :
    Shifts ρ (n + k) (n' + k) := by
  intro i name kind
  rw [Nat.add_assoc, Nat.add_assoc]
  exact h (k + i) name kind

/-- The variables that the first state allocates next are renamed to those that the second one
allocates next. -/
def EvalState.Renamed (ρ : SymVar → SymVar) (s s' : EvalState) : Prop :=
  Shifts ρ s.fresh.length s'.fresh.length

namespace EvalState.Renamed

variable {ρ : SymVar → SymVar} {s s' : EvalState}

theorem nextVar (h : s.Renamed ρ s') (name : String) (kind : Kind) :
    ρ (s.nextVar name kind) = s'.nextVar name kind :=
  h 0 name kind

theorem advance (h : s.Renamed ρ s') {s₁ s₁' : EvalState} {k : Nat}
    (hs : s₁.fresh.length = s.fresh.length + k) (hs' : s₁'.fresh.length = s'.fresh.length + k) :
    s₁.Renamed ρ s₁' := by
  rw [EvalState.Renamed, hs, hs']
  exact h.add k

theorem allocate (h : s.Renamed ρ s') (name : String) (kind : Kind) :
    (s.allocate name kind).Renamed ρ (s'.allocate name kind) :=
  h.advance (k := 1) (by simp [EvalState.allocate]) (by simp [EvalState.allocate])

/-- Values of one expression take as many variables on both sides. -/
theorem of_evaluates [Foreign F] (h : s.Renamed ρ s') {types : TypeTable}
    {scope scope' : Scope F} {e : Expr} {v v' : Value F} {s₁ s₁' : EvalState}
    (hv : Evaluates types scope s e v s₁) (hv' : Evaluates types scope' s' e v' s₁') :
    s₁.Renamed ρ s₁' := by
  obtain ⟨vars, hvars, hlength⟩ := hv.exists_fresh_eq
  obtain ⟨vars', hvars', hlength'⟩ := hv'.exists_fresh_eq
  exact h.advance (by rw [hvars, List.length_append, hlength])
    (by rw [hvars', List.length_append, hlength'])

end EvalState.Renamed

/-- Scopes stay related where an abstraction binds its variable. -/
theorem Scope.Renamed.bindNext {ρ : SymVar → SymVar} {scope scope' : Scope F} {s s' : EvalState}
    (h : scope.Renamed ρ scope') (hs : s.Renamed ρ s') (name : String) (kind : Kind) :
    (scope.extend ⟨name, kind⟩ (.scalar (.var (s.nextVar name kind)))).Renamed ρ
      (scope'.extend ⟨name, kind⟩ (.scalar (.var (s'.nextVar name kind)))) := by
  have hvar := Value.Renamed.scalar (F := F) (ρ := ρ) (.var (s.nextVar name kind))
  rw [Term.rename, hs.nextVar] at hvar
  exact h.extend _ hvar

/-! ### Two evaluations side by side -/

variable [Foreign F]

section

variable {ρ : SymVar → SymVar} (hρ : RenamesParameters ρ) {types : TypeTable}
  {scope scope' : Scope F} {s s' s₁ s₂ : EvalState} {e : Expr}

include hρ

/-- An expression that has a value on one side has the renamed one on the other. -/
theorem Evaluates.exists_renamed {v : Value F} (h : Evaluates types scope s e v s₁)
    (hscope : scope.Renamed ρ scope') (hs : s.Renamed ρ s') :
    ∃ v' s₁', Evaluates types scope' s' e v' s₁' ∧ v.Renamed ρ v' := by
  induction h generalizing scope' s' with
  | @var _ _ v kind _ hk hv =>
    obtain ⟨value', hv', hr⟩ := exists_of_rel_some (hv ▸ hscope.rel_lookup? ⟨v.name, kind⟩)
    exact ⟨value', s', .var hk hv', hr⟩
  | typeApp _ ih =>
    obtain ⟨value', s₁', hf', hr⟩ := ih hscope hs
    exact ⟨value', s₁', .typeApp hf', hr⟩
  | @method _ _ f a _ ha hm =>
    obtain ⟨value', hm', hr⟩ := exists_of_rel_some (hm ▸ hscope.rel_methodValue? types f a)
    exact ⟨value', _, .method ha hm', hr⟩
  | app ha hm hf _ hc ihf iha =>
    have hm' := hscope.methodValue?_eq_none hm
    obtain ⟨_, s₁', hf', hrf⟩ := ihf hscope hs
    -- the argument starts from other states, which the function has brought forward alike
    obtain ⟨arg', s₂', harg', hra⟩ := iha hscope (hs.of_evaluates hf hf')
    obtain ⟨op', rfl⟩ := hrf.exists_function
    obtain ⟨value', hc', hr⟩ := (hc ▸ hrf.call hρ hra).exists_ok
    exact ⟨value', s₂', .app ha hm' hf' harg' hc', hr⟩
  | lam hk _ ih =>
    obtain ⟨value', s₁', hb', hr⟩ := ih (hscope.bindNext hs _ _) (hs.allocate _ _)
    exact ⟨value', s₁', .lam hk hb', hr⟩
  | tick _ ih =>
    obtain ⟨value', s₁', hb', hr⟩ := ih (hscope.moveTo _) hs
    exact ⟨value', s₁', .tick hb', hr⟩

/-- A call that is made on one side is made on the other with the renamed argument. -/
theorem Evaluates.exists_renamed_call {f a : Expr} {op : Operation F} {arg : Value F}
    (hf : Evaluates types scope s f (.function op) s₁)
    (harg : Evaluates types scope s₁ a arg s₂) (hscope : scope.Renamed ρ scope')
    (hs : s.Renamed ρ s') :
    ∃ op' s₁' arg' s₂', Evaluates types scope' s' f (.function op') s₁' ∧
      Evaluates types scope' s₁' a arg' s₂' ∧
      SameUpTo (Value.Renamed ρ) (op.call arg) (op'.call arg') := by
  obtain ⟨_, s₁', hf', hrf⟩ := hf.exists_renamed hρ hscope hs
  obtain ⟨arg', s₂', harg', hra⟩ := harg.exists_renamed hρ hscope (hs.of_evaluates hf hf')
  obtain ⟨op', rfl⟩ := hrf.exists_function
  exact ⟨op', s₁', arg', s₂', hf', harg', hrf.call hρ hra⟩

theorem Raises.exists_renamed {stop : Stop} (h : Raises types scope s e stop s₁)
    (hscope : scope.Renamed ρ scope') (hs : s.Renamed ρ s') :
    ∃ s₁', Raises types scope' s' e stop s₁' := by
  cases h with
  | unresolvableType hk => exact hscope.location_eq ▸ ⟨s', .unresolvableType hk⟩
  | unbound hk hv =>
    have hv' := eq_none_of_rel_none (hv ▸ hscope.rel_lookup? _)
    exact hscope.location_eq ▸ ⟨s', .unbound hk hv'⟩
  | notApplicable ha hm hf =>
    obtain ⟨_, s₁', hf', hr⟩ := hf.exists_renamed hρ hscope hs
    have hm' := hscope.methodValue?_eq_none hm
    cases hr with
    | scalar => exact hscope.location_eq ▸ ⟨s₁', .notApplicable ha hm' hf'⟩
  | refused ha hm hf harg hc =>
    obtain ⟨_, _, _, s₂', hf', harg', hsame⟩ := hf.exists_renamed_call hρ harg hscope hs
    have hm' := hscope.methodValue?_eq_none hm
    exact hscope.location_eq ▸ ⟨s₂', .refused ha hm' hf' harg' (hc ▸ hsame).eq_error⟩
  | crashed ha hm hf harg hc =>
    obtain ⟨_, _, _, s₂', hf', harg', hsame⟩ := hf.exists_renamed_call hρ harg hscope hs
    have hm' := hscope.methodValue?_eq_none hm
    exact ⟨s₂', .crashed ha hm' hf' harg' (hc ▸ hsame).eq_error⟩
  | nonBasicParameter hk => exact hscope.location_eq ▸ ⟨s', .nonBasicParameter hk⟩
  | unsupported he => exact hscope.location_eq ▸ ⟨s', .unsupported he⟩

/-- An expression that has no value on one side has none on the other, for the same reason. -/
theorem Fails.exists_renamed {stop : Stop} (h : Fails types scope s e stop s₁)
    (hscope : scope.Renamed ρ scope') (hs : s.Renamed ρ s') :
    ∃ s₁', Fails types scope' s' e stop s₁' := by
  induction h generalizing scope' s' with
  | raised h =>
    obtain ⟨s₁', h'⟩ := h.exists_renamed hρ hscope hs
    exact ⟨s₁', .raised h'⟩
  | typeApp _ ih =>
    obtain ⟨s₁', hf'⟩ := ih hscope hs
    exact ⟨s₁', .typeApp hf'⟩
  | function ha hm _ ih =>
    have hm' := hscope.methodValue?_eq_none hm
    obtain ⟨s₁', hf'⟩ := ih hscope hs
    exact ⟨s₁', .function ha hm' hf'⟩
  | argument ha hm hf _ ih =>
    have hm' := hscope.methodValue?_eq_none hm
    obtain ⟨_, s₁', hf', hr⟩ := hf.exists_renamed hρ hscope hs
    obtain ⟨s₂', harg'⟩ := ih hscope (hs.of_evaluates hf hf')
    obtain ⟨op', rfl⟩ := hr.exists_function
    exact ⟨s₂', .argument ha hm' hf' harg'⟩
  | lam hk _ ih =>
    obtain ⟨s₁', hb'⟩ := ih (hscope.bindNext hs _ _) (hs.allocate _ _)
    exact ⟨s₁', .lam hk hb'⟩
  | tick _ ih =>
    obtain ⟨s₁', hb'⟩ := ih (hscope.moveTo _) hs
    exact ⟨s₁', .tick hb'⟩

end

/-- Evaluations from related states, in related scopes, stop with the same error, or both have
values. -/
theorem eval_sameUpTo {ρ : SymVar → SymVar} (hρ : RenamesParameters ρ)
    {scope scope' : Scope F} {s s' : EvalState}
    (hscope : scope.Renamed ρ scope') (hs : s.Renamed ρ s') (types : TypeTable) (e : Expr) :
    SameUpTo (Value.Renamed ρ) (eval types e scope s).1 (eval types e scope' s').1 := by
  rcases h : eval types e scope s with ⟨stop | v, s₁⟩
  · obtain ⟨s₁', h'⟩ := (Fails.of_eval h).exists_renamed hρ hscope hs
    rw [h'.eval_eq]
    exact .error stop
  · obtain ⟨v', s₁', h', hr⟩ := (Evaluates.of_eval h).exists_renamed hρ hscope hs
    rw [h'.eval_eq]
    exact .ok hr

theorem evalScalar_renamed {ρ : SymVar → SymVar} (hρ : RenamesParameters ρ) {types : TypeTable}
    {e : Expr} {scope scope' : Scope F} {s s' s₁ : EvalState} {stop : Stop}
    (h : evalScalar types e scope s = (.error stop, s₁)) (hscope : scope.Renamed ρ scope')
    (hs : s.Renamed ρ s') : ∃ s₁', evalScalar types e scope' s' = (.error stop, s₁') := by
  rcases (evalScalar_eq_error_iff ..).1 h with hf | ⟨⟨op, hv⟩, rfl⟩
  · obtain ⟨s₁', hf'⟩ := hf.exists_renamed hρ hscope hs
    exact ⟨s₁', (evalScalar_eq_error_iff ..).2 (.inl hf')⟩
  · obtain ⟨_, s₁', hv', hr⟩ := hv.exists_renamed hρ hscope hs
    obtain ⟨op', rfl⟩ := hr.exists_function
    rw [← hscope.location_eq]
    exact ⟨s₁', (evalScalar_eq_error_iff ..).2 (.inr ⟨⟨op', hv'⟩, rfl⟩)⟩

/-! ### Obligations -/

/-- The variables for the same binders are renamed to each other. -/
theorem TypeTable.eq_map_of_allocates {types : TypeTable} {ρ : SymVar → SymVar} {binders : List Var}
    {n n' : Nat} {vars vars' : List SymVar}
    (h : List.Forall₂ types.Allocates (binders.zipIdx n) vars)
    (h' : List.Forall₂ types.Allocates (binders.zipIdx n') vars') (hρ : Shifts ρ n n') :
    vars' = vars.map ρ := by
  induction binders generalizing n n' vars vars' with
  | nil =>
    cases h
    cases h'
    rfl
  | cons b rest ih =>
    rw [List.zipIdx_cons] at h h'
    obtain - | ⟨⟨kind, hk, rfl⟩, hrest⟩ := h
    obtain - | ⟨⟨kind', hk', rfl⟩, hrest'⟩ := h'
    obtain rfl : kind = kind' := Option.some.inj (hk.symm.trans hk')
    rw [List.map_cons, ← ih hrest hrest' (hρ.add 1)]
    exact congrArg (· :: _) (hρ 0 b.name kind).symm

/-- The second obligation is the first one with its variables renamed, but for the variables that
were allocated before: they are those of the states that the evaluations started from. -/
structure Obligation.Renamed (ρ : SymVar → SymVar) (s s' : EvalState) (o o' : Obligation) :
    Prop where
  goal_eq : o'.goal = o.goal.rename ρ
  exists_vars : ∃ vars, o.vars = s.fresh ++ vars ∧ o'.vars = s'.fresh ++ vars.map ρ

section

variable {ρ : SymVar → SymVar} {types : TypeTable} {scope : Scope F} {s s' s₁ s₁' : EvalState}
  {e : Expr} (hρ : RenamesParameters ρ) (hscope : scope.AddsScalars Term.ParameterFree)
  (hs : s.Renamed ρ s') (hn : s.Numbered) (hn' : s'.Numbered)

include hρ hscope hs hn hn'

theorem Evaluates.renamed_ofGoal {goal : Term}
    (h : Evaluates types scope s e (.scalar goal) s₁)
    (h' : Evaluates types scope s' e (.scalar (goal.rename ρ)) s₁') :
    Obligation.Renamed ρ s s' (.ofGoal s₁.fresh goal) (.ofGoal s₁'.fresh (goal.rename ρ)) := by
  obtain ⟨new, hfresh, hnew⟩ := h.exists_allocates
  obtain ⟨new', hfresh', hnew'⟩ := h'.exists_allocates
  have hmap : new' = new.map ρ := types.eq_map_of_allocates hnew hnew' hs
  refine ⟨rfl, new ++ goal.freeVars.filter SymVar.isConstant, ?_, ?_⟩
  · rw [h.vars_ofGoal hscope hn, hfresh, List.append_assoc]
  · rw [h'.vars_ofGoal hscope hn', hfresh', hmap, hρ.constants_rename, List.map_append,
      hρ.map_filter_isConstant, List.append_assoc]

/-- Properties have the same error, or obligations that are renamed to each other. -/
theorem evalProperty_sameUpTo (types : TypeTable) (e : Expr) :
    SameUpTo (Obligation.Renamed ρ s s') (evalProperty types e scope s).1
      (evalProperty types e scope s').1 := by
  have hrenamed := hscope.renamed hρ
  rcases h : evalProperty types e scope s with ⟨stop | o, s₁⟩
  · suffices h' : ∃ s₁', evalProperty types e scope s' = (.error stop, s₁') by
      obtain ⟨s₁', h'⟩ := h'
      rw [h']
      exact .error stop
    rcases (evalProperty_eq_error_iff ..).1 h with hf | ⟨t, hv, hk, rfl⟩
    · obtain ⟨s₁', hf'⟩ := evalScalar_renamed hρ hf hrenamed hs
      exact ⟨s₁', (evalProperty_eq_error_iff ..).2 (.inl hf')⟩
    · obtain ⟨_, s₁', hv', hr⟩ := hv.exists_renamed hρ hrenamed hs
      cases hr with
      | scalar =>
        rw [← hρ.kind_rename t] at hk ⊢
        exact ⟨s₁', (evalProperty_eq_error_iff ..).2 (.inr ⟨_, hv', hk, rfl⟩)⟩
  · obtain ⟨goal, hv, hk, rfl⟩ := (evalProperty_eq_ok_iff ..).1 h
    obtain ⟨_, s₁', hv', hr⟩ := hv.exists_renamed hρ hrenamed hs
    cases hr with
    | scalar =>
      have hk' := (hρ.kind_rename goal).trans hk
      rw [(evalProperty_eq_ok_iff ..).2 ⟨_, hv', hk', rfl⟩]
      exact .ok (hv.renamed_ofGoal hρ hscope hs hn hn' hv')

end

/-! ### States that evaluations lead to -/

theorem snd_evalScalar (types : TypeTable) (e : Expr) (scope : Scope F) (s : EvalState) :
    (evalScalar types e scope s).2 = (eval types e scope s).2 := by
  unfold evalScalar
  rcases eval types e scope s with ⟨stop | ⟨t⟩ | ⟨op⟩, s'⟩ <;> rfl

theorem snd_evalProperty (types : TypeTable) (e : Expr) (scope : Scope F) (s : EvalState) :
    (evalProperty types e scope s).2 = (eval types e scope s).2 := by
  rw [← snd_evalScalar]
  unfold evalProperty
  rcases evalScalar types e scope s with ⟨stop | t, s'⟩
  · rfl
  · by_cases hk : t.kind = .bool <;> simp [hk]

/-- The state is left behind by evaluations one after the other, in any scopes, whether they
succeeded or not. -/
inductive EvalState.Reachable (types : TypeTable) : EvalState → Prop where
  | initial : Reachable types .initial
  | eval {F : Type} [Foreign F] {s : EvalState} (h : Reachable types s) (e : Expr)
      (scope : Scope F) : Reachable types (CoreProver.eval types e scope s).2
  | evalScalar {F : Type} [Foreign F] {s : EvalState} (h : Reachable types s) (e : Expr)
      (scope : Scope F) : Reachable types (CoreProver.evalScalar types e scope s).2
  | evalProperty {F : Type} [Foreign F] {s : EvalState} (h : Reachable types s) (e : Expr)
      (scope : Scope F) : Reachable types (CoreProver.evalProperty types e scope s).2

theorem EvalState.Reachable.numbered {types : TypeTable} {s : EvalState}
    (h : s.Reachable types) : s.Numbered := by
  induction h with
  | initial => exact numbered_initial
  | eval _ e scope ih => exact eval_numbered types e scope ih
  | evalScalar _ e scope ih =>
    rw [snd_evalScalar]
    exact eval_numbered types e scope ih
  | evalProperty _ e scope ih =>
    rw [snd_evalProperty]
    exact eval_numbered types e scope ih

/-- Renumber parameters: those from `n` on are those from `n'` on. -/
def SymVar.renumber (n n' : Nat) (v : SymVar) : SymVar :=
  if v.origin = .parameter ∧ n ≤ v.id then { v with id := v.id - n + n' } else v

theorem renamesParameters_renumber (n n' : Nat) : RenamesParameters (SymVar.renumber n n') where
  kind_eq v := by
    unfold SymVar.renumber
    split <;> rfl
  isConstant_eq v := by
    unfold SymVar.renumber
    split <;> rfl
  eq_self v hv := by
    have horigin : v.origin = .constant := of_decide_eq_true hv
    simp [SymVar.renumber, horigin]

theorem shifts_renumber (n n' : Nat) : Shifts (SymVar.renumber n n') n n' := by
  intro i name kind
  simp [SymVar.renumber, Nat.add_comm]

/-- What was evaluated before does not matter, up to renumbering. From any two states that
evaluations lead to, in a scope over the prelude that adds no parameters: an expression has the same
error in both, or values that are equal when the variables allocated for it are renumbered from
those of the first state to those of the second. For functions this is said of the terms they build.
A property has the same error in both, or obligations with goals that are renumbered in this way,
and with the variables allocated earlier followed by variables that correspond. -/
theorem evaluations_equal_up_to_renumbering (types : TypeTable) (scope : Scope F)
    (hscope : scope.AddsScalars Term.ParameterFree) (e : Expr) (s s' : EvalState)
    (h : s.Reachable types) (h' : s'.Reachable types) :
    let ρ := SymVar.renumber s.fresh.length s'.fresh.length
    SameUpTo (Value.Renamed ρ) (eval types e scope s).1 (eval types e scope s').1 ∧
    SameUpTo (Obligation.Renamed ρ s s') (evalProperty types e scope s).1
      (evalProperty types e scope s').1 := by
  intro ρ
  have hρ : RenamesParameters ρ := renamesParameters_renumber _ _
  have hs : s.Renamed ρ s' := shifts_renumber _ _
  exact ⟨eval_sameUpTo hρ (hscope.renamed hρ) hs types e,
    evalProperty_sameUpTo hρ hscope hs h.numbered h'.numbered types e⟩

/-- A literal under an abstraction, where evaluation stops after it has allocated a variable. -/
def literalUnderAbstraction : Expr := .lam ⟨"x", .con "Int8" []⟩ (.lit (.char 'a'))

/-- That all numbers are at most `c`. -/
def allAtMostConstant : Expr :=
  let t := Ty.con "Int8" []
  .lam ⟨"y", t⟩ (.app (.app (.methodAt "<=" t) (.var ⟨"y", t⟩)) (.var ⟨"c", t⟩))

/-- After a failed evaluation the obligation keeps the variable that was allocated there, and its
own variable has the next number. -/
theorem evaluations_equal_up_to_renumbering_of_allAtMostConstant :
    let types := Prelude.standardTypes
    let constants : Constants := ⟨[⟨0, "c", .signed 8, .constant⟩], by decide⟩
    let scope : Scope Empty := ⟨[constants.frame, Prelude.standard.globals], none⟩
    let s := (eval types literalUnderAbstraction scope .initial).2
    scope.AddsScalars Term.ParameterFree ∧ EvalState.initial.Reachable types ∧
    s.Reachable types ∧
    ∃ o o', (evalProperty types allAtMostConstant scope .initial).1 = .ok o ∧
      (evalProperty types allAtMostConstant scope s).1 = .ok o' ∧
      o.vars.map SymVar.symbol = ["l0_y", "u0_c"] ∧
      o'.vars.map SymVar.symbol = ["l0_x", "l1_y", "u0_c"] ∧
      Obligation.Renamed (SymVar.renumber 0 1) .initial s o o' := by
  intro types constants scope s
  have hscope : scope.AddsScalars Term.ParameterFree :=
    Scope.addsScalars_constants (show ∀ v ∈ constants.vars, _ by decide) none
  have hs : s.Reachable types := .eval .initial _ _
  have hsame := (evaluations_equal_up_to_renumbering types scope hscope allAtMostConstant
    .initial s .initial hs).2
  obtain ⟨o', ho', hrenamed⟩ := SameUpTo.exists_ok hsame
  cases ho'
  exact ⟨hscope, .initial, hs, _, _, rfl, rfl, by decide +kernel, by decide +kernel, hrenamed⟩

end CoreProver
