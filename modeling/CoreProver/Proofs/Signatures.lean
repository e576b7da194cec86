import CoreProver.Proofs.Evaluation
import CoreProver.Proofs.Methods

/-!
# What values take and give

A value of the prelude takes scalars of fixed kinds one by one and then is a scalar. A property of
terms that the methods keep is a property of whatever a value gives for arguments that have it, and
evaluation keeps that.
-/

namespace CoreProver

variable {F : Type}

/-- The scope adds to the prelude only scalars with the property. -/
def Scope.AddsScalars (Q : Term → Prop) (scope : Scope F) : Prop :=
  ∃ inner : List (Frame F), scope.frames = inner ++ [Prelude.standard.globals] ∧
    ∀ f ∈ inner, ∀ e ∈ f, ∃ t, e.2 = .scalar t ∧ Q t

namespace Scope.AddsScalars

variable {Q : Term → Prop} {scope : Scope F}

theorem extend (h : scope.AddsScalars Q) (key : Key) {t : Term} (ht : Q t) :
    (scope.extend key (.scalar t)).AddsScalars Q := by
  obtain ⟨inner, hframes, hinner⟩ := h
  refine ⟨[(key, .scalar t)] :: inner, by simp [Scope.extend, hframes], ?_⟩
  intro f hf e he
  rcases List.mem_cons.1 hf with rfl | hf
  · rw [List.mem_singleton.1 he]
    exact ⟨t, rfl, ht⟩
  · exact hinner f hf e he

theorem moveTo (h : scope.AddsScalars Q) (location : Location) :
    (scope.moveTo location).AddsScalars Q := h

/-- Such a scope holds scalars with the property and what the prelude holds. -/
theorem lookup?_cases (h : scope.AddsScalars Q) {key : Key} {value : Value F}
    (hv : scope.lookup? key = some value) :
    (∃ t, value = .scalar t ∧ Q t) ∨ ∃ e ∈ Prelude.standard.globals, value = e.2 := by
  obtain ⟨inner, hframes, hinner⟩ := h
  obtain ⟨f, hf, hfv⟩ := List.exists_of_findSome?_eq_some hv
  obtain ⟨e, he, rfl⟩ := Option.map_eq_some_iff.1 hfv
  have hmem := List.mem_of_find?_eq_some he
  rw [hframes, List.mem_append, List.mem_singleton] at hf
  rcases hf with hf | rfl
  · exact .inl (hinner f hf e hmem)
  · exact .inr ⟨e, hmem, rfl⟩

end Scope.AddsScalars

variable [Foreign F]

/-- The value takes scalars of these kinds one by one, and nothing else, and then is a scalar of the
result's kind. From arguments with the property it makes scalars with the property. -/
def Value.Fits (Q : Term → Prop) (result : Kind) : List Kind → Value F → Prop
  | [], value => ∃ t, value = .scalar t ∧ t.kind = result ∧ Q t
  | kind :: kinds, value => ∃ op, value = .function op ∧
      (∀ a v, op.call a = .ok v → ∃ t, a = .scalar t ∧ t.kind = kind) ∧
      ∀ t, t.kind = kind → Q t → ∃ v, op.call (.scalar t) = .ok v ∧ v.Fits Q result kinds

/-- The methods of the prelude keep the property. -/
structure Term.Stable (Q : Term → Prop) : Prop where
  bool : ∀ value, Q (.bool value)
  int : ∀ value, ∀ kind ∈ Prelude.numericKinds, Q (.int value kind)
  unary : ∀ (m : UnaryMethod), ∀ kind ∈ Prelude.numericKinds, ∀ t, t.kind = kind → Q t →
    Q (m.term kind t)
  binary : ∀ (m : BinaryMethod) (kind : Kind),
    kind = .bool ∧ m ∈ BinaryMethod.boolean ∨ kind ∈ Prelude.numericKinds →
    ∀ t u, t.kind = kind → u.kind = kind → Q t → Q u → Q (m.term kind t u)

theorem Term.stable_true : Term.Stable fun _ => True :=
  ⟨fun _ => trivial, fun _ _ _ => trivial, fun _ _ _ _ _ _ => trivial,
    fun _ _ _ _ _ _ _ _ _ => trivial⟩

theorem Value.Fits.scalar {Q : Term → Prop} {t : Term} (h : Q t) :
    (Value.scalar t : Value F).Fits Q t.kind [] :=
  ⟨t, rfl, rfl, h⟩

theorem Value.Fits.unary {Q : Term → Prop} {kind result : Kind} {f : Term → Term}
    (name : String) (hk : ∀ t, t.kind = kind → (f t).kind = result)
    (hQ : ∀ t, t.kind = kind → Q t → Q (f t)) :
    (Value.function (.unary name kind f) : Value F).Fits Q result [kind] := by
  refine ⟨_, rfl, ?_, ?_⟩
  · intro a v h
    obtain ⟨t, ha, ht, -⟩ := Operation.call_unary_eq_ok_iff.1 h
    exact ⟨t, ha, ht⟩
  · intro t ht hqt
    exact ⟨_, Operation.call_unary_eq_ok_iff.2 ⟨t, rfl, ht, rfl⟩, f t, rfl, hk t ht, hQ t ht hqt⟩

theorem Value.Fits.binary {Q : Term → Prop} {kind result : Kind} {f : Term → Term → Term}
    (name : String) (hk : ∀ t u, t.kind = kind → u.kind = kind → (f t u).kind = result)
    (hQ : ∀ t u, t.kind = kind → u.kind = kind → Q t → Q u → Q (f t u)) :
    (Value.function (.binary name kind f) : Value F).Fits Q result [kind, kind] := by
  refine ⟨_, rfl, ?_, ?_⟩
  · intro a v h
    obtain ⟨t, ha, ht, -⟩ := Operation.call_binary_eq_ok_iff.1 h
    exact ⟨t, ha, ht⟩
  · intro t ht hqt
    exact ⟨_, Operation.call_binary_eq_ok_iff.2 ⟨t, rfl, ht, rfl⟩,
      .unary name (fun u hu => hk t u ht hu) (fun u hu => hQ t u ht hu hqt)⟩

theorem Value.Fits.of_scalar {Q : Term → Prop} {result : Kind} {kinds : List Kind} {t : Term}
    (h : (Value.scalar t : Value F).Fits Q result kinds) : kinds = [] ∧ t.kind = result ∧ Q t := by
  cases kinds with
  | nil =>
    obtain ⟨u, hu, hk, hq⟩ := h
    cases hu
    exact ⟨rfl, hk, hq⟩
  | cons kind rest =>
    obtain ⟨op, hu, -⟩ := h
    cases hu

section Prelude

variable {Q : Term → Prop}

theorem Term.Stable.fits_unaryMethod (hQ : Term.Stable Q) {kind : Kind}
    (hk : kind ∈ Prelude.numericKinds) (m : UnaryMethod) :
    (Prelude.unaryMethod kind m : Key × Value F).2.Fits Q kind [kind] :=
  .unary m.name (fun _ => m.kind_term) (hQ.unary m kind hk)

theorem Term.Stable.fits_binaryMethod (hQ : Term.Stable Q) {kind : Kind} {m : BinaryMethod}
    (hk : kind = .bool ∧ m ∈ BinaryMethod.boolean ∨ kind ∈ Prelude.numericKinds) :
    (Prelude.binaryMethod kind m : Key × Value F).2.Fits Q (m.resultKind kind) [kind, kind] :=
  .binary m.name (fun _ _ => m.kind_term) (hQ.binary m kind hk)

theorem Term.Stable.fits_standard (hQ : Term.Stable Q) (e : Key × Value F)
    (he : e ∈ Prelude.standard.globals) : ∃ kinds result, e.2.Fits Q result kinds :=
  Prelude.forall_standard (P := fun v => ∃ kinds result, v.Fits Q result kinds)
    (fun b => ⟨_, _, .scalar (hQ.bool b)⟩)
    (fun n kind hk => ⟨_, _, .scalar (hQ.int n kind hk)⟩)
    (fun _ hk m => ⟨_, _, hQ.fits_unaryMethod hk m⟩)
    (fun _ _ hk => ⟨_, _, hQ.fits_binaryMethod hk⟩) e he

end Prelude

/-- Whatever such a scope holds takes scalars and gives one. -/
theorem Scope.AddsScalars.fits_lookup? {Q : Term → Prop} {scope : Scope F}
    (h : scope.AddsScalars Q) (hQ : Term.Stable Q) {key : Key} {value : Value F}
    (hv : scope.lookup? key = some value) : ∃ kinds result, value.Fits Q result kinds := by
  rcases h.lookup?_cases hv with ⟨t, rfl, ht⟩ | ⟨e, he, rfl⟩
  · exact ⟨[], t.kind, .scalar ht⟩
  · exact hQ.fits_standard e he

/-- A function is given scalars only, each of the kind that is due, and then waits for the rest. -/
theorem Value.Fits.call {Q : Term → Prop} {result : Kind} {kinds : List Kind}
    {op : Operation F} {arg value : Value F}
    (hf : (Value.function op).Fits Q result kinds) (hc : op.call arg = .ok value)
    (harg : ∀ t, arg = .scalar t → Q t) :
    ∃ kind rest t, kinds = kind :: rest ∧ arg = .scalar t ∧ t.kind = kind ∧
      value.Fits Q result rest := by
  cases kinds with
  | nil =>
    obtain ⟨t, ht, -⟩ := hf
    cases ht
  | cons kind rest =>
    obtain ⟨op', he, honly, hgives⟩ := hf
    cases he
    obtain ⟨t, rfl, hkind⟩ := honly _ _ hc
    obtain ⟨v, hv, hfits⟩ := hgives t hkind (harg t rfl)
    cases hv.symm.trans hc
    exact ⟨kind, rest, t, rfl, rfl, hkind, hfits⟩

/-- Evaluation in a scope that adds scalars with a property gives values that keep it, if the
allocated variables have it. -/
theorem Evaluates.exists_fits {types : TypeTable} {Q : Term → Prop} (hQ : Term.Stable Q)
    {scope : Scope F} {s s' : EvalState} {e : Expr} {value : Value F}
    (h : Evaluates types scope s e value s') (hscope : scope.AddsScalars Q)
    (hfresh : ∀ v ∈ s'.fresh, Q (.var v)) : ∃ kinds result, value.Fits Q result kinds := by
  induction h with
  | var _ hv => exact hscope.fits_lookup? hQ hv
  | typeApp _ ih => exact ih hscope hfresh
  | method _ hm =>
    obtain ⟨key, hv⟩ := exists_lookup?_of_methodValue?_eq_some hm
    exact hscope.fits_lookup? hQ hv
  | app _ _ hf harg hc ihf iha =>
    obtain ⟨kinds, result, hff⟩ := ihf hscope fun v hv => hfresh v (harg.fresh_prefix.subset hv)
    obtain ⟨argKinds, argResult, hfa⟩ := iha hscope hfresh
    obtain ⟨kind, rest, t, -, -, -, hfits⟩ := hff.call hc (by
      rintro t rfl
      exact hfa.of_scalar.2.2)
    exact ⟨rest, result, hfits⟩
  | lam _ hb ih =>
    refine ih (hscope.extend _ (hfresh _ (hb.fresh_prefix.subset ?_))) hfresh
    simp [EvalState.allocate]
  | tick _ ih => exact ih hscope hfresh

end CoreProver
