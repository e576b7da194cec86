import CoreProver.Proofs.Signatures

/-!
# Kind inference

Whether an expression evaluates depends on kinds only. Every entry of a scope has a signature, the
kinds of the arguments that it still takes and the kind of the scalar that it then is. From these an
expression gets a signature by its structure, or none. Evaluation succeeds exactly where there is a
signature, and the value takes and gives what the signature says.
-/

namespace CoreProver

/-- What a value takes, one by one, and the scalar that it then is. -/
structure Signature where
  arguments : List Kind
  result : Kind
  deriving Repr, DecidableEq

def Signature.scalar (kind : Kind) : Signature := ⟨[], kind⟩

/-- The signature of an application: the argument is a scalar of the kind that is due. -/
def Signature.applied : Option Signature → Option Signature → Option Signature
  | some ⟨due :: rest, result⟩, some ⟨[], given⟩ =>
    if given = due then some ⟨rest, result⟩ else none
  | _, _ => none

theorem Signature.applied_eq_some_iff (f a : Option Signature) (σ : Signature) :
    Signature.applied f a = some σ ↔
      ∃ kind, f = some ⟨kind :: σ.arguments, σ.result⟩ ∧ a = some (.scalar kind) := by
  obtain ⟨arguments, result⟩ := σ
  unfold applied scalar
  split
  · rename_i due rest result' given
    by_cases h : given = due
    · subst h
      simp
    · simp only [if_neg h, reduceCtorEq, Option.some.injEq, Signature.mk.injEq, List.cons.injEq,
        true_and, false_iff, not_exists, not_and]
      rintro kind ⟨⟨rfl, -⟩, -⟩ hg
      exact h hg
  · rename_i hnot
    simp only [reduceCtorEq, false_iff, not_exists, not_and]
    intro kind hf ha
    exact hnot kind arguments result kind hf ha

/-- Signatures by key, the innermost first. -/
abbrev Context := List (Key × Signature)

namespace Context

def lookup? (context : Context) (key : Key) : Option Signature :=
  (context.find? fun e => e.1 = key).map Prod.snd

/-- A method takes one argument of its kind and keeps the kind. -/
def unaryMethod (kind : Kind) (m : UnaryMethod) : Key × Signature :=
  (⟨m.name, kind⟩, ⟨[kind], kind⟩)

/-- A method takes two arguments of its kind. -/
def binaryMethod (kind : Kind) (m : BinaryMethod) : Key × Signature :=
  (⟨m.name, kind⟩, ⟨[kind, kind], m.resultKind kind⟩)

def booleans : Context :=
  [(⟨"True", .bool⟩, .scalar .bool), (⟨"False", .bool⟩, .scalar .bool)] ++
    BinaryMethod.boolean.map (binaryMethod .bool)

/-- The signatures of the prelude at a kind of numbers. -/
def numbers (kind : Kind) : Context :=
  [(⟨"zero", kind⟩, .scalar kind), (⟨"one", kind⟩, .scalar kind)] ++
    UnaryMethod.all.map (unaryMethod kind) ++ BinaryMethod.numeric.map (binaryMethod kind)

/-- The signatures of the prelude. -/
def standard : Context := booleans ++ Prelude.numericKinds.flatMap numbers

def ofScalars (scalars : List (Key × Term)) : Context :=
  scalars.map fun e => (e.1, .scalar e.2.kind)

end Context

/-- A frame in which every key stands for a scalar. -/
def Frame.ofScalars {F : Type} (scalars : List (Key × Term)) : Frame F :=
  scalars.map fun e => (e.1, .scalar e.2)

/-- The signature that an application of `f` to `a` has when it is a method call. -/
def methodSignature? (types : TypeTable) (context : Context) (f a : Expr) : Option Signature :=
  (MethodCall.ofApp? f a).bind fun c =>
    (types.resolve? c.type).bind fun kind => context.lookup? ⟨c.method.name, kind⟩

/-- The signature of an expression. An abstraction has that of its body: its parameter is a variable
and no argument. -/
def Expr.signature? (types : TypeTable) : Context → Expr → Option Signature
  | context, .var v =>
    (types.resolve? v.type).bind fun kind => context.lookup? ⟨v.name, kind⟩
  | context, .app f (.type _) => f.signature? types context
  | context, .app f a =>
    (methodSignature? types context f a).or
      (Signature.applied (f.signature? types context) (a.signature? types context))
  | context, .lam v body =>
    (types.resolve? v.type).bind fun kind =>
      body.signature? types ((⟨v.name, kind⟩, .scalar kind) :: context)
  | context, .tick _ body => body.signature? types context
  | _, _ => none

/-! ### Values and their signatures -/

variable {F : Type} [Foreign F]

/-- The value takes and gives what the signature says. -/
def Signature.Describes (σ : Signature) (value : Value F) : Prop :=
  value.Fits (fun _ => True) σ.result σ.arguments

namespace Signature.Describes

theorem scalar (t : Term) : (Signature.scalar t.kind).Describes (.scalar t : Value F) :=
  Value.Fits.scalar trivial

/-- Only the signature of a scalar of its kind describes a scalar. -/
theorem eq_scalar {σ : Signature} {t : Term} (h : σ.Describes (.scalar t : Value F)) :
    σ = .scalar t.kind := by
  obtain ⟨arguments, result⟩ := σ
  obtain ⟨harguments, hresult, -⟩ := Value.Fits.of_scalar h
  exact congrArg₂ Signature.mk harguments hresult.symm

theorem exists_scalar {kind : Kind} {value : Value F}
    (h : (Signature.scalar kind).Describes value) : ∃ t, value = .scalar t ∧ t.kind = kind := by
  obtain ⟨t, hvalue, hkind, -⟩ := h
  exact ⟨t, hvalue, hkind⟩

/-- A value with arguments left is a function, which takes every scalar of the kind that is due. -/
theorem exists_function {kind result : Kind} {rest : List Kind} {value : Value F}
    (h : Signature.Describes ⟨kind :: rest, result⟩ value) :
    ∃ op, value = .function op ∧
      ∀ t : Term, t.kind = kind →
        ∃ v, op.call (.scalar t) = .ok v ∧ Signature.Describes ⟨rest, result⟩ v := by
  obtain ⟨op, hvalue, -, hgives⟩ := h
  exact ⟨op, hvalue, fun t ht => hgives t ht trivial⟩

/-- Where a call succeeds, the signatures of function and argument match. -/
theorem applied {f a : Signature} {op : Operation F}
    {arg value : Value F} (hf : f.Describes (.function op)) (ha : a.Describes arg)
    (hc : op.call arg = .ok value) :
    ∃ σ, Signature.applied (some f) (some a) = some σ ∧ σ.Describes value := by
  obtain ⟨kind, rest, t, hkinds, rfl, hkind, hvalue⟩ := Value.Fits.call hf hc fun _ _ => trivial
  refine ⟨⟨rest, f.result⟩, ?_, hvalue⟩
  rw [Signature.applied_eq_some_iff]
  refine ⟨kind, ?_, ?_⟩
  · rw [← hkinds]
  · rw [ha.eq_scalar, hkind]

end Signature.Describes

/-- The same keys stand for signatures and for the values they describe, in the same order. -/
def Context.Describes (context : Context) (entries : Frame F) : Prop :=
  List.Forall₂ (fun d e => d.1 = e.1 ∧ d.2.Describes e.2) context entries

namespace Context

theorem describes_numbers {kind : Kind} (hk : kind ∈ Prelude.numericKinds) :
    (numbers kind).Describes (Prelude.numbers kind : Frame F) := by
  refine List.rel_append (List.rel_append ?_ ?_) ?_
  · exact .cons ⟨rfl, .scalar (.int 0 kind)⟩ (.cons ⟨rfl, .scalar (.int 1 kind)⟩ .nil)
  · exact rel_map_map fun m _ => ⟨rfl, Term.stable_true.fits_unaryMethod hk m⟩
  · exact rel_map_map fun m _ => ⟨rfl, Term.stable_true.fits_binaryMethod (.inr hk)⟩

theorem describes_standard : standard.Describes (Prelude.standard : Prelude F).globals := by
  refine List.rel_append (List.rel_append ?_ ?_) ?_
  · exact .cons ⟨rfl, .scalar (.bool true)⟩ (.cons ⟨rfl, .scalar (.bool false)⟩ .nil)
  · exact rel_map_map fun m hm => ⟨rfl, Term.stable_true.fits_binaryMethod (.inl ⟨rfl, hm⟩)⟩
  · have hkinds : List.Forall₂ (fun k l => k = l ∧ k ∈ Prelude.numericKinds)
        Prelude.numericKinds Prelude.numericKinds := List.forall₂_same.2 fun _ hk => ⟨rfl, hk⟩
    exact List.rel_flatMap hkinds fun kind _ h => h.1 ▸ describes_numbers h.2

theorem describes_ofScalars (scalars : List (Key × Term)) :
    (ofScalars scalars).Describes (.ofScalars scalars : Frame F) :=
  rel_map_map fun e _ => ⟨rfl, .scalar e.2⟩

variable {context : Context} {scope : Scope F}

theorem Describes.lookup? (h : context.Describes scope.frames.flatten) (key : Key) :
    Option.Rel Signature.Describes (context.lookup? key) (scope.lookup? key) := by
  rw [Scope.lookup?_eq_flatten]
  exact rel_find? h key

theorem Describes.methodSignature? (h : context.Describes scope.frames.flatten)
    (types : TypeTable) (f a : Expr) :
    Option.Rel Signature.Describes (methodSignature? types context f a)
      (methodValue? types scope f a) :=
  rel_methodValue? h.lookup? types f a

theorem Describes.extend (h : context.Describes scope.frames.flatten) (key : Key) (t : Term) :
    Context.Describes ((key, .scalar t.kind) :: context)
      (scope.extend key (.scalar t)).frames.flatten :=
  .cons ⟨rfl, .scalar t⟩ h

end Context

/-! ### Evaluation and inference -/

section Inference

variable {types : TypeTable} {context : Context} {scope : Scope F}

theorem Expr.signature?_app {f a : Expr} (ha : a.bareType? = none) :
    (Expr.app f a).signature? types context =
      (CoreProver.methodSignature? types context f a).or
        (Signature.applied (f.signature? types context) (a.signature? types context)) := by
  rw [Expr.signature?]
  exact (Expr.bareType?_eq_none_iff a).1 ha

/-- What evaluates has a signature, and the value is as it says. -/
theorem Evaluates.exists_signature {s s' : EvalState} {e : Expr} {value : Value F}
    (h : Evaluates types scope s e value s') (hscope : context.Describes scope.frames.flatten) :
    ∃ σ, e.signature? types context = some σ ∧ σ.Describes value := by
  induction h generalizing context with
  | @var scope s v kind value hk hv =>
    obtain ⟨σ, hσ, hdesc⟩ := exists_of_rel_some (hv ▸ hscope.lookup? ⟨v.name, kind⟩)
    exact ⟨σ, by simp [Expr.signature?, hk, hσ], hdesc⟩
  | typeApp _ ih => exact ih hscope
  | @method scope s f a value ha hm =>
    obtain ⟨σ, hσ, hdesc⟩ := exists_of_rel_some (hm ▸ hscope.methodSignature? types f a)
    exact ⟨σ, by rw [Expr.signature?_app ha, hσ, Option.some_or], hdesc⟩
  | @app scope s s₁ s₂ f a op arg value ha hm _ _ hc ihf iha =>
    obtain ⟨σf, hσf, hdf⟩ := ihf hscope
    obtain ⟨σa, hσa, hda⟩ := iha hscope
    obtain ⟨σ, hσ, hdesc⟩ := hdf.applied hda hc
    have hnone : CoreProver.methodSignature? types context f a = none :=
      eq_none_of_rel_none (hm ▸ hscope.methodSignature? types f a)
    exact ⟨σ, by rw [Expr.signature?_app ha, hnone, Option.none_or, hσf, hσa, hσ], hdesc⟩
  | lam hk _ ih =>
    obtain ⟨σ, hσ, hdesc⟩ := ih (hscope.extend _ _)
    exact ⟨σ, by rw [Expr.signature?, hk]; exact hσ, hdesc⟩
  | tick _ ih => exact ih hscope

/-- What has a signature evaluates, from every state. -/
theorem Expr.exists_evaluates_of_signature? {e : Expr} {σ : Signature}
    (h : e.signature? types context = some σ) (hscope : context.Describes scope.frames.flatten)
    (s : EvalState) : ∃ value s', Evaluates types scope s e value s' := by
  fun_induction Expr.signature? types context e generalizing scope s σ with
  | case1 context v =>
    obtain ⟨kind, hk, hσ⟩ := Option.bind_eq_some_iff.1 h
    have hrel := hscope.lookup? ⟨v.name, kind⟩
    rw [hσ] at hrel
    cases hv : scope.lookup? ⟨v.name, kind⟩ with
    | none => rw [hv] at hrel; cases hrel
    | some value => exact ⟨value, s, .var hk hv⟩
  | case2 context f t ih =>
    obtain ⟨value, s', hf⟩ := ih h hscope s
    exact ⟨value, s', .typeApp hf⟩
  | case3 context f a ha ihf iha =>
    have hbare := (Expr.bareType?_eq_none_iff a).2 ha
    cases hm : methodValue? types scope f a with
    | some value => exact ⟨value, _, .method hbare hm⟩
    | none =>
      have hnone : CoreProver.methodSignature? types context f a = none :=
        eq_none_of_rel_none (hm ▸ hscope.methodSignature? types f a)
      rw [hnone, Option.none_or, Signature.applied_eq_some_iff] at h
      obtain ⟨kind, hf, hg⟩ := h
      -- the values of function and argument are as their signatures say, so the call succeeds
      obtain ⟨vf, s₁, hevalf⟩ := ihf hf hscope s
      obtain ⟨va, s₂, hevala⟩ := iha hg hscope s₁
      obtain ⟨σf, hσf, hdf⟩ := hevalf.exists_signature hscope
      obtain ⟨σa, hσa, hda⟩ := hevala.exists_signature hscope
      cases hf.symm.trans hσf
      cases hg.symm.trans hσa
      obtain ⟨op, rfl, hcall⟩ := hdf.exists_function
      obtain ⟨t, rfl, ht⟩ := hda.exists_scalar
      obtain ⟨value, hvalue, -⟩ := hcall t ht
      exact ⟨value, s₂, .app hbare hm hevalf hevala hvalue⟩
  | case4 context v body ih =>
    obtain ⟨kind, hk, hσ⟩ := Option.bind_eq_some_iff.1 h
    obtain ⟨value, s', hb⟩ := ih kind hσ
      (hscope.extend ⟨v.name, kind⟩ (.var (s.nextVar v.name kind))) (s.allocate v.name kind)
    exact ⟨value, s', .lam hk hb⟩
  | case5 context location body ih =>
    have hmoved : context.Describes (scope.moveTo location).frames.flatten := hscope
    obtain ⟨value, s', hb⟩ := ih h hmoved s
    exact ⟨value, s', .tick hb⟩
  | case6 => cases h

/-- The value of what has a signature is as the signature says. -/
theorem Expr.exists_eval_of_signature? {e : Expr} {σ : Signature}
    (h : e.signature? types context = some σ) (hscope : context.Describes scope.frames.flatten)
    (s : EvalState) : ∃ value s', eval types e scope s = (.ok value, s') ∧ σ.Describes value := by
  obtain ⟨value, s', heval⟩ := Expr.exists_evaluates_of_signature? h hscope s
  obtain ⟨τ, hτ, hdesc⟩ := heval.exists_signature hscope
  cases h.symm.trans hτ
  exact ⟨value, s', heval.eval_eq, hdesc⟩

/-- A property has an obligation exactly when its signature is that of a truth value. -/
theorem exists_evalProperty_iff (hscope : context.Describes scope.frames.flatten) (e : Expr)
    (s : EvalState) :
    (∃ o s', evalProperty types e scope s = (.ok o, s')) ↔
      e.signature? types context = some (.scalar .bool) := by
  constructor
  · rintro ⟨o, s', h⟩
    obtain ⟨goal, heval, hbool, -⟩ := (evalProperty_eq_ok_iff ..).1 h
    obtain ⟨σ, hσ, hdesc⟩ := heval.exists_signature hscope
    rw [hσ, hdesc.eq_scalar, hbool]
  · intro h
    obtain ⟨value, s', heval, hdesc⟩ := Expr.exists_eval_of_signature? h hscope s
    obtain ⟨goal, rfl, hbool⟩ := hdesc.exists_scalar
    exact ⟨_, s', (evalProperty_eq_ok_iff ..).2 ⟨goal, .of_eval heval, hbool, rfl⟩⟩

end Inference

/-- Evaluation succeeds exactly on expressions with a signature. Over the prelude and any scalars,
an expression has a value if and only if kinds give it a signature. Where no argument is left, the
value is a scalar of the signature's kind; otherwise it is a function, which takes and gives what
the signature says. A property has an obligation if and only if its signature is that of a truth
value. -/
theorem evaluates_exactly_with_signature (types : TypeTable) (scalars : List (Key × Term))
    (location : Option Location) (e : Expr) (s : EvalState) :
    let scope : Scope F := ⟨[.ofScalars scalars, Prelude.standard.globals], location⟩
    let signature := e.signature? types (.ofScalars scalars ++ .standard)
    ((∃ value s', eval types e scope s = (.ok value, s')) ↔ signature.isSome = true) ∧
    (∀ kind, signature = some (.scalar kind) →
      ∃ t s', eval types e scope s = (.ok (.scalar t), s') ∧ t.kind = kind) ∧
    (∀ due rest result, signature = some ⟨due :: rest, result⟩ →
      ∃ op s', eval types e scope s = (.ok (.function op), s') ∧
        Signature.Describes ⟨due :: rest, result⟩ (.function op)) ∧
    ((∃ o s', evalProperty types e scope s = (.ok o, s')) ↔
      signature = some (.scalar .bool)) := by
  intro scope signature
  have hscope : Context.Describes (.ofScalars scalars ++ .standard) scope.frames.flatten := by
    simp only [scope, List.flatten_cons, List.flatten_nil, List.append_nil]
    exact List.rel_append (Context.describes_ofScalars scalars) Context.describes_standard
  refine ⟨⟨?_, ?_⟩, ?_, ?_, exists_evalProperty_iff hscope e s⟩
  · rintro ⟨value, s', h⟩
    obtain ⟨σ, hσ, -⟩ := (Evaluates.of_eval h).exists_signature hscope
    exact Option.isSome_iff_exists.2 ⟨σ, hσ⟩
  · intro h
    obtain ⟨σ, hσ⟩ := Option.isSome_iff_exists.1 h
    obtain ⟨value, s', heval, -⟩ := Expr.exists_eval_of_signature? hσ hscope s
    exact ⟨value, s', heval⟩
  · intro kind hσ
    obtain ⟨value, s', heval, hdesc⟩ := Expr.exists_eval_of_signature? hσ hscope s
    obtain ⟨t, rfl, ht⟩ := hdesc.exists_scalar
    exact ⟨t, s', heval, ht⟩
  · intro due rest result hσ
    obtain ⟨value, s', heval, hdesc⟩ := Expr.exists_eval_of_signature? hσ hscope s
    obtain ⟨op, rfl, -⟩ := hdesc.exists_function
    exact ⟨op, s', heval, hdesc⟩

/-- `x <=` with a parameter `x`. -/
def atLeastParameter : Expr :=
  let t := Ty.con "Int8" []
  .lam ⟨"x", t⟩ (.app (.methodAt "<=" t) (.var ⟨"x", t⟩))

/-- Over a constant `c`, `x <=` is a function, `x <= c` has an obligation and `x <= True` has no
value. -/
theorem evaluates_exactly_with_signature_of_atLeastParameter :
    let c : SymVar := ⟨0, "c", .signed 8, .constant⟩
    let scope : Scope Empty :=
      ⟨[.ofScalars [(⟨"c", .signed 8⟩, .var c)], Prelude.standard.globals], none⟩
    let compared (v : Var) : Expr := .app atLeastParameter (.var v)
    (∃ op s', eval Prelude.standardTypes atLeastParameter scope .initial =
        (.ok (.function op), s') ∧
      Signature.Describes ⟨[.signed 8], .bool⟩ (.function op)) ∧
    (∃ t s', eval Prelude.standardTypes (compared ⟨"c", .con "Int8" []⟩) scope .initial =
        (.ok (.scalar t), s') ∧ t.kind = .bool) ∧
    (∃ o s', evalProperty Prelude.standardTypes (compared ⟨"c", .con "Int8" []⟩) scope .initial =
      (.ok o, s')) ∧
    ¬∃ value s', eval Prelude.standardTypes (compared ⟨"True", .con "Bool" []⟩) scope .initial =
      (.ok value, s') := by
  intro c scope compared
  have h (e : Expr) := evaluates_exactly_with_signature (F := Empty) Prelude.standardTypes
    [(⟨"c", .signed 8⟩, .var c)] none e .initial
  refine ⟨(h _).2.2.1 _ _ _ (by decide +kernel), (h _).2.1 _ (by decide +kernel),
    (h _).2.2.2.2 (by decide +kernel), ?_⟩
  rw [(h _).1]
  decide +kernel

end CoreProver
