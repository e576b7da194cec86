import CoreProver.Proofs.Evaluation
import CoreProver.Proofs.Methods
import CoreProver.Run.Constants

/-!
# Concrete evaluation

Once every variable has a scalar, an expression without abstractions has a meaning of its own: a
scalar, or a function that takes scalars one by one. Symbolic evaluation agrees with it. Functions
are compared by what they make of arguments, so the relation between values and meanings is carried
through partial applications.
-/

namespace CoreProver

/-- What an expression means: a scalar or a function of one scalar. -/
inductive Meaning where
  | scalar (x : Scalar)
  | function (apply : Scalar → Meaning)

/-- Meanings by key, the innermost first. -/
abbrev Environment := List (Key × Meaning)

def Environment.lookup? (env : Environment) (key : Key) : Option Meaning :=
  (env.find? fun e => e.1 = key).map Prod.snd

/-- The meaning that an application of `f` to `a` has when it is a method call. -/
def methodMeaning? (types : TypeTable) (env : Environment) (f a : Expr) : Option Meaning :=
  (MethodCall.ofApp? f a).bind fun c =>
    (types.resolve? c.type).bind fun kind => env.lookup? ⟨c.method.name, kind⟩

/-- The application of a function to a scalar; nothing else can be applied. -/
def Meaning.applied : Option Meaning → Option Meaning → Option Meaning
  | some (.function f), some (.scalar x) => some (f x)
  | _, _ => none

/-- The meaning of an expression without abstractions. -/
def Expr.meaning? (types : TypeTable) (env : Environment) : Expr → Option Meaning
  | .var v => (types.resolve? v.type).bind fun kind => env.lookup? ⟨v.name, kind⟩
  | .app f (.type _) => f.meaning? types env
  | .app f a =>
    (methodMeaning? types env f a).or
      (Meaning.applied (f.meaning? types env) (a.meaning? types env))
  | .tick _ body => body.meaning? types env
  | _ => none

namespace Environment

def unaryMethod (D : DivisionByZero) (kind : Kind) (m : UnaryMethod) : Key × Meaning :=
  (⟨m.name, kind⟩, .function fun x => .scalar (m.function D kind x))

/-- A method of two arguments, which takes them one by one. -/
def binaryMethod (D : DivisionByZero) (kind : Kind) (m : BinaryMethod) : Key × Meaning :=
  (⟨m.name, kind⟩, .function fun x => .function fun y => .scalar (m.function D kind x y))

def booleans (D : DivisionByZero) : Environment :=
  [(⟨"True", .bool⟩, .scalar (.bool true)), (⟨"False", .bool⟩, .scalar (.bool false))] ++
    BinaryMethod.boolean.map (binaryMethod D .bool)

/-- What the prelude means at a kind of numbers. -/
def numbers (D : DivisionByZero) (kind : Kind) : Environment :=
  [(⟨"zero", kind⟩, .scalar (kind.number 0)), (⟨"one", kind⟩, .scalar (kind.number 1))] ++
    UnaryMethod.all.map (unaryMethod D kind) ++ BinaryMethod.numeric.map (binaryMethod D kind)

/-- What the prelude means. -/
def standard (D : DivisionByZero) : Environment :=
  booleans D ++ Prelude.numericKinds.flatMap (numbers D)

def ofConstants (assignment : SymVar → Scalar) (c : Constants) : Environment :=
  c.vars.map fun v => (⟨v.name, v.kind⟩, .scalar (assignment v))

/-- Parameters with the scalars of the variables that stand for them, in an outer environment. -/
def bindParameters (types : TypeTable) (assignment : SymVar → Scalar) :
    List Var → List SymVar → Environment → Environment
  | x :: xs, v :: vs, env =>
    bindParameters types assignment xs vs
      (match types.resolve? x.type with
      | some kind => (⟨x.name, kind⟩, .scalar (assignment v)) :: env
      | none => env)
  | _, _, env => env

end Environment

/-! ### Values and their meanings -/

section Relation

variable {F : Type} [Foreign F] (D : DivisionByZero) (assignment : SymVar → Scalar)

/-- The meaning describes the value: a scalar is what the term denotes, and a function makes of what
an argument denotes what describes the result of the call. -/
def Meaning.Describes : Meaning → Value F → Prop
  | .scalar x, value => ∃ t, value = .scalar t ∧ t.denote D assignment = x
  | .function f, value => ∃ op, value = .function op ∧
      ∀ a result, op.call a = .ok result →
        ∃ t, a = .scalar t ∧ (f (t.denote D assignment)).Describes result

/-- The same keys stand for meanings and for the values they describe, in the same order. -/
def Environment.Describes (env : Environment) (entries : Frame F) : Prop :=
  List.Forall₂ (fun m e => m.1 = e.1 ∧ m.2.Describes D assignment e.2) env entries

variable {D assignment}

theorem Meaning.Describes.scalar (t : Term) :
    (Meaning.scalar (t.denote D assignment)).Describes D assignment (.scalar t : Value F) :=
  ⟨t, rfl, rfl⟩

theorem Meaning.Describes.unaryMethod (kind : Kind) (m : UnaryMethod) :
    (Meaning.function fun x => .scalar (m.function D kind x)).Describes D assignment
      (Prelude.unaryMethod kind m : Key × Value F).2 := by
  refine ⟨_, rfl, ?_⟩
  intro a result h
  obtain ⟨t, rfl, ht, rfl⟩ := Operation.call_unary_eq_ok_iff.1 h
  exact ⟨t, rfl, m.term kind t, rfl, m.denote_term D assignment ht⟩

/-- A method of two arguments means its function, one argument at a time. -/
theorem Meaning.Describes.binaryMethod (kind : Kind) (m : BinaryMethod) :
    (Meaning.function fun x => .function fun y => .scalar (m.function D kind x y)).Describes D
      assignment (Prelude.binaryMethod kind m : Key × Value F).2 := by
  refine ⟨_, rfl, ?_⟩
  intro a result h
  obtain ⟨t, rfl, ht, rfl⟩ := Operation.call_binary_eq_ok_iff.1 h
  refine ⟨t, rfl, _, rfl, ?_⟩
  intro b final h
  obtain ⟨u, rfl, hu, rfl⟩ := Operation.call_unary_eq_ok_iff.1 h
  exact ⟨u, rfl, m.term kind t u, rfl, m.denote_term D assignment ht hu⟩

namespace Environment

theorem Describes.lookup? {env : Environment} {entries : Frame F}
    (h : env.Describes D assignment entries) (key : Key) :
    Option.Rel (Meaning.Describes D assignment) (env.lookup? key) (Frame.lookup? entries key) :=
  rel_find? h key

theorem describes_numbers (kind : Kind) :
    (numbers D kind).Describes D assignment (Prelude.numbers kind : Frame F) := by
  refine List.rel_append (List.rel_append ?_ ?_) ?_
  · exact .cons ⟨rfl, .scalar (.int 0 kind)⟩
      (.cons ⟨rfl, .scalar (.int 1 kind)⟩ .nil)
  · exact rel_map_map fun m _ => ⟨rfl, .unaryMethod kind m⟩
  · exact rel_map_map fun m _ => ⟨rfl, .binaryMethod kind m⟩

/-- The prelude means what its terms denote. -/
theorem describes_standard :
    (standard D).Describes D assignment (Prelude.standard : Prelude F).globals := by
  refine List.rel_append (List.rel_append ?_ ?_) ?_
  · exact .cons ⟨rfl, .scalar (.bool true)⟩
      (.cons ⟨rfl, .scalar (.bool false)⟩ .nil)
  · exact rel_map_map fun m _ => ⟨rfl, .binaryMethod .bool m⟩
  · exact List.rel_flatMap (List.forall₂_same.2 fun _ _ => rfl)
      (fun kind _ he => he ▸ describes_numbers kind)

theorem describes_ofConstants (c : Constants) :
    (ofConstants assignment c).Describes D assignment (c.frame : Frame F) :=
  rel_map_map fun v _ => ⟨rfl, .scalar (.var v)⟩

end Environment

end Relation

section Simulation

variable {F : Type} [Foreign F] {D : DivisionByZero} {assignment : SymVar → Scalar}
  {types : TypeTable}

theorem Environment.Describes.methodMeaning? (types : TypeTable) {env : Environment}
    {scope : Scope F} (h : env.Describes D assignment scope.frames.flatten) (f a : Expr) :
    Option.Rel (Meaning.Describes D assignment) (methodMeaning? types env f a)
      (methodValue? types scope f a) := by
  refine rel_methodValue? (fun key => ?_) types f a
  rw [Scope.lookup?_eq_flatten]
  exact h.lookup? key

theorem Expr.meaning?_app (env : Environment) {f a : Expr} (ha : a.bareType? = none) :
    (Expr.app f a).meaning? types env = (CoreProver.methodMeaning? types env f a).or
      (Meaning.applied (f.meaning? types env) (a.meaning? types env)) := by
  rw [Expr.meaning?]
  exact (Expr.bareType?_eq_none_iff a).1 ha

theorem Meaning.Describes.exists_function {m : Meaning} {op : Operation F}
    (h : m.Describes D assignment (.function op)) :
    ∃ f, m = .function f ∧ ∀ a result, op.call a = .ok result →
      ∃ t, a = .scalar t ∧ (f (t.denote D assignment)).Describes D assignment result := by
  cases m with
  | scalar x =>
    obtain ⟨t, ht, -⟩ := h
    cases ht
  | function f =>
    obtain ⟨op', he, hcall⟩ := h
    cases he
    exact ⟨f, rfl, hcall⟩

theorem Meaning.Describes.eq_scalar {m : Meaning} {t : Term}
    (h : m.Describes D assignment (.scalar t : Value F)) :
    m = .scalar (t.denote D assignment) := by
  cases m with
  | scalar x =>
    obtain ⟨u, hu, rfl⟩ := h
    cases hu
    rfl
  | function f =>
    obtain ⟨op, he, -⟩ := h
    cases he

/-- An expression without abstractions has a meaning that describes its value. -/
theorem Evaluates.exists_meaning {scope : Scope F} {s s' : EvalState} {e : Expr} {value : Value F}
    (h : Evaluates types scope s e value s') (hl : e.lambdas = []) {env : Environment}
    (henv : env.Describes D assignment scope.frames.flatten) :
    ∃ m, e.meaning? types env = some m ∧ m.Describes D assignment value := by
  induction h with
  | @var scope s v kind value hk hv =>
    have hrel := henv.lookup? ⟨v.name, kind⟩
    rw [← Scope.lookup?_eq_flatten, hv] at hrel
    obtain ⟨m, hm, hdesc⟩ := exists_of_rel_some hrel
    exact ⟨m, by simp [Expr.meaning?, hk, hm], hdesc⟩
  | typeApp _ ih =>
    simp only [Expr.lambdas, List.append_nil] at hl
    exact ih hl henv
  | @method scope s f a value ha hm =>
    have hrel := henv.methodMeaning? types f a
    rw [hm] at hrel
    obtain ⟨m, hmm, hdesc⟩ := exists_of_rel_some hrel
    exact ⟨m, by rw [Expr.meaning?_app env ha, hmm, Option.some_or], hdesc⟩
  | @app scope s s₁ s₂ f a op arg value ha hm hf harg hc ihf iha =>
    simp only [Expr.lambdas, List.append_eq_nil_iff] at hl
    obtain ⟨mf, hmf, hdf⟩ := ihf hl.1 henv
    obtain ⟨g, rfl, hg⟩ := hdf.exists_function
    obtain ⟨t, rfl, hd⟩ := hg _ _ hc
    obtain ⟨ma, hma, hda⟩ := iha hl.2 henv
    refine ⟨g (t.denote D assignment), ?_, hd⟩
    have hnone : CoreProver.methodMeaning? types env f a = none :=
      eq_none_of_rel_none (hm ▸ henv.methodMeaning? types f a)
    rw [Expr.meaning?_app env ha, hnone, Option.none_or, hmf, hma, hda.eq_scalar]
    rfl
  | lam _ _ _ => simp [Expr.lambdas] at hl
  | tick _ ih => exact ih hl henv

/-- Without parameters nothing is allocated, and the environment is that of the expression. -/
theorem Evaluates.exists_meaning_of_no_parameters {scope : Scope F} {s s' : EvalState} {e : Expr}
    {value : Value F} (h : Evaluates types scope s e value s') (hl : e.lambdas = []) :
    ∃ vars, s'.fresh = s.fresh ++ vars ∧ vars.length = 0 ∧
      ∀ D assignment env, Environment.Describes D assignment env scope.frames.flatten →
        ∃ m, e.meaning? types (.bindParameters types assignment [] vars env) = some m ∧
          m.Describes D assignment value := by
  obtain ⟨vars, hvars, hlen⟩ := h.exists_fresh_eq
  rw [hl, List.length_nil] at hlen
  exact ⟨vars, hvars, hlen, fun D assignment env henv => h.exists_meaning hl henv⟩

/-- Under its parameters, an expression has a meaning that describes its value. Every parameter has
the scalar of the variable that was allocated for it. -/
theorem Evaluates.exists_inner_meaning {scope : Scope F} {s s' : EvalState} {e : Expr}
    {value : Value F} (h : Evaluates types scope s e value s') (hl : e.inner.lambdas = []) :
    ∃ vars, s'.fresh = s.fresh ++ vars ∧ vars.length = e.parameters.length ∧
      ∀ D assignment env, Environment.Describes D assignment env scope.frames.flatten →
        ∃ m, e.inner.meaning? types
            (.bindParameters types assignment e.parameters vars env) = some m ∧
          m.Describes D assignment value := by
  induction h with
  | var hk hv => exact (Evaluates.var hk hv).exists_meaning_of_no_parameters hl
  | typeApp hf _ => exact (Evaluates.typeApp hf).exists_meaning_of_no_parameters hl
  | method ha hm => exact (Evaluates.method ha hm).exists_meaning_of_no_parameters hl
  | app ha hm hf harg hc _ _ =>
    exact (Evaluates.app ha hm hf harg hc).exists_meaning_of_no_parameters hl
  | @lam scope s s' v body kind value hk _ ih =>
    obtain ⟨vars, hvars, hlen, hm⟩ := ih hl
    refine ⟨s.nextVar v.name kind :: vars, ?_, ?_, ?_⟩
    · rw [hvars, EvalState.allocate, List.append_assoc, List.singleton_append]
    · rw [Expr.parameters, List.length_cons, List.length_cons, hlen]
    · intro D assignment env henv
      simp only [Expr.parameters, Expr.inner, Environment.bindParameters, hk]
      exact hm D assignment _ (.cons ⟨rfl, .scalar (.var (s.nextVar v.name kind))⟩ henv)
  | tick _ ih => exact ih hl

end Simulation

/-- The goal of a property denotes what its body means. Take any constants and any property whose
body has no abstractions below the parameters. When the property has an obligation, one variable was
allocated for each parameter, and for every assignment of scalars to variables the goal denotes true
exactly when the body means true: parameters and constants have the scalars of their variables,
names are looked up from the innermost parameter outward, and methods are the functions that their
terms denote. -/
theorem property_denotes_meaning {F : Type} [Foreign F] (c : Constants)
    (location : Option Location) (e : Expr) (s s' : EvalState) (o : Obligation)
    (hl : e.inner.lambdas = [])
    (h : evalProperty Prelude.standardTypes e
      (⟨[c.frame, Prelude.standard.globals], location⟩ : Scope F) s = (.ok o, s')) :
    ∃ vars, s'.fresh = s.fresh ++ vars ∧ vars.length = e.parameters.length ∧ vars ⊆ o.vars ∧
      ∀ (D : DivisionByZero) (assignment : SymVar → Scalar),
        let env := Environment.bindParameters Prelude.standardTypes assignment e.parameters vars
          (.ofConstants assignment c ++ .standard D)
        e.inner.meaning? Prelude.standardTypes env =
            some (.scalar (o.goal.denote D assignment)) ∧
          (o.goal.denote D assignment = .bool true ↔
            e.inner.meaning? Prelude.standardTypes env = some (.scalar (.bool true))) := by
  obtain ⟨goal, heval, -, rfl⟩ := (evalProperty_eq_ok_iff ..).1 h
  obtain ⟨vars, hvars, hlen, hm⟩ := heval.exists_inner_meaning hl
  refine ⟨vars, hvars, hlen, ?_, ?_⟩
  · intro v hv
    exact (mem_appendNew _ _ _).2 (.inl (by simp [hvars, hv]))
  · intro D assignment env
    have henv : (Environment.ofConstants assignment c ++ Environment.standard D).Describes D
        assignment [(c.frame : Frame F), Prelude.standard.globals].flatten := by
      rw [List.flatten_cons, List.flatten_singleton]
      exact List.rel_append (Environment.describes_ofConstants c) Environment.describes_standard
    obtain ⟨m, hmeaning, hdesc⟩ := hm D assignment _ henv
    have hgoal : e.inner.meaning? Prelude.standardTypes env =
        some (.scalar (goal.denote D assignment)) := by
      rw [hmeaning, hdesc.eq_scalar]
    refine ⟨hgoal, ?_⟩
    rw [hgoal, Option.some.injEq, Meaning.scalar.injEq]
    rfl

/-- `x + c == x`, with markers, where one parameter `x` hides another of the same kind and `c` is a
constant. -/
def hiddenParameter : Expr :=
  let t := Ty.con "Int8" []
  let here : Location := ⟨"P.hs", 1, 1⟩
  let sum := Expr.app (.app (.methodAt "+" t) (.var ⟨"x", t⟩)) (.var ⟨"c", t⟩)
  .lam ⟨"x", t⟩ (.tick here (.lam ⟨"x", t⟩
    (.app (.app (.methodAt "==" t) (.tick here sum)) (.var ⟨"x", t⟩))))

theorem property_denotes_meaning_of_hidden_parameter :
    let c : SymVar := ⟨0, "c", .signed 8, .constant⟩
    let x : SymVar := ⟨1, "x", .signed 8, .parameter⟩
    ∃ vars, vars.length = 2 ∧
      ∀ (D : DivisionByZero) (assignment : SymVar → Scalar),
        (Term.binary .eq (.binary .add (.var x) (.var c)) (.var x)).denote D assignment =
            .bool true ↔
          hiddenParameter.inner.meaning? Prelude.standardTypes
            (.bindParameters Prelude.standardTypes assignment hiddenParameter.parameters vars
              (.ofConstants assignment ⟨[c], by decide⟩ ++ .standard D)) =
            some (.scalar (.bool true)) :=
  have ⟨vars, _, hlen, _, h⟩ :=
    property_denotes_meaning (F := Empty) ⟨[⟨0, "c", .signed 8, .constant⟩], by decide⟩ none
      hiddenParameter .initial _
      ⟨[⟨0, "x", .signed 8, .parameter⟩, ⟨1, "x", .signed 8, .parameter⟩,
          ⟨0, "c", .signed 8, .constant⟩],
        .binary .eq (.binary .add (.var ⟨1, "x", .signed 8, .parameter⟩)
          (.var ⟨0, "c", .signed 8, .constant⟩)) (.var ⟨1, "x", .signed 8, .parameter⟩)⟩
      rfl rfl
  ⟨vars, hlen, fun D assignment => (h D assignment).2⟩

end CoreProver
