import CoreProver.Proofs.Crashes
import CoreProver.Proofs.Run.Course

/-!
# Coverage

Which expressions evaluation covers, and what it says about the others. `Expr.StandsIn` is about
every subexpression, in whatever position, with the location of the innermost marker around it. An
expression with a value has no construct outside the covered part anywhere. An error is about one
subexpression and has the location at which that subexpression stands.
-/

namespace CoreProver

/-! ### Subexpressions -/

/-- Where an expression stands. -/
structure Place where
  /-- The location of the innermost marker around it, or the one outside if there is none. -/
  location : Option Location
  /-- Whether it is the argument of an application. -/
  isArgument : Bool
  deriving Repr, DecidableEq

/-- The expression at the first place has the other one, at its place, as a direct part. -/
inductive Expr.HasPart : Expr → Place → Expr → Place → Prop where
  | function (f a : Expr) (p : Place) : HasPart (.app f a) p f ⟨p.location, false⟩
  | argument (f a : Expr) (p : Place) : HasPart (.app f a) p a ⟨p.location, true⟩
  | lam (v : Var) (body : Expr) (p : Place) : HasPart (.lam v body) p body ⟨p.location, false⟩
  | letBound (v : Var) (bound body : Expr) (p : Place) :
      HasPart (.letIn v bound body) p bound ⟨p.location, false⟩
  | letBody (v : Var) (bound body : Expr) (p : Place) :
      HasPart (.letIn v bound body) p body ⟨p.location, false⟩
  | groupBound {v : Var} {bound : Expr} {group : List (Var × Expr)} (h : (v, bound) ∈ group)
      (body : Expr) (p : Place) : HasPart (.letRec group body) p bound ⟨p.location, false⟩
  | groupBody (group : List (Var × Expr)) (body : Expr) (p : Place) :
      HasPart (.letRec group body) p body ⟨p.location, false⟩
  | scrutinee (e : Expr) (v : Var) (t : Ty) (alternatives : List Alternative) (p : Place) :
      HasPart (.cases e v t alternatives) p e ⟨p.location, false⟩
  | alternative {pattern : Pattern} {binders : List Var} {body : Expr}
      {alternatives : List Alternative} (h : .mk pattern binders body ∈ alternatives)
      (e : Expr) (v : Var) (t : Ty) (p : Place) :
      HasPart (.cases e v t alternatives) p body ⟨p.location, false⟩
  | cast (body : Expr) (c : Coercion) (p : Place) :
      HasPart (.cast body c) p body ⟨p.location, false⟩
  | tick (location : Location) (body : Expr) (p : Place) :
      HasPart (.tick location body) p body ⟨some location, false⟩

/-- The subexpression stands at the place in an expression, which has a place itself. -/
inductive Expr.StandsIn (sub : Expr) (place : Place) : Expr → Place → Prop where
  | whole : StandsIn sub place sub place
  | inside {e part : Expr} {p q : Place} (hpart : e.HasPart p part q)
      (h : StandsIn sub place part q) : StandsIn sub place e p

/-- Only a marker gives its part a location. -/
theorem Expr.HasPart.location_cases {e part : Expr} {p q : Place} (h : e.HasPart p part q) :
    q.location = p.location ∨ ∃ l, q.location = some l ∧ e = .tick l part := by
  cases h with
  | tick location => exact .inr ⟨location, rfl, rfl⟩
  | _ => exact .inl rfl

/-- A location inside an expression is the one outside or that of a marker. -/
theorem Expr.StandsIn.location_cases {sub e : Expr} {place p : Place}
    (h : sub.StandsIn place e p) :
    place.location = p.location ∨
      ∃ l body q, place.location = some l ∧ (Expr.tick l body).StandsIn q e p := by
  induction h with
  | whole => exact .inl rfl
  | @inside e part p q hpart _ ih =>
    rcases ih with hl | ⟨l, body, q', hl, hq⟩
    · rcases hpart.location_cases with hp | ⟨l, hp, rfl⟩
      · exact .inl (hl.trans hp)
      · exact .inr ⟨l, part, p, hl.trans hp, .whole⟩
    · exact .inr ⟨l, body, q', hl, .inside hpart hq⟩

/-! ### Constructs that are not covered -/

/-- Whether the expression is a construct that is never evaluated: a literal, a local binding, a
case distinction, a cast, a coercion, or a bare type that is not an argument. -/
def Expr.isUnsupportedAt (e : Expr) (place : Place) : Bool :=
  match e with
  | .lit _ | .letIn .. | .letRec .. | .cases .. | .cast .. | .coercion _ => true
  | .type _ => !place.isArgument
  | .var _ | .app .. | .lam .. | .tick .. => false

theorem Expr.StandsIn.of_var {sub : Expr} {v : Var} {place p : Place}
    (h : sub.StandsIn place (.var v) p) : sub = .var v := by
  cases h with
  | whole => rfl
  | inside hpart _ => cases hpart

theorem Expr.StandsIn.of_type {sub : Expr} {t : Ty} {place p : Place}
    (h : sub.StandsIn place (.type t) p) : sub = .type t ∧ place = p := by
  cases h with
  | whole => exact ⟨rfl, rfl⟩
  | inside hpart _ => cases hpart

/-- A subexpression of an application is the application or stands in one of its two parts. -/
theorem Expr.StandsIn.app_cases {sub f a : Expr} {place p : Place}
    (h : sub.StandsIn place (.app f a) p) :
    sub = .app f a ∨ sub.StandsIn place f ⟨p.location, false⟩ ∨
      sub.StandsIn place a ⟨p.location, true⟩ := by
  cases h with
  | whole => exact .inl rfl
  | inside hpart h =>
    cases hpart with
    | function => exact .inr (.inl h)
    | argument => exact .inr (.inr h)

variable {F : Type} [Foreign F]

/-- What has a value is covered in all its parts: no part is left out but type arguments, and the
parts of a method call are two variables and a type argument. -/
theorem Evaluates.isUnsupportedAt_eq_false {types : TypeTable} {scope : Scope F} {s s' : EvalState}
    {e : Expr} {value : Value F} (h : Evaluates types scope s e value s') {sub : Expr}
    {place p : Place} (hsub : sub.StandsIn place e p) : sub.isUnsupportedAt place = false := by
  induction h generalizing p with
  | var =>
    rw [hsub.of_var]
    rfl
  | typeApp _ ih =>
    rcases hsub.app_cases with rfl | hf | ha
    · rfl
    · exact ih hf
    · obtain ⟨rfl, rfl⟩ := ha.of_type
      rfl
  | method _ hm =>
    obtain ⟨method, t, d, rfl, rfl⟩ := exists_of_methodValue?_eq_some hm
    rcases hsub.app_cases with rfl | hf | ha
    · rfl
    · rcases hf.app_cases with rfl | hv | ht
      · rfl
      · rw [hv.of_var]
        rfl
      · obtain ⟨rfl, rfl⟩ := ht.of_type
        rfl
    · rw [ha.of_var]
      rfl
  | app _ _ _ _ _ ihf iha =>
    rcases hsub.app_cases with rfl | hf | ha
    · rfl
    · exact ihf hf
    · exact iha ha
  | lam _ _ ih | tick _ ih =>
    cases hsub with
    | whole => rfl
    | inside hpart h =>
      cases hpart
      exact ih h

/-- The first scope leads to the second on the way into abstractions and markers, which add scalars
and locations. -/
inductive Scope.Encloses : Scope F → Scope F → Prop where
  | refl (scope : Scope F) : Encloses scope scope
  | parameter {scope inner : Scope F} {key : Key} {t : Term}
      (h : Encloses (scope.extend key (.scalar t)) inner) : Encloses scope inner
  | marker {scope inner : Scope F} {l : Location} (h : Encloses (scope.moveTo l) inner) :
      Encloses scope inner

/-- Inside the scope the first expression is a function that crashes with the value of the
second. -/
def Scope.CallCrashes (scope : Scope F) (types : TypeTable) (f a : Expr) (crash : Crash) : Prop :=
  ∃ (inner : Scope F) (s s₁ s₂ : EvalState) (op : Operation F) (arg : Value F),
    scope.Encloses inner ∧ eval types f inner s = (.ok (.function op), s₁) ∧
      eval types a inner s₁ = (.ok arg, s₂) ∧ op.call arg = .error (.crashed crash)

omit [Foreign F] in
theorem Scope.Encloses.trans {a b c : Scope F} (h : a.Encloses b) (h' : b.Encloses c) :
    a.Encloses c := by
  induction h with
  | refl => exact h'
  | parameter _ ih => exact .parameter (ih h')
  | marker _ ih => exact .marker (ih h')

theorem Scope.CallCrashes.of_encloses {scope inner : Scope F} {types : TypeTable} {f a : Expr}
    {crash : Crash} (hinner : scope.Encloses inner) (h : inner.CallCrashes types f a crash) :
    scope.CallCrashes types f a crash := by
  obtain ⟨innermost, s, s₁, s₂, op, arg, hencloses, hcall⟩ := h
  exact ⟨innermost, s, s₁, s₂, op, arg, hinner.trans hencloses, hcall⟩

/-- A crash of an evaluation is that of a call, and the application that makes it is covered in all
its parts: evaluation did not come to a construct that is not. -/
theorem Fails.exists_covered_call {types : TypeTable} {scope : Scope F} {s s' : EvalState}
    {e : Expr} {stop : Stop} (h : Fails types scope s e stop s') {crash : Crash}
    (hstop : stop = .crashed crash) (isArgument : Bool) :
    ∃ f a place, (Expr.app f a).StandsIn place e ⟨scope.location, isArgument⟩ ∧
      (∀ (sub : Expr) (inner : Place), sub.StandsIn inner (.app f a) place →
        sub.isUnsupportedAt inner = false) ∧ scope.CallCrashes types f a crash := by
  induction h generalizing isArgument with
  | raised h =>
    cases h with
    | crashed _ _ hf harg hc =>
      cases hstop
      refine ⟨_, _, _, .whole, fun sub inner hsub => ?_,
        _, _, _, _, _, _, .refl _, hf.eval_eq, harg.eval_eq, hc⟩
      -- function and argument have values, so nothing that is not covered stands in them
      rcases hsub.app_cases with rfl | hsub | hsub
      · rfl
      · exact hf.isUnsupportedAt_eq_false hsub
      · exact harg.isUnsupportedAt_eq_false hsub
    | _ => cases hstop
  | typeApp _ ih | function _ _ _ ih =>
    obtain ⟨f, a, place, hstands, hcall⟩ := ih hstop false
    exact ⟨f, a, place, .inside (.function ..) hstands, hcall⟩
  | argument _ _ _ _ ih =>
    obtain ⟨f, a, place, hstands, hcall⟩ := ih hstop true
    exact ⟨f, a, place, .inside (.argument ..) hstands, hcall⟩
  | lam _ _ ih =>
    obtain ⟨f, a, place, hstands, hcovered, hcall⟩ := ih hstop false
    exact ⟨f, a, place, .inside (.lam ..) hstands, hcovered,
      hcall.of_encloses (.parameter (.refl _))⟩
  | tick _ ih =>
    obtain ⟨f, a, place, hstands, hcovered, hcall⟩ := ih hstop false
    exact ⟨f, a, place, .inside (.tick ..) hstands, hcovered,
      hcall.of_encloses (.marker (.refl _))⟩

/-- No construct outside the covered part is accepted, wherever it stands and whatever the scope
holds. An expression with a value has no literal, local binding, case distinction, cast or coercion
in it, and no bare type that is not an argument. An expression in which one of these stands ends in
a coverage error, unless a function crashes before evaluation comes to it; the application that
crashes then is covered in all its parts. If no function of the scope crashes, it is always a
coverage error. -/
theorem unsupported_constructs_rejected (types : TypeTable) (scope : Scope F) (s : EvalState)
    (e : Expr) :
    (∀ value s', eval types e scope s = (.ok value, s') →
      ∀ (sub : Expr) (place : Place), sub.StandsIn place e ⟨scope.location, false⟩ →
        sub.isUnsupportedAt place = false) ∧
    ∀ (sub : Expr) (place : Place), sub.StandsIn place e ⟨scope.location, false⟩ →
      sub.isUnsupportedAt place = true →
      ((∃ err s', eval types e scope s = (.error (.failed err), s')) ∨
        ∃ crash s', eval types e scope s = (.error (.crashed crash), s') ∧
          ∃ f a inner, (Expr.app f a).StandsIn inner e ⟨scope.location, false⟩ ∧
            (∀ part place', Expr.StandsIn part place' (.app f a) inner →
              part.isUnsupportedAt place' = false) ∧ scope.CallCrashes types f a crash) ∧
      (scope.CrashFree → ∃ err s', eval types e scope s = (.error (.failed err), s')) := by
  refine ⟨fun value s' h sub place hsub => (Evaluates.of_eval h).isUnsupportedAt_eq_false hsub, ?_⟩
  intro sub place hsub hunsupported
  rcases hresult : eval types e scope s with ⟨stop | value, s'⟩
  · cases stop with
    | failed err => exact ⟨.inl ⟨err, s', rfl⟩, fun _ => ⟨err, s', rfl⟩⟩
    | crashed crash =>
      have hcall := (Fails.of_eval hresult).exists_covered_call rfl false
      refine ⟨.inr ⟨crash, s', rfl, hcall⟩, fun hscope => ?_⟩
      exact absurd (congrArg Prod.fst hresult) (eval_ne_crashed types e hscope s crash)
  · rw [(Evaluates.of_eval hresult).isUnsupportedAt_eq_false hsub] at hunsupported
    cases hunsupported

/-- That a parameter equals something. -/
def equalsParameter (other : Expr) : Expr :=
  let t := Ty.con "Int" []
  .lam ⟨"x", t⟩ (.app (.app (.methodAt "==" t) (.var ⟨"x", t⟩)) other)

/-- With the parameter itself there is a value, and the type in it is an argument. A literal in an
alternative of a case distinction makes it an error. -/
theorem unsupported_constructs_rejected_of_equalsParameter :
    let scope : Scope Empty := Scope.root Prelude.standard.globals
    let x : Expr := .var ⟨"x", .con "Int" []⟩
    let hidden : Expr := .cases x ⟨"y", .con "Int" []⟩ (.con "Int" [])
      [.mk .anything [] x, .mk (.constructor "A") [] (.tick ⟨"P.hs", 1, 5⟩ (.lit (.char 'a')))]
    (∃ value s',
      eval Prelude.standardTypes (equalsParameter x) scope .initial = (.ok value, s') ∧
      (Expr.type (.con "Int" [])).StandsIn ⟨none, true⟩ (equalsParameter x) ⟨none, false⟩ ∧
      (Expr.type (.con "Int" [])).isUnsupportedAt ⟨none, true⟩ = false) ∧
    (Expr.lit (.char 'a')).StandsIn ⟨some ⟨"P.hs", 1, 5⟩, false⟩ (equalsParameter hidden)
      ⟨none, false⟩ ∧
    ∃ err s', eval Prelude.standardTypes (equalsParameter hidden) scope .initial =
      (.error (.failed err), s') := by
  intro scope x hidden
  have htype : (Expr.type (.con "Int" [])).StandsIn ⟨none, true⟩ (equalsParameter x)
      ⟨none, false⟩ :=
    .inside (.lam ..) <| .inside (.function ..) <| .inside (.function ..) <|
      .inside (.function ..) <| .inside (.argument ..) .whole
  have hliteral : (Expr.lit (.char 'a')).StandsIn ⟨some ⟨"P.hs", 1, 5⟩, false⟩
      (equalsParameter hidden) ⟨none, false⟩ :=
    .inside (.lam ..) <| .inside (.argument ..) <|
      .inside (.alternative (.tail _ (.head _)) ..) <| .inside (.tick ..) .whole
  have hscope : scope.CrashFree := by
    obtain ⟨S, hS, hglobals⟩ := Prelude.crashFree_standard (F := Empty)
    exact ⟨S, hS, List.forall_mem_singleton.2 hglobals⟩
  refine ⟨⟨_, _, rfl, htype, ?_⟩, hliteral, ?_⟩
  · exact (unsupported_constructs_rejected Prelude.standardTypes scope .initial
      (equalsParameter x)).1 _ _ rfl _ _ htype
  · exact ((unsupported_constructs_rejected Prelude.standardTypes scope .initial _).2 _ _ hliteral
      rfl).2 hscope

/-- A function that crashes is applied, and the result is applied to a literal. Evaluation does not
come to the literal, and there is no coverage error. -/
theorem crash_precedes_unsupported_construct :
    let int := Ty.con "Int" []
    let scope : Scope CrashingFunction := (Scope.root Prelude.standard.globals).extend
      ⟨"boom", .signed 64⟩ (.function (.foreign ⟨"boom", "x"⟩))
    let literal := Expr.lit (.char 'a')
    let e := Expr.app (.app (.var ⟨"boom", int⟩) (.var ⟨"zero", int⟩)) literal
    literal.StandsIn ⟨none, true⟩ e ⟨none, false⟩ ∧ literal.isUnsupportedAt ⟨none, true⟩ = true ∧
    eval Prelude.standardTypes e scope .initial = (.error (.crashed ⟨some "x"⟩), .initial) ∧
    ¬∃ err s', eval Prelude.standardTypes e scope .initial = (.error (.failed err), s') := by
  intro int scope literal e
  have hcrash : eval Prelude.standardTypes e scope .initial =
      (.error (.crashed ⟨some "x"⟩), .initial) := rfl
  refine ⟨.inside (.argument ..) .whole, rfl, hcrash, ?_⟩
  rintro ⟨err, s', h⟩
  simp [hcrash] at h

/-! ### What errors are about -/

/-- The cause is about the subexpression of the whole: it names the construct that the subexpression
is, the variable, the abstraction or the application. That a value is not one of the wanted form is
said of the whole. -/
def EvalCause.Describes (cause : EvalCause) (sub whole : Expr) : Prop :=
  match cause with
  | .unsupported construct e => e = sub ∧ sub.construct? = some construct
  | .unresolvableType v | .unbound v _ => sub = .var v
  | .nonBasicParameter v e => e = sub ∧ ∃ body, sub = .lam v body
  | .notApplicable e | .misuse _ e => e = sub ∧ ∃ f a, sub = .app f a
  | .tooComplicated e | .notBoolean _ e => e = sub ∧ sub = whole

/-- The error is about the subexpression of the whole, shows it, and has the location of the
innermost marker around it, or the one outside if there is none. -/
structure EvalError.PointsAt (err : EvalError) (sub whole : Expr) (outside : Option Location) :
    Prop where
  describes : err.cause.Describes sub whole
  shows : ∃ before after, err.cause.message = before ++ sub.text ++ after
  stands : ∃ isArgument, sub.StandsIn ⟨err.location, isArgument⟩ whole ⟨outside, false⟩

theorem Expr.text_var (v : Var) : (Expr.var v).text = v.name := rfl

/-- The words for a cause show what it is about; a variable is shown by its name. -/
theorem EvalCause.Describes.exists_message_eq {cause : EvalCause} {sub whole : Expr}
    (h : cause.Describes sub whole) :
    ∃ before after, cause.message = before ++ sub.text ++ after := by
  cases cause with
  | unresolvableType v | unbound v kind =>
    obtain rfl : sub = .var v := h
    rw [Expr.text_var]
    exact ⟨_, _, String.append_assoc⟩
  | unsupported construct e | nonBasicParameter v e | notApplicable e | tooComplicated e
  | notBoolean kind e | misuse why e =>
    obtain ⟨rfl, -⟩ := h
    exact ⟨_, "", String.append_empty.symm⟩

/-- Where evaluation stops at an expression, the error is about it and has the current location. -/
theorem Raises.describes {types : TypeTable} {scope : Scope F} {s s' : EvalState} {e : Expr}
    {err : EvalError} (h : Raises types scope s e (.failed err) s') (whole : Expr) :
    err.location = scope.location ∧ err.cause.Describes e whole := by
  cases h with
  | unresolvableType | unbound => exact ⟨rfl, rfl⟩
  | notApplicable | refused => exact ⟨rfl, rfl, _, _, rfl⟩
  | nonBasicParameter => exact ⟨rfl, rfl, _, rfl⟩
  | unsupported he => exact ⟨rfl, rfl, he⟩

/-- The error of an evaluation is about a subexpression and has the location at which it stands. -/
theorem Fails.exists_describes {types : TypeTable} {scope : Scope F} {s s' : EvalState} {e : Expr}
    {stop : Stop} (h : Fails types scope s e stop s') {err : EvalError} (hstop : stop = .failed err)
    (whole : Expr) (isArgument : Bool) :
    ∃ sub isArgument', err.cause.Describes sub whole ∧
      sub.StandsIn ⟨err.location, isArgument'⟩ e ⟨scope.location, isArgument⟩ := by
  induction h generalizing isArgument with
  | @raised scope s s' e stop h =>
    subst hstop
    obtain ⟨hlocation, hdescribes⟩ := h.describes whole
    exact ⟨e, isArgument, hdescribes, hlocation ▸ .whole⟩
  | typeApp _ ih | function _ _ _ ih =>
    obtain ⟨sub, isArgument', hdescribes, hstands⟩ := ih hstop false
    exact ⟨sub, isArgument', hdescribes, .inside (.function ..) hstands⟩
  | argument _ _ _ _ ih =>
    obtain ⟨sub, isArgument', hdescribes, hstands⟩ := ih hstop true
    exact ⟨sub, isArgument', hdescribes, .inside (.argument ..) hstands⟩
  | lam _ _ ih =>
    obtain ⟨sub, isArgument', hdescribes, hstands⟩ := ih hstop false
    exact ⟨sub, isArgument', hdescribes, .inside (.lam ..) hstands⟩
  | tick _ ih =>
    obtain ⟨sub, isArgument', hdescribes, hstands⟩ := ih hstop false
    exact ⟨sub, isArgument', hdescribes, .inside (.tick ..) hstands⟩

theorem Fails.exists_pointsAt {types : TypeTable} {scope : Scope F} {s s' : EvalState} {e : Expr}
    {err : EvalError} (h : Fails types scope s e (.failed err) s') :
    ∃ sub, err.PointsAt sub e scope.location := by
  obtain ⟨sub, isArgument, hdescribes, hstands⟩ := h.exists_describes rfl e false
  exact ⟨sub, hdescribes, hdescribes.exists_message_eq, isArgument, hstands⟩

theorem EvalCause.Describes.pointsAt_whole {cause : EvalCause} {e : Expr}
    (h : cause.Describes e e) (outside : Option Location) :
    EvalError.PointsAt ⟨cause, outside⟩ e e outside :=
  ⟨h, h.exists_message_eq, false, .whole⟩

theorem exists_pointsAt_of_evalScalar {types : TypeTable} {e : Expr} {scope : Scope F}
    {s s' : EvalState} {err : EvalError}
    (h : evalScalar types e scope s = (.error (.failed err), s')) :
    ∃ sub, err.PointsAt sub e scope.location := by
  rcases (evalScalar_eq_error_iff ..).1 h with hfails | ⟨-, hstop⟩
  · exact hfails.exists_pointsAt
  · cases hstop
    have hdescribes : (EvalCause.tooComplicated e).Describes e e := ⟨rfl, rfl⟩
    exact ⟨e, hdescribes.pointsAt_whole scope.location⟩

theorem exists_pointsAt_of_evalProperty {types : TypeTable} {e : Expr} {scope : Scope F}
    {s s' : EvalState} {err : EvalError}
    (h : evalProperty types e scope s = (.error (.failed err), s')) :
    ∃ sub, err.PointsAt sub e scope.location := by
  rcases (evalProperty_eq_error_iff ..).1 h with hscalar | ⟨t, -, -, hstop⟩
  · exact exists_pointsAt_of_evalScalar hscalar
  · cases hstop
    have hdescribes : (EvalCause.notBoolean t.kind e).Describes e e := ⟨rfl, rfl⟩
    exact ⟨e, hdescribes.pointsAt_whole scope.location⟩

/-! ### Runs -/

/-- The location is that of the binding or of a marker in its body. -/
def Binding.HasLocation (b : Binding) (l : Location) : Prop :=
  l = b.location ∨ ∃ body place, (Expr.tick l body).StandsIn place b.body ⟨some b.location, false⟩

theorem Prelude.exists_hasLocation {p : Prelude F} {c : Constants} {b : Binding} {mode : Mode}
    {err : EvalError} (h : (p.obligation c b mode).1 = .error (.failed err)) :
    ∃ l, err.location = some l ∧ b.HasLocation l := by
  have hpoints : ∃ sub, err.PointsAt sub b.body (some b.location) := by
    unfold Prelude.obligation at h
    split at h
    · have hsafety := (evalSafety_eq_error_iff ..).1 (Prod.ext h rfl)
      exact exists_pointsAt_of_evalScalar hsafety
    · exact exists_pointsAt_of_evalProperty (Prod.ext h rfl)
  obtain ⟨sub, hsub⟩ := hpoints
  obtain ⟨isArgument, hstands⟩ := hsub.stands
  rcases hstands.location_cases with hl | ⟨l, body, place, hl, hmarker⟩
  · exact ⟨b.location, hl, .inl rfl⟩
  · exact ⟨l, hl, .inr ⟨body, place, hmarker⟩⟩

omit [Foreign F] in
/-- A binding that cannot stand for a constant is said to be where it is. -/
theorem Prelude.location_of_constantKind {p : Prelude F} {b : Binding} {err : EvalError}
    (h : p.constantKind b = .error err) : err.location = some b.location := by
  unfold constantKind at h
  split at h
  · cases h
  · cases h
    rfl

theorem Session.exists_hasLocation {s : Session F} {c : Constants} {b : Binding} {r : Request}
    {err : EvalError} (h : (s.examine c b r).ending = .uncovered err) :
    ∃ l, err.location = some l ∧ b.HasLocation l := by
  have hconcludes := s.concludes_ending c b r
  rw [h] at hconcludes
  cases hconcludes with
  | untyped _ _ hk => exact ⟨b.location, Prelude.location_of_constantKind hk, .inl rfl⟩
  | uncovered hyields => exact Prelude.exists_hasLocation hyields.result_eq

/-- A coverage error that aborts is the ending of the examination. -/
theorem Examination.ending_eq_of_coverage {x : Examination} {name : String} {err : EvalError}
    (h : x.abort? = some (.coverage name err)) :
    name = x.binding.name ∧ x.ending = .uncovered err := by
  unfold abort? at h
  split at h
  · cases h
  · rename_i e hending
    cases h
    exact ⟨rfl, hending⟩
  · cases h
  · cases h
  · split at h
    · cases h
    · obtain ⟨why, -, hfailed⟩ := Option.map_eq_some_iff.1 h
      cases hfailed

/-- Every coverage error points at the subexpression that caused it. If an expression has no value,
is no scalar or has no obligation, the error is about one of its subexpressions, and its location is
that of the innermost marker around that subexpression, or the current one of the scope if there is
no marker around it. So a coverage error that aborts a run, whatever backends do, has a location:
that of the binding, or that of a marker in its body. -/
theorem coverage_errors_point_at_subexpressions :
    (∀ (types : TypeTable) (e : Expr) (scope : Scope F) (s s' : EvalState) (err : EvalError),
      eval types e scope s = (.error (.failed err), s') ∨
        evalScalar types e scope s = (.error (.failed err), s') ∨
        evalProperty types e scope s = (.error (.failed err), s') →
      ∃ sub, err.PointsAt sub e scope.location) ∧
    ∀ (s : Session F) (p : Program) (run : Run), s.Course p.requests .empty run →
      ∀ name err, run.aborted? = some (.coverage name err) →
        ∃ x ∈ run, x.binding ∈ p.bindings ∧ x.binding.name = name ∧ x.ending = .uncovered err ∧
          ∃ l, err.location = some l ∧ x.binding.HasLocation l := by
  constructor
  · rintro types e scope s s' err (h | h | h)
    · exact (Fails.of_eval h).exists_pointsAt
    · exact exists_pointsAt_of_evalScalar h
    · exact exists_pointsAt_of_evalProperty h
  · intro s p run hrun name err haborted
    obtain ⟨x, hx, habort⟩ := List.exists_of_findSome?_eq_some haborted
    obtain ⟨rfl, hending⟩ := Examination.ending_eq_of_coverage habort
    obtain ⟨before, after, rfl⟩ := List.append_of_mem hx
    obtain ⟨b, r, pool, -, hrequest, rfl, -⟩ := hrun.exists_request
    have hmem : (b, r) ∈ p.requests := List.mem_of_getElem? hrequest
    obtain ⟨b', hb, hr⟩ := List.mem_flatMap.1 hmem
    obtain ⟨r', -, hpair⟩ := List.mem_map.1 hr
    cases hpair
    exact ⟨_, hx, hb, rfl, hending, Session.exists_hasLocation hending⟩

/-- A marked property, that a parameter equals a literal with a marker of its own. -/
def equalsMarkedLiteral : Binding :=
  ⟨"prop", ⟨"P.hs", 1, 1⟩, .arrow (.con "Int" []) (.con "Bool" []),
    .tick ⟨"P.hs", 2, 3⟩ (equalsParameter (.tick ⟨"P.hs", 2, 9⟩ (.lit (.char 'a')))), [.prove []]⟩

/-- The error has the location of the inner marker, in an evaluation and in a run. -/
theorem coverage_errors_point_at_subexpressions_of_equalsMarkedLiteral :
    let b := equalsMarkedLiteral
    let p : Program := ⟨none, [b]⟩
    let scope : Scope Empty := (Scope.root Prelude.standard.globals).moveTo b.location
    ∃ err s', eval Prelude.standardTypes b.body scope .initial = (.error (.failed err), s') ∧
      err.message = "P.hs:2:9: unsupported literal: 'a'" ∧
      (∃ sub, err.PointsAt sub b.body (some b.location)) ∧
      (undecidedSession.run p).aborted? = some (.coverage "prop" err) ∧
      ∃ x ∈ undecidedSession.run p, x.binding ∈ p.bindings ∧ x.binding.name = "prop" ∧
        x.ending = .uncovered err ∧ ∃ l, err.location = some l ∧ x.binding.HasLocation l := by
  intro b p scope
  have hrun := undecidedSession.course_run p
  refine ⟨_, _, rfl, by decide +kernel, ?_, rfl, ?_⟩
  · exact coverage_errors_point_at_subexpressions.1 Prelude.standardTypes b.body scope .initial _ _
      (.inl rfl)
  · exact coverage_errors_point_at_subexpressions.2 undecidedSession p _ hrun "prop" _ rfl

end CoreProver
