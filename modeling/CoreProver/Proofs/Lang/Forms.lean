import CoreProver.Lang.Json
import CoreProver.Proofs.Json.Layout
import CoreProver.Proofs.Json.Spelling

/-!
# Forms of programs

What a program and each of its parts consists of in JSON, and which fields may be left out. Main
statements: a program is written as its form says, and what is written obeys the grammar, if no
literal of the program is a double.
-/

namespace CoreProver

/-! ### Forms -/

namespace Ty

mutual

/-- The form of a type. -/
def form : Ty → Json.Form
  | .con name args =>
    .variant "con"
      (.record [⟨"name", false, .text name⟩, ⟨"args", args.isEmpty, .list (listForms args)⟩])
  | .var name => .variant "var" (.text name)
  | .arrow argument result => .variant "fun" (.list [argument.form, result.form])
  | .forAll name body =>
    .variant "for_all" (.record [⟨"var", false, .text name⟩, ⟨"body", false, body.form⟩])
  | .dict name args =>
    .variant "class"
      (.record [⟨"name", false, .text name⟩, ⟨"args", args.isEmpty, .list (listForms args)⟩])
  | .equality left right => .variant "equality" (.list [left.form, right.form])
  | .tuple items => .variant "tuple" (.list (listForms items))

def listForms : List Ty → List Json.Form
  | [] => []
  | t :: ts => t.form :: listForms ts

end

end Ty

def Location.form (l : Location) : Json.Form :=
  .record [⟨"file", false, .text l.file⟩, ⟨"line", false, .leaf (.ofInt l.line.toNat)⟩,
    ⟨"col", false, .leaf (.ofInt l.column.toNat)⟩]

def Var.form (v : Var) : Json.Form :=
  .record [⟨"name", false, .text v.name⟩, ⟨"ty", false, v.type.form⟩]

def Coercion.form (c : Coercion) : Json.Form :=
  .record [⟨"from", false, c.source.form⟩, ⟨"to", false, c.target.form⟩]

def Literal.form : Literal → Json.Form
  | .int value => .variant "int" (.leaf (.ofInt value.val))
  | .char value => .variant "char" (.text (String.ofList [value]))
  | .string value => .variant "string" (.text value)
  | .double value => .variant "double" (.leaf (.ofDouble value))

def Pattern.form : Pattern → Json.Form
  | .anything => .plain "default"
  | .literal value => .variant "lit" value.form
  | .constructor name => .variant "data_con" (.text name)

namespace Expr

mutual

def form : Expr → Json.Form
  | .var v => .variant "var" v.form
  | .lit value => .variant "lit" value.form
  | .app function argument => .variant "app" (.list [function.form, argument.form])
  | .lam binder body => .variant "lam" (.list [binder.form, body.form])
  | .letIn binder bound body =>
    .variant "let" (.record [⟨"bind", false, .variant "non_rec" (.list [binder.form, bound.form])⟩,
      ⟨"body", false, body.form⟩])
  | .letRec group body =>
    .variant "let" (.record [⟨"bind", false, .variant "rec" (.list (groupForms group))⟩,
      ⟨"body", false, body.form⟩])
  | .cases scrutinee binder ty alternatives =>
    .variant "case" (.record [⟨"scrutinee", false, scrutinee.form⟩, ⟨"binder", false, binder.form⟩,
      ⟨"ty", false, ty.form⟩, ⟨"alts", false, .list (alternativeForms alternatives)⟩])
  | .cast body c => .variant "cast" (.list [body.form, c.form])
  | .tick location body => .variant "tick" (.list [location.form, body.form])
  | .type t => .variant "type" t.form
  | .coercion c => .variant "coercion" c.form

/-- The forms of the definitions of a recursive group. -/
def groupForms : List (Var × Expr) → List Json.Form
  | [] => []
  | (binder, bound) :: group => .list [binder.form, bound.form] :: groupForms group

def alternativeForms : List Alternative → List Json.Form
  | [] => []
  | .mk pattern binders body :: alternatives =>
    .record [⟨"con", false, pattern.form⟩,
      ⟨"binders", binders.isEmpty, .list (binders.map Var.form)⟩, ⟨"rhs", false, body.form⟩] ::
      alternativeForms alternatives

end

end Expr

def ProofOption.form : ProofOption → Json.Form
  | .warnIfFails => .plain "warn_if_fails"
  | .verbose => .plain "verbose"
  | .debug => .plain "debug"
  | .safety => .plain "safety"
  | .uninterpret => .plain "uninterpret"
  | .skip reason => .variant "skip" (.text reason)
  | .solver engine => .variant "solver" (.plain engine.name)
  | .anySolver => .plain "any_solver"

def Request.form : Request → Json.Form
  | .prove options => .variant "theorem" (.list (options.map ProofOption.form))
  | .checkSafety options => .variant "safety" (.list (options.map ProofOption.form))
  | .uninterpret => .plain "uninterpret"

def Binding.form (b : Binding) : Json.Form :=
  .record [⟨"name", false, .text b.name⟩, ⟨"loc", false, b.location.form⟩,
    ⟨"ty", false, b.type.form⟩, ⟨"body", false, b.body.form⟩,
    ⟨"annotations", b.requests.isEmpty, .list (b.requests.map Request.form)⟩]

/-- The form of the name of a module. -/
def Program.moduleForm : Option String → Json.Form
  | some name => .text name
  | none => .leaf .null

def Program.form (p : Program) : Json.Form :=
  .record [⟨"module", p.moduleName.isNone, moduleForm p.moduleName⟩,
    ⟨"bindings", false, .list (p.bindings.map Binding.form)⟩]

/-! ### Programs are written as their forms -/

theorem Json.Form.listToJson_map {α : Type} (f : α → Json.Form) (xs : List α) :
    Json.Form.listToJson (xs.map f) = xs.map fun x => (f x).toJson := by
  induction xs with
  | nil => rfl
  | cons x xs ih => simp [ih]

mutual

@[simp] theorem Ty.toJson_form : ∀ t : Ty, t.form.toJson = t.toJson
  | .con name args => by simp [Ty.form, Ty.toJson, Ty.listToJson_listForms args]
  | .var name => rfl
  | .arrow argument result => by
    simp [Ty.form, Ty.toJson, argument.toJson_form, result.toJson_form]
  | .forAll name body => by simp [Ty.form, Ty.toJson, body.toJson_form]
  | .dict name args => by simp [Ty.form, Ty.toJson, Ty.listToJson_listForms args]
  | .equality left right => by
    simp [Ty.form, Ty.toJson, left.toJson_form, right.toJson_form]
  | .tuple items => by simp [Ty.form, Ty.toJson, Ty.listToJson_listForms items]

theorem Ty.listToJson_listForms : ∀ ts : List Ty,
    Json.Form.listToJson (listForms ts) = Ty.listToJson ts
  | [] => rfl
  | t :: ts => by simp [listForms, Ty.listToJson, t.toJson_form, Ty.listToJson_listForms ts]

end

@[simp] theorem Location.toJson_form (l : Location) : l.form.toJson = l.toJson := rfl

@[simp] theorem Var.toJson_form (v : Var) : v.form.toJson = v.toJson := by
  simp [Var.form, Var.toJson]

@[simp] theorem Coercion.toJson_form (c : Coercion) : c.form.toJson = c.toJson := by
  simp [Coercion.form, Coercion.toJson]

@[simp] theorem Literal.toJson_form (l : Literal) : l.form.toJson = l.toJson := by
  cases l <;> rfl

@[simp] theorem Pattern.toJson_form (p : Pattern) : p.form.toJson = p.toJson := by
  cases p <;> simp [Pattern.form, Pattern.toJson]

mutual

@[simp] theorem Expr.toJson_form : ∀ e : Expr, e.form.toJson = e.toJson
  | .var v => by simp [Expr.form, Expr.toJson]
  | .lit value => by simp [Expr.form, Expr.toJson]
  | .app function argument => by
    simp [Expr.form, Expr.toJson, function.toJson_form, argument.toJson_form]
  | .lam binder body => by simp [Expr.form, Expr.toJson, body.toJson_form]
  | .letIn binder bound body => by
    simp [Expr.form, Expr.toJson, bound.toJson_form, body.toJson_form]
  | .letRec group body => by
    simp [Expr.form, Expr.toJson, Expr.listToJson_groupForms group, body.toJson_form]
  | .cases scrutinee binder ty alternatives => by
    simp [Expr.form, Expr.toJson, scrutinee.toJson_form,
      Expr.listToJson_alternativeForms alternatives]
  | .cast body c => by simp [Expr.form, Expr.toJson, body.toJson_form]
  | .tick location body => by simp [Expr.form, Expr.toJson, body.toJson_form]
  | .type t => by simp [Expr.form, Expr.toJson]
  | .coercion c => by simp [Expr.form, Expr.toJson]

theorem Expr.listToJson_groupForms : ∀ group : List (Var × Expr),
    Json.Form.listToJson (groupForms group) = groupToJson group
  | [] => rfl
  | (binder, bound) :: group => by
    simp [groupForms, groupToJson, bound.toJson_form, Expr.listToJson_groupForms group]

theorem Expr.listToJson_alternativeForms : ∀ alternatives : List Alternative,
    Json.Form.listToJson (alternativeForms alternatives) = alternativesToJson alternatives
  | [] => rfl
  | .mk pattern binders body :: alternatives => by
    simp [alternativeForms, alternativesToJson, Json.Form.listToJson_map, body.toJson_form,
      Expr.listToJson_alternativeForms alternatives]

end

@[simp] theorem ProofOption.toJson_form (o : ProofOption) : o.form.toJson = o.toJson := by
  cases o <;> rfl

@[simp] theorem Request.toJson_form (r : Request) : r.form.toJson = r.toJson := by
  cases r <;> simp [Request.form, Request.toJson, Json.Form.listToJson_map]

@[simp] theorem Binding.toJson_form (b : Binding) : b.form.toJson = b.toJson := by
  simp [Binding.form, Binding.toJson, Json.Form.listToJson_map]

@[simp] theorem Program.toJson_form (p : Program) : p.form.toJson = p.toJson := by
  cases hname : p.moduleName <;>
    simp [Program.form, Program.toJson, moduleForm, hname, Json.Form.listToJson_map]

/-! ### Programs without doubles obey the grammar -/

/-- The literal is no double. -/
def Literal.DoubleFree : Literal → Prop
  | .double _ => False
  | _ => True

def Pattern.DoubleFree : Pattern → Prop
  | .literal value => value.DoubleFree
  | _ => True

namespace Expr

mutual

/-- No literal in the expression is a double. -/
def DoubleFree : Expr → Prop
  | .var _ => True
  | .lit value => value.DoubleFree
  | .app function argument => function.DoubleFree ∧ argument.DoubleFree
  | .lam _ body => body.DoubleFree
  | .letIn _ bound body => bound.DoubleFree ∧ body.DoubleFree
  | .letRec group body => GroupDoubleFree group ∧ body.DoubleFree
  | .cases scrutinee _ _ alternatives =>
    scrutinee.DoubleFree ∧ AlternativesDoubleFree alternatives
  | .cast body _ => body.DoubleFree
  | .tick _ body => body.DoubleFree
  | .type _ => True
  | .coercion _ => True

def GroupDoubleFree : List (Var × Expr) → Prop
  | [] => True
  | (_, bound) :: group => bound.DoubleFree ∧ GroupDoubleFree group

def AlternativesDoubleFree : List Alternative → Prop
  | [] => True
  | .mk pattern _ body :: alternatives =>
    pattern.DoubleFree ∧ body.DoubleFree ∧ AlternativesDoubleFree alternatives

end

end Expr

def Program.DoubleFree (p : Program) : Prop := ∀ b ∈ p.bindings, b.body.DoubleFree

namespace Json

@[simp] theorem grammatical_ofText (s : String) : (ofText s).Grammatical := by
  simpa [ofText] using stringBody_escape s.toList

@[simp] theorem grammatical_ofInt (n : Int) : (ofInt n).Grammatical := by
  simpa [ofInt] using numberText_decimal n

@[simp] theorem grammatical_ofMembers (members : List (String × Json)) :
    (ofMembers members).Grammatical ↔ ∀ m ∈ members, m.2.Grammatical := by
  rw [ofMembers, Grammatical]
  induction members with
  | nil => simp
  | cons m members ih => simp [stringBody_escape, ih]

@[simp] theorem grammatical_ofVariant (name : String) (data : Json) :
    (ofVariant name data).Grammatical ↔ data.Grammatical := by
  simp [ofVariant]

@[simp] theorem grammaticalElements_map {α : Type} (f : α → Json) (xs : List α) :
    GrammaticalElements (xs.map f) ↔ ∀ x ∈ xs, (f x).Grammatical := by
  induction xs with
  | nil => simp
  | cons x xs ih => simp [ih]

end Json

mutual

@[simp] theorem Ty.grammatical_toJson : ∀ t : Ty, t.toJson.Grammatical
  | .con name args => by simp [Ty.toJson, Ty.grammatical_listToJson args]
  | .var name => by simp [Ty.toJson]
  | .arrow argument result => by
    simp [Ty.toJson, argument.grammatical_toJson, result.grammatical_toJson]
  | .forAll name body => by simp [Ty.toJson, body.grammatical_toJson]
  | .dict name args => by simp [Ty.toJson, Ty.grammatical_listToJson args]
  | .equality left right => by
    simp [Ty.toJson, left.grammatical_toJson, right.grammatical_toJson]
  | .tuple items => by simp [Ty.toJson, Ty.grammatical_listToJson items]

theorem Ty.grammatical_listToJson : ∀ ts : List Ty, Json.GrammaticalElements (listToJson ts)
  | [] => by simp [listToJson]
  | t :: ts => by simp [listToJson, t.grammatical_toJson, Ty.grammatical_listToJson ts]

end

@[simp] theorem Location.grammatical_toJson (l : Location) : l.toJson.Grammatical := by
  simp [Location.toJson]

@[simp] theorem Var.grammatical_toJson (v : Var) : v.toJson.Grammatical := by simp [Var.toJson]

@[simp] theorem Coercion.grammatical_toJson (c : Coercion) : c.toJson.Grammatical := by
  simp [Coercion.toJson]

theorem Literal.grammatical_toJson {l : Literal} (h : l.DoubleFree) : l.toJson.Grammatical := by
  cases l with
  | double value => exact absurd h id
  | int value | char value | string value => simp [Literal.toJson]

theorem Pattern.grammatical_toJson {p : Pattern} (h : p.DoubleFree) : p.toJson.Grammatical := by
  cases p with
  | anything => simp [Pattern.toJson]
  | literal value => simpa [Pattern.toJson] using Literal.grammatical_toJson h
  | constructor name => simp [Pattern.toJson]

mutual

theorem Expr.grammatical_toJson : ∀ {e : Expr}, e.DoubleFree → e.toJson.Grammatical
  | .var v, _ => by simp [Expr.toJson]
  | .lit value, h => by simpa [Expr.toJson] using Literal.grammatical_toJson h
  | .app function argument, h => by
    simp [Expr.toJson, Expr.grammatical_toJson h.1, Expr.grammatical_toJson h.2]
  | .lam binder body, h => by
    have hbody := Expr.grammatical_toJson (e := body) h
    simp [Expr.toJson, hbody]
  | .letIn binder bound body, h => by
    simp [Expr.toJson, Expr.grammatical_toJson h.1, Expr.grammatical_toJson h.2]
  | .letRec group body, h => by
    simp [Expr.toJson, Expr.grammatical_groupToJson h.1, Expr.grammatical_toJson h.2]
  | .cases scrutinee binder ty alternatives, h => by
    simp [Expr.toJson, Expr.grammatical_toJson h.1, Expr.grammatical_alternativesToJson h.2]
  | .cast body c, h => by
    have hbody := Expr.grammatical_toJson (e := body) h
    simp [Expr.toJson, hbody]
  | .tick location body, h => by
    have hbody := Expr.grammatical_toJson (e := body) h
    simp [Expr.toJson, hbody]
  | .type t, _ => by simp [Expr.toJson]
  | .coercion c, _ => by simp [Expr.toJson]

theorem Expr.grammatical_groupToJson : ∀ {group : List (Var × Expr)}, GroupDoubleFree group →
    Json.GrammaticalElements (groupToJson group)
  | [], _ => by simp [groupToJson]
  | (binder, bound) :: group, h => by
    simp [groupToJson, Expr.grammatical_toJson h.1, Expr.grammatical_groupToJson h.2]

theorem Expr.grammatical_alternativesToJson : ∀ {alternatives : List Alternative},
    AlternativesDoubleFree alternatives →
    Json.GrammaticalElements (alternativesToJson alternatives)
  | [], _ => by simp [alternativesToJson]
  | .mk pattern binders body :: alternatives, h => by
    simp [alternativesToJson, Pattern.grammatical_toJson h.1, Expr.grammatical_toJson h.2.1,
      Expr.grammatical_alternativesToJson h.2.2]

end

@[simp] theorem ProofOption.grammatical_toJson (o : ProofOption) : o.toJson.Grammatical := by
  cases o <;> simp [ProofOption.toJson]

@[simp] theorem Request.grammatical_toJson (r : Request) : r.toJson.Grammatical := by
  cases r <;> simp [Request.toJson]

theorem Binding.grammatical_toJson {b : Binding} (h : b.body.DoubleFree) :
    b.toJson.Grammatical := by
  simp [Binding.toJson, Expr.grammatical_toJson h]

/-- Without doubles, the text of a program is a text of the grammar for its form. -/
theorem Program.written_write {p : Program} (h : p.DoubleFree) :
    Json.WrittenSpaced p.toJson p.write.toList := by
  have hbindings : ∀ b ∈ p.bindings, b.toJson.Grammatical :=
    fun b hb => Binding.grammatical_toJson (h b hb)
  have hprogram : p.toJson.Grammatical := by
    cases hname : p.moduleName with
    | none => simpa [Program.toJson, hname] using hbindings
    | some name => simpa [Program.toJson, hname] using hbindings
  exact Json.writtenSpaced_pretty hprogram

end CoreProver
