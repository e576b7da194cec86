import CoreProver.Proofs.Lang.Forms

/-!
# Reading programs

Every reader of the language gives one result for all spellings of a form, so a program is read from
each spelling of its form. Main statements: a program without doubles is read back from its text,
exactly up to the nesting limit, and from all texts of all its spellings within the limit; a text in
which a known field is repeated is refused.
-/

namespace CoreProver

open Json (Form Reads within)

theorem Json.Reads.string (s : String) : Reads (fun _ => text?) (.text s) s := .text fun _ h => h

/-! ### Types -/

namespace Ty

theorem reads_list {ts : List Ty} (h : List.Forall₂ (Reads Ty.ofJson?) (listForms ts) ts) :
    Reads Ty.list? (.list (listForms ts)) ts :=
  .list h (fun _ => by simp [list?]) fun _ _ => by simp [list?, Json.array?]

theorem reads_headed (name : String) {args : List Ty}
    (h : List.Forall₂ (Reads Ty.ofJson?) (listForms args) args) :
    Reads headed? (.record [⟨"name", false, .text name⟩,
      ⟨"args", args.isEmpty, .list (listForms args)⟩]) (name, args) := by
  refine .record ["name", "args"] rfl (by decide) (fun _ => by simp [headed?]) ?_ ?_
  · intro room value hnone
    simp [headed?, hnone]
  · intro n values hs room value hfields
    obtain ⟨_, _, _, _, rfl, rfl, hname, hs⟩ := hs.exists_required
    have hname := (Reads.string name).read_eq hname room
    obtain ⟨_, _, _, _, rfl, rfl, hargs, hs⟩ | ⟨hempty, _, rfl, hend⟩ := hs.exists_optional
    · obtain ⟨rfl, rfl⟩ := hs.eq_nil
      have hargs := (reads_list h).read_eq hargs room
      simp [headed?, hfields, hname, hargs]
    · obtain ⟨rfl, rfl⟩ := hend.eq_nil
      obtain rfl : args = [] := by simpa using hempty
      simp [headed?, hfields, hname]

theorem reads_two {a b : Ty} (ha : Reads Ty.ofJson? a.form a) (hb : Reads Ty.ofJson? b.form b) :
    Reads two? (.list [a.form, b.form]) (a, b) :=
  .pair ha hb Prod.mk (fun _ => by simp [two?]) fun _ _ _ => by simp [two?, Json.pair?]

theorem reads_quantified (name : String) {body : Ty} (h : Reads Ty.ofJson? body.form body) :
    Reads quantified? (.record [⟨"var", false, .text name⟩, ⟨"body", false, body.form⟩])
      (name, body) := by
  refine .record ["var", "body"] rfl (by decide) (fun _ => by simp [quantified?]) ?_ ?_
  · intro room value hnone
    simp [quantified?, hnone]
  · intro n values hs room value hfields
    obtain ⟨_, _, _, _, rfl, rfl, hname, hs⟩ := hs.exists_required
    obtain ⟨_, _, _, _, rfl, rfl, hbody, hs⟩ := hs.exists_required
    obtain ⟨rfl, rfl⟩ := hs.eq_nil
    simp [quantified?, hfields, (Reads.string name).read_eq hname room, h.read_eq hbody room]

/-- The data of a variant is read by the reader for its name, which is found by evaluation. -/
theorem reads_variant {inner : Nat → Json → Option Ty} {name : String} {data : Form} {t : Ty}
    (h : Reads inner data t)
    (hinner : ∀ room key value, Json.literalText? key = some name →
      Ty.ofJson? (room + 1) (.object [(key, value)]) = inner room value := by
        intro _ _ _ hkey
        simp [Ty.ofJson?, Json.variant?, hkey]) :
    Reads Ty.ofJson? (.variant name data) t :=
  .variant h (fun _ => by simp [Ty.ofJson?]) hinner

mutual

theorem reads : ∀ t : Ty, Reads Ty.ofJson? t.form t
  | .con name args =>
    reads_variant ((reads_headed name (readsEach args)).map fun p => Ty.con p.1 p.2)
  | .var name => reads_variant ((Reads.string name).map Ty.var)
  | .arrow argument result =>
    reads_variant ((reads_two argument.reads result.reads).map fun p => Ty.arrow p.1 p.2)
  | .forAll name body =>
    reads_variant ((reads_quantified name body.reads).map fun p => Ty.forAll p.1 p.2)
  | .dict name args =>
    reads_variant ((reads_headed name (readsEach args)).map fun p => Ty.dict p.1 p.2)
  | .equality left right =>
    reads_variant ((reads_two left.reads right.reads).map fun p => Ty.equality p.1 p.2)
  | .tuple items => reads_variant ((reads_list (readsEach items)).map Ty.tuple)

theorem readsEach : ∀ ts : List Ty, List.Forall₂ (Reads Ty.ofJson?) (listForms ts) ts
  | [] => .nil
  | t :: ts => .cons t.reads (readsEach ts)

end

end Ty

/-! ### Parts of expressions -/

namespace Location

theorem reads_word (n : UInt32) : Reads (fun _ => word?) (.leaf (.ofInt n.toNat)) n := by
  refine .leaf rfl ?_
  have hlt : n.toNat < Nat.pow 2 32 := n.toNat_lt
  simp [word?, hlt]

theorem reads (l : Location) : Reads Location.ofJson? l.form l := by
  refine .record ["file", "line", "col"] rfl (by decide) (fun _ => by simp [ofJson?]) ?_ ?_
  · intro room value hnone
    simp [ofJson?, hnone]
  · intro n values hs room value hfields
    obtain ⟨_, _, _, _, rfl, rfl, hfile, hs⟩ := hs.exists_required
    obtain ⟨_, _, _, _, rfl, rfl, hline, hs⟩ := hs.exists_required
    obtain ⟨_, _, _, _, rfl, rfl, hcolumn, hs⟩ := hs.exists_required
    obtain ⟨rfl, rfl⟩ := hs.eq_nil
    simp [ofJson?, hfields, (Reads.string l.file).read_eq hfile room,
      (reads_word l.line).read_eq hline room, (reads_word l.column).read_eq hcolumn room]

end Location

namespace Var

theorem reads (v : Var) : Reads Var.ofJson? v.form v := by
  refine .record ["name", "ty"] rfl (by decide) (fun _ => by simp [ofJson?]) ?_ ?_
  · intro room value hnone
    simp [ofJson?, hnone]
  · intro n values hs room value hfields
    obtain ⟨_, _, _, _, rfl, rfl, hname, hs⟩ := hs.exists_required
    obtain ⟨_, _, _, _, rfl, rfl, htype, hs⟩ := hs.exists_required
    obtain ⟨rfl, rfl⟩ := hs.eq_nil
    simp [ofJson?, hfields, (Reads.string v.name).read_eq hname room,
      v.type.reads.read_eq htype room]

theorem reads_list (vs : List Var) : Reads Var.list? (.list (vs.map Var.form)) vs :=
  .list (List.forall₂_map_left_iff.2 (List.forall₂_same.2 fun v _ => v.reads))
    (fun _ => by simp [list?]) fun _ _ => by simp [list?, Json.array?]

end Var

theorem Coercion.reads (c : Coercion) : Reads Coercion.ofJson? c.form c := by
  refine .record ["from", "to"] rfl (by decide) (fun _ => by simp [ofJson?]) ?_ ?_
  · intro room value hnone
    simp [ofJson?, hnone]
  · intro n values hs room value hfields
    obtain ⟨_, _, _, _, rfl, rfl, hsource, hs⟩ := hs.exists_required
    obtain ⟨_, _, _, _, rfl, rfl, htarget, hs⟩ := hs.exists_required
    obtain ⟨rfl, rfl⟩ := hs.eq_nil
    simp [ofJson?, hfields, c.source.reads.read_eq hsource room,
      c.target.reads.read_eq htarget room]

namespace Literal

theorem reads_variant {inner : Nat → Json → Option Literal} {name : String} {data : Form}
    {l : Literal} (h : Reads inner data l)
    (hinner : ∀ room key value, Json.literalText? key = some name →
      Literal.ofJson? (room + 1) (.object [(key, value)]) = inner room value := by
        intro _ _ _ hkey
        simp [Literal.ofJson?, Json.variant?, hkey]) :
    Reads Literal.ofJson? (.variant name data) l :=
  .variant h (fun _ => by simp [ofJson?]) hinner

theorem reads {l : Literal} (h : l.DoubleFree) : Reads Literal.ofJson? l.form l := by
  cases l with
  | int value =>
    have hvalue : Int128.ofInt? value.val = some value := dif_pos value.property
    have hdata : Reads (fun _ data => (data.int?.bind Int128.ofInt?).map Literal.int)
        (.leaf (.ofInt value.val)) (.int value) := .leaf rfl (by simp [hvalue])
    exact reads_variant hdata
  | char value =>
    have hdata : Reads (fun _ data => (data.text?.bind single?).map Literal.char)
        (.text (String.ofList [value])) (.char value) :=
      .text fun data hdata => by simp [hdata, single?]
    exact reads_variant hdata
  | string value =>
    exact reads_variant ((Reads.string value).map Literal.string)
  | double value => exact absurd h id

end Literal

namespace Pattern

theorem ofJson?_variant {room : Nat} {key name : String} {value : Json}
    (hkey : Json.literalText? key = some name) (hname : name ≠ "default") :
    ofJson? (room + 1) (.object [(key, value)]) =
      ofVariant? (room + 1) (.object [(key, value)]) := by
  have hplain : (Json.object [(key, value)]).plainVariant? (room + 1) ≠ some "default" := by
    simp [Json.plainVariant?, Json.variant?, hkey, hname]
  rw [ofJson?, if_neg hplain]

theorem reads {p : Pattern} (h : p.DoubleFree) : Reads Pattern.ofJson? p.form p := by
  have hzero (members : List (String × Json)) : ofJson? 0 (.object members) = none := by
    simp [ofJson?, Json.plainVariant?, ofVariant?]
  cases p with
  | anything => exact .plain hzero fun room value hplain => by simp [ofJson?, hplain]
  | literal value =>
    refine .variant ((Literal.reads h).map Pattern.literal) hzero ?_
    intro room key value hkey
    simp [ofJson?_variant hkey, ofVariant?, Json.variant?, hkey]
  | constructor name =>
    refine .variant ((Reads.string name).map Pattern.constructor) hzero ?_
    intro room key value hkey
    simp [ofJson?_variant hkey, ofVariant?, Json.variant?, hkey]

end Pattern

/-! ### Expressions -/

namespace Expr

theorem reads_two {a b : Expr} (ha : Reads Expr.ofJson? a.form a)
    (hb : Reads Expr.ofJson? b.form b) : Reads two? (.list [a.form, b.form]) (a, b) :=
  .pair ha hb Prod.mk (fun _ => by simp [two?]) fun _ _ _ => by simp [two?, Json.pair?]

theorem reads_definition (binder : Var) {bound : Expr} (h : Reads Expr.ofJson? bound.form bound) :
    Reads definition? (.list [binder.form, bound.form]) (binder, bound) :=
  .pair binder.reads h Prod.mk (fun _ => by simp [definition?]) fun _ _ _ => by
    simp [definition?, Json.pair?]

theorem reads_bound_one (binder : Var) {bound : Expr} (h : Reads Expr.ofJson? bound.form bound) :
    Reads bound? (.variant "non_rec" (.list [binder.form, bound.form])) (.one binder bound) := by
  refine .variant ((reads_definition binder h).map fun p => Bound.one p.1 p.2)
    (fun _ => by simp [bound?]) ?_
  intro room key value hkey
  simp [bound?, Json.variant?, hkey]

theorem reads_bound_group {group : List (Var × Expr)}
    (h : List.Forall₂ (Reads definition?) (groupForms group) group) :
    Reads bound? (.variant "rec" (.list (groupForms group))) (.group group) := by
  have hgroup : Reads definitions? (.list (groupForms group)) group :=
    .list h (fun _ => by simp [definitions?]) fun _ _ => by simp [definitions?, Json.array?]
  refine .variant (hgroup.map Bound.group) (fun _ => by simp [bound?]) ?_
  intro room key value hkey
  simp [bound?, Json.variant?, hkey]

theorem reads_let {form : Form} {bound : Bound} {body : Expr} (hbound : Reads bound? form bound)
    (hbody : Reads Expr.ofJson? body.form body) :
    Reads letExpr? (.record [⟨"bind", false, form⟩, ⟨"body", false, body.form⟩])
      (bound.within body) := by
  refine .record ["bind", "body"] rfl (by decide) (fun _ => by simp [letExpr?]) ?_ ?_
  · intro room value hnone
    simp [letExpr?, hnone]
  · intro n values hs room value hfields
    obtain ⟨_, _, _, _, rfl, rfl, hb, hs⟩ := hs.exists_required
    obtain ⟨_, _, _, _, rfl, rfl, he, hs⟩ := hs.exists_required
    obtain ⟨rfl, rfl⟩ := hs.eq_nil
    simp [letExpr?, hfields, hbound.read_eq hb room, hbody.read_eq he room]

theorem reads_alternative {pattern : Pattern} (binders : List Var) {body : Expr}
    (hpattern : pattern.DoubleFree) (hbody : Reads Expr.ofJson? body.form body) :
    Reads alternative? (.record [⟨"con", false, pattern.form⟩,
      ⟨"binders", binders.isEmpty, .list (binders.map Var.form)⟩, ⟨"rhs", false, body.form⟩])
      (.mk pattern binders body) := by
  refine .record ["con", "binders", "rhs"] rfl (by decide) (fun _ => by simp [alternative?]) ?_ ?_
  · intro room value hnone
    simp [alternative?, hnone]
  · intro n values hs room value hfields
    obtain ⟨_, _, _, _, rfl, rfl, hp, hs⟩ := hs.exists_required
    have hp := (Pattern.reads hpattern).read_eq hp room
    obtain ⟨_, _, _, _, rfl, rfl, hb, hs⟩ | ⟨hempty, _, rfl, hrest⟩ := hs.exists_optional
    · obtain ⟨_, _, _, _, rfl, rfl, he, hs⟩ := hs.exists_required
      obtain ⟨rfl, rfl⟩ := hs.eq_nil
      have hb := (Var.reads_list binders).read_eq hb room
      simp [alternative?, hfields, hp, hb, hbody.read_eq he room]
    · obtain ⟨_, _, _, _, rfl, rfl, he, hs⟩ := hrest.exists_required
      obtain ⟨rfl, rfl⟩ := hs.eq_nil
      obtain rfl : binders = [] := by simpa using hempty
      simp [alternative?, hfields, hp, hbody.read_eq he room]

theorem reads_cases {scrutinee : Expr} (binder : Var) (ty : Ty) {alternatives : List Alternative}
    (hscrutinee : Reads Expr.ofJson? scrutinee.form scrutinee)
    (h : List.Forall₂ (Reads alternative?) (alternativeForms alternatives) alternatives) :
    Reads caseExpr? (.record [⟨"scrutinee", false, scrutinee.form⟩, ⟨"binder", false, binder.form⟩,
      ⟨"ty", false, ty.form⟩, ⟨"alts", false, .list (alternativeForms alternatives)⟩])
      (.cases scrutinee binder ty alternatives) := by
  have halternatives : Reads alternatives? (.list (alternativeForms alternatives)) alternatives :=
    .list h (fun _ => by simp [alternatives?]) fun _ _ => by simp [alternatives?, Json.array?]
  refine .record ["scrutinee", "binder", "ty", "alts"] rfl (by decide)
    (fun _ => by simp [caseExpr?]) ?_ ?_
  · intro room value hnone
    simp [caseExpr?, hnone]
  · intro n values hs room value hfields
    obtain ⟨_, _, _, _, rfl, rfl, he, hs⟩ := hs.exists_required
    obtain ⟨_, _, _, _, rfl, rfl, hb, hs⟩ := hs.exists_required
    obtain ⟨_, _, _, _, rfl, rfl, ht, hs⟩ := hs.exists_required
    obtain ⟨_, _, _, _, rfl, rfl, ha, hs⟩ := hs.exists_required
    obtain ⟨rfl, rfl⟩ := hs.eq_nil
    simp [caseExpr?, hfields, hscrutinee.read_eq he room, binder.reads.read_eq hb room,
      ty.reads.read_eq ht room, halternatives.read_eq ha room]

theorem reads_variant {inner : Nat → Json → Option Expr} {name : String} {data : Form} {e : Expr}
    (h : Reads inner data e)
    (hinner : ∀ room key value, Json.literalText? key = some name →
      Expr.ofJson? (room + 1) (.object [(key, value)]) = inner room value := by
        intro _ _ _ hkey
        simp [Expr.ofJson?, Json.variant?, hkey]) :
    Reads Expr.ofJson? (.variant name data) e :=
  .variant h (fun _ => by simp [ofJson?]) hinner

mutual

theorem reads : ∀ {e : Expr}, e.DoubleFree → Reads Expr.ofJson? e.form e
  | .var v, _ => reads_variant (v.reads.map Expr.var)
  | .lit value, h => reads_variant ((Literal.reads h).map Expr.lit)
  | .app function argument, h =>
    reads_variant ((reads_two (reads h.1) (reads h.2)).map fun p => Expr.app p.1 p.2)
  | .lam binder body, h => by
    have hbody : Reads Expr.ofJson? body.form body := reads h
    exact reads_variant ((reads_definition binder hbody).map fun p => Expr.lam p.1 p.2)
  | .letIn binder bound body, h =>
    reads_variant (reads_let (reads_bound_one binder (reads h.1)) (reads h.2))
  | .letRec group body, h =>
    reads_variant (reads_let (reads_bound_group (readsGroup h.1)) (reads h.2))
  | .cases scrutinee binder ty alternatives, h =>
    reads_variant (reads_cases binder ty (reads h.1) (readsAlternatives h.2))
  | .cast body c, h => by
    have hbody : Reads Expr.ofJson? body.form body := reads h
    have hcast : Reads castExpr? (.list [body.form, c.form]) (.cast body c) :=
      .pair hbody c.reads Expr.cast (fun _ => by simp [castExpr?]) fun _ _ _ => by
        simp [castExpr?, Json.pair?]
    exact reads_variant hcast
  | .tick location body, h => by
    have hbody : Reads Expr.ofJson? body.form body := reads h
    have htick : Reads tickExpr? (.list [location.form, body.form]) (.tick location body) :=
      .pair location.reads hbody Expr.tick (fun _ => by simp [tickExpr?]) fun _ _ _ => by
        simp [tickExpr?, Json.pair?]
    exact reads_variant htick
  | .type t, _ => reads_variant (t.reads.map Expr.type)
  | .coercion c, _ => reads_variant (c.reads.map Expr.coercion)

theorem readsGroup : ∀ {group : List (Var × Expr)}, GroupDoubleFree group →
    List.Forall₂ (Reads definition?) (groupForms group) group
  | [], _ => .nil
  | (binder, _) :: _, h => .cons (reads_definition binder (reads h.1)) (readsGroup h.2)

theorem readsAlternatives : ∀ {alternatives : List Alternative},
    AlternativesDoubleFree alternatives →
    List.Forall₂ (Reads alternative?) (alternativeForms alternatives) alternatives
  | [], _ => .nil
  | .mk _ binders _ :: _, h =>
    .cons (reads_alternative binders h.1 (reads h.2.1)) (readsAlternatives h.2.2)

end

end Expr

/-! ### Requests -/

theorem Engine.reads (e : Engine) : Reads Engine.ofJson? (.plain e.name) e := by
  have hnamed : named? e.name = some e := by cases e <;> decide
  refine .plain (fun _ => by simp [ofJson?, Json.plainVariant?]) fun room value hplain => ?_
  simp [ofJson?, hplain, hnamed]

namespace ProofOption

theorem ofJson?_variant {room : Nat} {key name : String} {value : Json}
    (hkey : Json.literalText? key = some name) (hname : plain? name = none) :
    ofJson? (room + 1) (.object [(key, value)]) =
      ofVariant? (room + 1) (.object [(key, value)]) := by
  have hplain : ((Json.object [(key, value)]).plainVariant? (room + 1)).bind plain? = none := by
    cases hnull : value.isNull <;> simp [Json.plainVariant?, Json.variant?, hkey, hnull, hname]
  simp [ofJson?, hplain]

theorem reads (o : ProofOption) : Reads ProofOption.ofJson? o.form o := by
  have hzero (members : List (String × Json)) : ofJson? 0 (.object members) = none := by
    simp [ofJson?, Json.plainVariant?, ofVariant?]
  have hplain {name : String} {o : ProofOption} (hname : plain? name = some o) :
      Reads ProofOption.ofJson? (.plain name) o :=
    .plain hzero fun room value hplain => by simp [ofJson?, hplain, hname]
  cases o with
  | warnIfFails | verbose | debug | safety | uninterpret | anySolver => exact hplain rfl
  | skip reason =>
    refine .variant ((Reads.string reason).map ProofOption.skip) hzero ?_
    intro room key value hkey
    simp [ofJson?_variant hkey, plain?, ofVariant?, Json.variant?, hkey]
  | solver engine =>
    refine .variant (engine.reads.map ProofOption.solver) hzero ?_
    intro room key value hkey
    simp [ofJson?_variant hkey, plain?, ofVariant?, Json.variant?, hkey]

theorem reads_list (options : ProofOptions) :
    Reads ProofOption.list? (.list (options.map ProofOption.form)) options :=
  .list (List.forall₂_map_left_iff.2 (List.forall₂_same.2 fun o _ => o.reads))
    (fun _ => by simp [list?]) fun _ _ => by simp [list?, Json.array?]

end ProofOption

namespace Request

theorem ofJson?_variant {room : Nat} {key name : String} {value : Json}
    (hkey : Json.literalText? key = some name) (hname : name ≠ "uninterpret") :
    ofJson? (room + 1) (.object [(key, value)]) =
      ofVariant? (room + 1) (.object [(key, value)]) := by
  have hplain : (Json.object [(key, value)]).plainVariant? (room + 1) ≠ some "uninterpret" := by
    simp [Json.plainVariant?, Json.variant?, hkey, hname]
  rw [ofJson?, if_neg hplain]

theorem reads (r : Request) : Reads Request.ofJson? r.form r := by
  have hzero (members : List (String × Json)) : ofJson? 0 (.object members) = none := by
    simp [ofJson?, Json.plainVariant?, ofVariant?]
  cases r with
  | prove options =>
    refine .variant ((ProofOption.reads_list options).map Request.prove) hzero ?_
    intro room key value hkey
    simp [ofJson?_variant hkey, ofVariant?, Json.variant?, hkey]
  | checkSafety options =>
    refine .variant ((ProofOption.reads_list options).map Request.checkSafety) hzero ?_
    intro room key value hkey
    simp [ofJson?_variant hkey, ofVariant?, Json.variant?, hkey]
  | uninterpret => exact .plain hzero fun room value hplain => by simp [ofJson?, hplain]

theorem reads_list (requests : List Request) :
    Reads Request.list? (.list (requests.map Request.form)) requests :=
  .list (List.forall₂_map_left_iff.2 (List.forall₂_same.2 fun r _ => r.reads))
    (fun _ => by simp [list?]) fun _ _ => by simp [list?, Json.array?]

end Request

/-! ### Bindings and programs -/

namespace Binding

theorem reads {b : Binding} (h : b.body.DoubleFree) : Reads Binding.ofJson? b.form b := by
  refine .record ["name", "loc", "ty", "body", "annotations"] rfl (by decide)
    (fun _ => by simp [ofJson?]) ?_ ?_
  · intro room value hnone
    simp [ofJson?, hnone]
  · intro n values hs room value hfields
    obtain ⟨_, _, _, _, rfl, rfl, hname, hs⟩ := hs.exists_required
    obtain ⟨_, _, _, _, rfl, rfl, hlocation, hs⟩ := hs.exists_required
    obtain ⟨_, _, _, _, rfl, rfl, htype, hs⟩ := hs.exists_required
    obtain ⟨_, _, _, _, rfl, rfl, hbody, hs⟩ := hs.exists_required
    have hname := (Reads.string b.name).read_eq hname room
    have hlocation := b.location.reads.read_eq hlocation room
    have htype := b.type.reads.read_eq htype room
    have hbody := (Expr.reads h).read_eq hbody room
    obtain ⟨_, _, _, _, rfl, rfl, hrequests, hend⟩ | ⟨hempty, _, rfl, hend⟩ := hs.exists_optional
    · obtain ⟨rfl, rfl⟩ := hend.eq_nil
      have hrequests := (Request.reads_list b.requests).read_eq hrequests room
      -- The requests are read first, although they stand last.
      simp [ofJson?, hfields, hname, hlocation, htype, hbody, hrequests, max_comm, max_left_comm]
    · obtain ⟨rfl, rfl⟩ := hend.eq_nil
      have hnone : b.requests = [] := by simpa using hempty
      simp [ofJson?, hfields, hname, hlocation, htype, hbody, ← hnone]

end Binding

namespace Program

theorem reads_moduleName {name : Option String} {n : ℕ∞} {value : Json} (room : Nat)
    (h : (moduleForm name).Spells n value) : moduleName? (some value) = within room n name := by
  cases name with
  | none =>
    cases h
    simp [moduleName?, Json.depth]
  | some name =>
    cases h with
    | text hliteral => simp [moduleName?, Json.text?, hliteral]

theorem reads {p : Program} (h : p.DoubleFree) : Reads Program.ofJson? p.form p := by
  have hlist : Reads Binding.list? (.list (p.bindings.map Binding.form)) p.bindings :=
    .list (List.forall₂_map_left_iff.2 (List.forall₂_same.2 fun b hb => Binding.reads (h b hb)))
      (fun _ => by simp [Binding.list?]) fun _ _ => by simp [Binding.list?, Json.array?]
  refine .record ["module", "bindings"] rfl (by decide) (fun _ => by simp [ofJson?]) ?_ ?_
  · intro room value hnone
    simp [ofJson?, hnone]
  · intro n values hs room value hfields
    obtain ⟨_, _, _, _, rfl, rfl, hname, hs⟩ | ⟨hnone, _, rfl, hrest⟩ := hs.exists_optional
    · obtain ⟨_, _, _, _, rfl, rfl, hbindings, hs⟩ := hs.exists_required
      obtain ⟨rfl, rfl⟩ := hs.eq_nil
      simp [ofJson?, hfields, reads_moduleName room hname, hlist.read_eq hbindings room]
    · obtain ⟨_, _, _, _, rfl, rfl, hbindings, hs⟩ := hrest.exists_required
      obtain ⟨rfl, rfl⟩ := hs.eq_nil
      have hname : p.moduleName = none := by simpa using hnone
      simp [ofJson?, hfields, moduleName?, hlist.read_eq hbindings room, ← hname]

/-- A program is read from each text of each spelling that leaves enough room. -/
theorem read_eq_of_spells {p : Program} (h : p.DoubleFree) {n : ℕ∞} {value : Json}
    (hs : p.form.Spells n value) {text : String} (htext : Json.WrittenSpaced value text.toList) :
    read text = if n ≤ Json.nestingLimit then .ok p else .error .malformedProgram := by
  have hvalue : Json.parse? text = some value := htext.parseChars?_eq
  have hread := (reads h).read_eq hs Json.nestingLimit
  by_cases hn : n ≤ Json.nestingLimit <;> simp [read, hvalue, hread, within, hn]

theorem spells_toJson (p : Program) : p.form.Spells p.toJson.depth p.toJson := by
  simpa using p.form.spells_toJson

/-- A program without doubles is read back from its text if the text nests at most 127 deep. A text
that nests deeper is refused. -/
theorem read_write_up_to_limit (p : Program) (h : p.DoubleFree) :
    (Json.nesting p.write.toList ≤ 127 → read p.write = .ok p) ∧
      (127 < Json.nesting p.write.toList → read p.write = .error .malformedProgram) := by
  have hread := read_eq_of_spells h p.spells_toJson (written_write h)
  rw [← (written_write h).nesting_eq] at hread
  constructor
  · intro hnesting
    have hlimit : Json.nesting p.write.toList ≤ Json.nestingLimit := hnesting
    rw [hread, if_pos (Nat.cast_le.2 hlimit)]
  · intro hnesting
    have hlimit : ¬ Json.nesting p.write.toList ≤ Json.nestingLimit := Nat.not_le.2 hnesting
    rw [hread, if_neg (mt Nat.cast_le.1 hlimit)]

/-- A program of one binding, in a module whose name needs escapes. -/
def ofBody (body : Expr) : Program :=
  ⟨some "[\"\\\n\x01\x7b", [⟨"f", ⟨"F", 1, 2⟩, .var "a", body, []⟩]⟩

/-- Abstractions one inside the other. -/
def abstractions (body : Expr) : Nat → Expr
  | 0 => body
  | n + 1 => .lam ⟨"x", .var "a"⟩ (abstractions body n)

theorem doubleFree_abstractions {body : Expr} (h : body.DoubleFree) (n : Nat) :
    (abstractions body n).DoubleFree := by
  induction n with
  | zero => exact h
  | succ n ih => exact ih

theorem doubleFree_ofBody {body : Expr} (h : body.DoubleFree) : (ofBody body).DoubleFree := by
  simpa [DoubleFree, ofBody] using h

/-- With a type in the middle the text nests exactly 127 deep, and with a variable one more. -/
theorem read_write_up_to_limit_of_abstractions :
    read (ofBody (abstractions (.type (.var "a")) 61)).write =
        .ok (ofBody (abstractions (.type (.var "a")) 61)) ∧
      read (ofBody (abstractions (.var ⟨"x", .var "a"⟩) 61)).write = .error .malformedProgram := by
  have htype : (Expr.type (.var "a")).DoubleFree := trivial
  have hvar : (Expr.var ⟨"x", .var "a"⟩).DoubleFree := trivial
  have htypes := doubleFree_ofBody (doubleFree_abstractions htype 61)
  have hvars := doubleFree_ofBody (doubleFree_abstractions hvar 61)
  constructor
  · refine (read_write_up_to_limit _ htypes).1 ?_
    rw [(written_write htypes).nesting_eq]
    decide +kernel
  · refine (read_write_up_to_limit _ hvars).2 ?_
    rw [(written_write hvars).nesting_eq]
    decide +kernel

/-- A program without doubles is read from each text of each of its spellings that nests at most 127
deep, whatever the order of fields, with unknown ones, with records as arrays, without the fields
that may be left out, and with `null` for the data of variants without data. A text in which a known
field is repeated anywhere is refused. -/
theorem read_every_spelling (p : Program) (h : p.DoubleFree) :
    p.form.Spelled p.toJson ∧
      ∀ (value : Json) (text : String), Json.WrittenSpaced value text.toList →
        (p.form.Spelled value → Json.nesting text.toList ≤ 127 → read text = .ok p) ∧
          (p.form.Repeated value → read text = .error .malformedProgram) := by
  refine ⟨⟨_, p.spells_toJson⟩, fun value text htext => ⟨?_, ?_⟩⟩
  · rintro ⟨n, hs⟩ hnesting
    have hdepth : n ≤ value.depth := Nat.cast_le.1 (hs.le_depth (ENat.natCast_ne_top n))
    have hle : n ≤ Json.nestingLimit := hdepth.trans (htext.nesting_eq ▸ hnesting)
    rw [read_eq_of_spells h hs htext, if_pos (Nat.cast_le.2 hle)]
  · intro hs
    rw [read_eq_of_spells h hs htext, if_neg (by simp)]

/-- An unknown constant of the type of integers. -/
def unknownInt : Program :=
  ⟨none, [⟨"n", ⟨"N", 1, 2⟩, .con "Int" [], .type (.con "Int" []), [.uninterpret]⟩]⟩

/-- The parts of the binding, the location as it is given. The type of the binding is an array
without the arguments, that of the body an object without them, and the request has `null` for its
data. -/
def unknownIntParts (location : List (String × Json)) : List Json :=
  [.ofText "n", .ofMembers location, .ofVariant "con" (.array [.ofText "Int"]),
    .ofVariant "type" (.ofVariant "con" (.ofMembers [("name", .ofText "Int")])),
    .array [.ofVariant "uninterpret" .null]]

/-- The program with an unknown field, without the name of the module, the binding as an array. -/
def unknownIntSpelled (location : List (String × Json)) : Json :=
  .ofMembers [("more", .array [.array []]),
    ("bindings", .array [.array (unknownIntParts location)])]

theorem spells_unknownInt {location : List (String × Json)} {n : ℕ∞}
    (h : (Location.form ⟨"N", 1, 2⟩).Spells n (.ofMembers location)) :
    unknownInt.form.Spells (max n 3 + 1 + 1 + 1) (unknownIntSpelled location) := by
  have hname : Form.SpellsFields [⟨"name", false, .text "Int"⟩, ⟨"args", true, .list []⟩]
      (max 0 0) [some (.ofText "Int"), none] :=
    .stands (.text (Json.literalText?_escape "Int")) (.leftOut rfl .nil)
  have htype : (Ty.con "Int" []).form.Spells (max 0 0 + 1 + 1)
      (.ofVariant "con" (.array [.ofText "Int"])) :=
    (Form.Spells.record hname (.inOrder 1 rfl)).ofVariant "con"
  have hbody : (Expr.type (.con "Int" [])).form.Spells (max 0 0 + 1 + 1 + 1)
      (.ofVariant "type" (.ofVariant "con" (.ofMembers [("name", .ofText "Int")]))) :=
    ((Form.Spells.record hname (Form.laid_ofMembers (.of_eq (List.append_nil _).symm)
      (List.forall_mem_nil _))).ofVariant "con").ofVariant "type"
  have hrequests : (Form.list [Request.uninterpret.form]).Spells (max 1 0 + 1)
      (.array [.ofVariant "uninterpret" .null]) :=
    .list (.cons (.plainObject (Json.literalText?_escape "uninterpret")) .nil)
  have hbinding : (Binding.form ⟨"n", ⟨"N", 1, 2⟩, .con "Int" [], .type (.con "Int" []),
      [.uninterpret]⟩).Spells _ (.array (unknownIntParts location)) :=
    .record (.stands (.text (Json.literalText?_escape "n")) (.stands h (.stands htype
      (.stands hbody (.stands hrequests .nil))))) (.inOrder 0 rfl)
  have hlaid : Json.Laid ["module", "bindings"]
      [none, some (.array [.array (unknownIntParts location)])] (unknownIntSpelled location) :=
    Form.laid_ofMembers (List.Perm.swap _ _ []) (by simp)
  have hprogram : unknownInt.form.Spells _ (unknownIntSpelled location) :=
    .record (.leftOut rfl (.stands (.list (.cons hbinding .nil)) .nil)) hlaid
  norm_num at hprogram
  exact hprogram

/-- The fields of the location in another order. -/
def permutedLocation : List (String × Json) :=
  [("line", .ofInt 1), ("col", .ofInt 2), ("file", .ofText "N")]

/-- The fields of the location, the line twice. -/
def doubledLocation : List (String × Json) :=
  [("line", .ofInt 1), ("file", .ofText "N"), ("col", .ofInt 2), ("line", .ofInt 1)]

theorem read_every_spelling_of_unknownInt :
    read (unknownIntSpelled permutedLocation).pretty = .ok unknownInt ∧
      read (unknownIntSpelled doubledLocation).pretty = .error .malformedProgram := by
  have hfree : unknownInt.DoubleFree := by simp [DoubleFree, unknownInt, Expr.DoubleFree]
  have hwritten {location : List (String × Json)} (h : ∀ m ∈ location, m.2.Grammatical) :
      Json.WrittenSpaced (unknownIntSpelled location) (unknownIntSpelled location).pretty.toList :=
    Json.writtenSpaced_pretty (by simpa [unknownIntSpelled, unknownIntParts] using h)
  constructor
  · have htext := hwritten (show ∀ m ∈ permutedLocation, _ by simp [permutedLocation])
    have hperm : permutedLocation.Perm _ := ((List.Perm.swap _ _ []).cons _).trans (.swap _ _ _)
    have hlocation : (Location.form ⟨"N", 1, 2⟩).Spells _ (.ofMembers permutedLocation) :=
      .record (.stands (.text (Json.literalText?_escape "N"))
        (.stands (.leaf (.ofInt 1)) (.stands (.leaf (.ofInt 2)) .nil)))
        (Form.laid_ofMembers hperm (List.forall_mem_nil _))
    have hs := spells_unknownInt hlocation
    norm_num [Json.depth, Json.ofInt] at hs
    refine ((read_every_spelling unknownInt hfree).2 _ _ htext).1 ⟨6, hs⟩ ?_
    rw [htext.nesting_eq]
    decide
  · have htext := hwritten (show ∀ m ∈ doubledLocation, _ by simp [doubledLocation])
    have hlocation : (Location.form ⟨"N", 1, 2⟩).Spells ⊤ (.ofMembers doubledLocation) :=
      .repeated (Json.namedMembers?_map_escape _) (show "line" ∈ _ by decide) (by decide)
    have hs := spells_unknownInt hlocation
    norm_num at hs
    exact ((read_every_spelling unknownInt hfree).2 _ _ htext).2 hs

end Program

end CoreProver
