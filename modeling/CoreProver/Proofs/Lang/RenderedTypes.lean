import CoreProver.Proofs.Lang.TypeReader

/-!
# Rendered types

A rendered type does not tell types, classes and variables of one name apart; all else can be read
off it. One lemma for each form of types says how its text is read, from how the texts of its parts
are. Main statement: two types have one text only if they are the same once erased.
-/

namespace CoreProver

namespace Ty

mutual

/-- Whether names are names throughout and no tuple has one component. -/
def readable : Ty → Bool
  | .con name args | .dict name args => isName name && readableAll args
  | .var name => isName name
  | .arrow argument result => argument.readable && result.readable
  | .forAll name body => isName name && body.readable
  | .equality left right => left.readable && right.readable
  | .tuple items => items.length ≠ 1 && readableAll items

def readableAll : List Ty → Bool
  | [] => true
  | t :: ts => t.readable && readableAll ts

end

mutual

/-- The type with the class or variable of a name replaced by the type of that name. -/
def erased : Ty → Ty
  | .con name args | .dict name args => .con name (erasedAll args)
  | .var name => .con name []
  | .arrow argument result => .arrow argument.erased result.erased
  | .forAll name body => .forAll name body.erased
  | .equality left right => .equality left.erased right.erased
  | .tuple items => .tuple (erasedAll items)

def erasedAll : List Ty → List Ty
  | [] => []
  | t :: ts => t.erased :: erasedAll ts

end

end Ty

namespace TypeReader

/-! ### The forms of types -/

/-- What reading arguments does behind a name. -/
def ReadsArgs (text : List Char) (ts : List Ty) : Prop :=
  ∀ name args level outer, level.operand = some (.applied name args) →
    Reads text ⟨level, outer⟩
      ⟨{ level with operand := some (.applied name (ts.reverse ++ args)) }, outer⟩

/-- What reading the rest of a tuple does behind its first components. -/
def ReadsItems (text : List Char) (ts : List Ty) : Prop :=
  ∀ level enclosing outer t s', level.item? = some t → (level.items ≠ [] ∨ ts ≠ []) →
    State.take ⟨enclosing, outer⟩ (.enclosed (.tuple (level.items.reverse ++ t :: ts))) = some s' →
    Reads text ⟨level, enclosing :: outer⟩ s'

section

variable {text text' : List Char} {name : String} {t t' : Ty} {ts : List Ty}

theorem readsAt_name (hname : Ty.isName name = true) :
    ReadsAt .argument name.toList (.con name []) :=
  ⟨.applied name [], rfl, fun _ _ hs => reads_name hname hs⟩

theorem readsArgs_nil : ReadsArgs [] [] := by
  intro name args level outer h
  rw [List.reverse_nil, List.nil_append, ← h]
  exact reads_nil _

theorem readsArgs_cons (h : ReadsAt .argument text t) (hend : endsName text' = true)
    (h' : ReadsArgs text' ts) : ReadsArgs (' ' :: (text ++ text')) (t :: ts) := by
  intro name args level outer hlevel
  obtain ⟨o, rfl, hreads⟩ := h
  have hhead := hreads _ _ (State.take_of_applied hlevel outer o)
  have htail := h' name (o.type :: args)
    { level with operand := some (.applied name (o.type :: args)) } outer rfl
  rw [List.reverse_cons, List.append_assoc, List.singleton_append]
  exact reads_sign rfl rfl (hhead.append hend htail)

theorem readsAt_application (hname : Ty.isName name = true) (hend : endsName text = true)
    (h : ReadsArgs text ts) : ReadsAt .side (name.toList ++ text) (.con name ts) := by
  refine ⟨.applied name ts.reverse, by simp [Operand.type], fun level outer hlevel => ?_⟩
  have hhead := reads_name hname (State.take_of_none hlevel outer (.applied name []))
  have htail := h name [] { level with operand := some (.applied name []) } outer rfl
  rw [List.append_nil] at htail
  exact hhead.append hend htail

theorem readsItems_nil : ReadsItems [')'] [] := by
  intro level enclosing outer t s' hitem hsome hs
  have hitems : level.items ≠ [] := hsome.resolve_right fun h => h rfl
  have henclosed : level.enclosed? = some (.tuple (level.items.reverse ++ [t])) := by
    obtain ⟨items, openings, operand⟩ := level
    cases items with
    | nil => exact absurd rfl hitems
    | cons u us =>
      change Option.map _ _ = _
      rw [hitem]
      rfl
  refine reads_sign rfl ?_ (reads_nil s')
  rw [State.sign_close, henclosed]
  exact hs

theorem readsItems_cons (h : ReadsAt .top text t) (hend : endsName text' = true)
    (h' : ReadsItems text' ts) : ReadsItems (',' :: ' ' :: (text ++ text')) (t :: ts) := by
  intro level enclosing outer u s' hitem _ hs
  obtain ⟨level', hreads, hitems', hitem'⟩ :=
    h ⟨u :: level.items, [], none⟩ (enclosing :: outer) rfl
  have hcomma : State.sign ⟨level, enclosing :: outer⟩ ',' =
      some ⟨⟨u :: level.items, [], none⟩, enclosing :: outer⟩ := by
    change (level.comma.map (State.mk · (enclosing :: outer))) = _
    rw [Level.comma, hitem]
    rfl
  have htail : Reads text' ⟨level', enclosing :: outer⟩ s' :=
    h' level' enclosing outer t s' hitem' (.inl (by simp [hitems'])) (by simpa [hitems'] using hs)
  exact reads_sign rfl hcomma (reads_sign rfl rfl (hreads.append hend htail))

theorem readsAt_tuple (h : ReadsAt .top text t) (hend : endsName text' = true) (hts : ts ≠ [])
    (h' : ReadsItems text' ts) :
    ReadsAt .argument ('(' :: (text ++ text')) (.tuple (t :: ts)) := by
  refine ⟨.enclosed (.tuple (t :: ts)), rfl, fun s s' hs => ?_⟩
  obtain ⟨level', hreads, hitems, hitem⟩ := h .blank (s.level :: s.outer) rfl
  have htail := h' level' s.level s.outer t s' hitem (.inr hts) (by rw [hitems]; exact hs)
  exact reads_sign rfl rfl (hreads.append hend htail)

theorem readsAt_unit : ReadsAt .argument ['(', ')'] (.tuple []) :=
  ⟨.enclosed (.tuple []), rfl, fun _ s' hs =>
    reads_sign rfl rfl (reads_sign rfl hs (reads_nil s'))⟩

/-- A type behind an opening, whose text leaves the reader with the opening and no operand. -/
theorem ReadsAt.behind (opening : Opening) (h : ReadsAt .top text t)
    (hopen : ∀ level outer s, level.operand = none →
      Reads text ⟨{ level with openings := opening :: level.openings, operand := none }, outer⟩ s →
      Reads text' ⟨level, outer⟩ s) :
    ReadsAt .top text' (opening.around t) := by
  intro level outer hlevel
  obtain ⟨level', hreads, hitems, hitem⟩ :=
    h { level with openings := opening :: level.openings, operand := none } outer rfl
  exact ⟨level', hopen level outer _ hlevel hreads, hitems, hitem⟩

theorem readsAt_arrow (h : ReadsAt .side text t) (h' : ReadsAt .top text' t') :
    ReadsAt .top (text ++ ' ' :: '-' :: '>' :: ' ' :: text') (.arrow t t') := by
  obtain ⟨o, rfl, hreads⟩ := h
  refine h'.behind (.arrow o.type) fun level outer s hlevel hrest => ?_
  refine (hreads level outer hlevel).append rfl ?_
  exact reads_sign rfl rfl (reads_sign rfl rfl (reads_sign rfl rfl (reads_sign rfl rfl hrest)))

theorem readsAt_equality (h : ReadsAt .side text t) (h' : ReadsAt .top text' t') :
    ReadsAt .top (text ++ ' ' :: '~' :: ' ' :: text') (.equality t t') := by
  obtain ⟨o, rfl, hreads⟩ := h
  refine h'.behind (.equality o.type) fun level outer s hlevel hrest => ?_
  refine (hreads level outer hlevel).append rfl ?_
  exact reads_sign rfl rfl (reads_sign rfl rfl (reads_sign rfl rfl hrest))

theorem readsAt_forAll (hname : Ty.isName name = true) (h : ReadsAt .top text t) :
    ReadsAt .top ("forall".toList ++ ' ' :: (name.toList ++ '.' :: ' ' :: text))
      (.forAll name t) := by
  refine h.behind (.forAll name) fun level outer s hlevel hrest => ?_
  -- up to the point, the quantified name is read as an argument
  have hword : Reads "forall".toList ⟨level, outer⟩
      ⟨{ level with operand := some (.applied "forall" []) }, outer⟩ :=
    reads_name (by decide) (State.take_of_none hlevel outer _)
  have hvar : Reads name.toList ⟨{ level with operand := some (.applied "forall" []) }, outer⟩
      ⟨{ level with operand := some (.applied "forall" [.con name []]) }, outer⟩ :=
    reads_name hname rfl
  exact hword.append rfl
    (reads_sign rfl rfl (hvar.append rfl (reads_sign rfl rfl (reads_sign rfl rfl hrest))))

end

/-! ### All types -/

theorem endsName_renderArgs (ts : List Ty) : endsName (Ty.renderArgs ts).toList = true := by
  cases ts with
  | nil => rfl
  | cons t ts => simp [Ty.renderArgs, endsName, Ty.isNameChar]

theorem endsName_renderItems (ts : List Ty) : endsName (Ty.renderItems ts).toList = true := by
  cases ts with
  | nil => rfl
  | cons t ts => simp [Ty.renderItems, endsName, Ty.isNameChar]

theorem readsAt_con {name : String} {args : List Ty} (hname : Ty.isName name = true)
    (h : ReadsArgs (Ty.renderArgs args).toList (Ty.erasedAll args)) (position : Position) :
    ReadsAt position ((Ty.con name args).render position).toList
      (.con name (Ty.erasedAll args)) := by
  cases args with
  | nil => exact (readsAt_name hname).anywhere position
  | cons arg args =>
    refine ReadsAt.application ?_ position
    rw [String.toList_append]
    exact readsAt_application hname (endsName_renderArgs _) h

theorem render_dict (position : Position) (name : String) (args : List Ty) :
    (Ty.dict name args).render position = (Ty.con name args).render position := by
  cases args <;> rfl

mutual

/-- The text of a type is read as the erased type, at each position. -/
theorem readsAt_render : ∀ (t : Ty), t.readable = true → ∀ position,
    ReadsAt position (t.render position).toList t.erased
  | .con name args, h, position => by
    rw [Ty.readable, Bool.and_eq_true] at h
    rw [Ty.erased]
    exact readsAt_con h.1 (readsArgs_renderArgs args h.2) position
  | .dict name args, h, position => by
    rw [Ty.readable, Bool.and_eq_true] at h
    rw [Ty.erased, render_dict]
    exact readsAt_con h.1 (readsArgs_renderArgs args h.2) position
  | .var name, h, position => by
    rw [Ty.readable] at h
    exact (readsAt_name h).anywhere position
  | .arrow argument result, h, position => by
    rw [Ty.readable, Bool.and_eq_true] at h
    rw [Ty.render, Ty.erased]
    refine ReadsAt.operator ?_ position
    simpa using readsAt_arrow (readsAt_render argument h.1 .side) (readsAt_render result h.2 .top)
  | .forAll name body, h, position => by
    rw [Ty.readable, Bool.and_eq_true] at h
    rw [Ty.render, Ty.erased]
    refine ReadsAt.operator ?_ position
    simpa using readsAt_forAll h.1 (readsAt_render body h.2 .top)
  | .equality left right, h, position => by
    rw [Ty.readable, Bool.and_eq_true] at h
    rw [Ty.render, Ty.erased]
    refine ReadsAt.operator ?_ position
    have hleft := readsAt_render left h.1 .argument
    have hright := readsAt_render right h.2 .argument
    simpa using readsAt_equality hleft.side_of_argument (hright.anywhere .top)
  | .tuple [], _, position => by
    rw [Ty.render, Ty.erased, Ty.erasedAll]
    exact readsAt_unit.anywhere position
  | .tuple (item :: items), h, position => by
    rw [Ty.readable, Ty.readableAll, Bool.and_eq_true, Bool.and_eq_true] at h
    obtain ⟨hlength, hitem, hitems⟩ := h
    rw [Ty.render, Ty.erased, Ty.erasedAll]
    refine ReadsAt.anywhere ?_ position
    have htail := readsItems_renderItems items hitems
    have hseveral : Ty.erasedAll items ≠ [] := by
      cases items with
      | nil => simp at hlength
      | cons t ts => simp [Ty.erasedAll]
    simpa using readsAt_tuple (readsAt_render item hitem .top) (endsName_renderItems items)
      hseveral htail

theorem readsArgs_renderArgs : ∀ (ts : List Ty), Ty.readableAll ts = true →
    ReadsArgs (Ty.renderArgs ts).toList (Ty.erasedAll ts)
  | [], _ => readsArgs_nil
  | t :: ts, h => by
    rw [Ty.readableAll, Bool.and_eq_true] at h
    rw [Ty.renderArgs, Ty.erasedAll]
    simpa using readsArgs_cons (readsAt_render t h.1 .argument) (endsName_renderArgs ts)
      (readsArgs_renderArgs ts h.2)

theorem readsItems_renderItems : ∀ (ts : List Ty), Ty.readableAll ts = true →
    ReadsItems (Ty.renderItems ts).toList (Ty.erasedAll ts)
  | [], _ => readsItems_nil
  | t :: ts, h => by
    rw [Ty.readableAll, Bool.and_eq_true] at h
    rw [Ty.renderItems, Ty.erasedAll]
    simpa using readsItems_cons (readsAt_render t h.1 .top) (endsName_renderItems ts)
      (readsItems_renderItems ts h.2)

end

/-- Reading the text of a type, at whatever position, gives the erased type. -/
theorem read?_render {t : Ty} (h : t.readable = true) (position : Position) :
    read? (t.render position) = some t.erased := by
  obtain ⟨level', ⟨r, hr, hcomplete⟩, hitems, hitem⟩ :=
    (readsAt_render t h position).top .blank [] rfl
  have hblank : level'.items = [] := hitems
  rw [read?, hr, Option.bind_some, hcomplete, Option.bind_some, hblank]
  exact hitem

end TypeReader

namespace Ty

mutual

/-- Erasing leaves no trace in the text. -/
theorem render_erased : ∀ (t : Ty) (position : Position),
    t.erased.render position = t.render position
  | .con name [], position => rfl
  | .con name (arg :: args), position => by
    simp [erased, erasedAll, render, renderArgs, render_erased arg, renderArgs_erased args]
  | .dict name [], position => rfl
  | .dict name (arg :: args), position => by
    simp [erased, erasedAll, render, renderArgs, render_erased arg, renderArgs_erased args]
  | .var name, position => rfl
  | .arrow argument result, position => by
    simp [erased, render, render_erased argument, render_erased result]
  | .forAll name body, position => by simp [erased, render, render_erased body]
  | .equality left right, position => by
    simp [erased, render, render_erased left, render_erased right]
  | .tuple [], position => rfl
  | .tuple (item :: items), position => by
    simp [erased, erasedAll, render, render_erased item, renderItems_erased items]

theorem renderArgs_erased : ∀ ts : List Ty, renderArgs (erasedAll ts) = renderArgs ts
  | [] => rfl
  | t :: ts => by simp [erasedAll, renderArgs, render_erased t, renderArgs_erased ts]

theorem renderItems_erased : ∀ ts : List Ty, renderItems (erasedAll ts) = renderItems ts
  | [] => rfl
  | t :: ts => by simp [erasedAll, renderItems, render_erased t, renderItems_erased ts]

end

/-- Rendered types are unambiguous, if names consist of letters, digits, underscores, primes and
dollar signs and no tuple has one component. Two types have one text exactly when they are the same
once erased. At no position is the text of a type that of another type, at this or any other
position, so that parentheses stand wherever they are needed. The word `forall` may be a name. -/
theorem rendering_unambiguous (t t' : Ty) (h : t.readable = true) (h' : t'.readable = true) :
    (t.text = t'.text ↔ t.erased = t'.erased) ∧
    ∀ position position', t.render position = t'.render position' → t.erased = t'.erased := by
  have hinj (position position' : Position) (heq : t.render position = t'.render position') :
      t.erased = t'.erased := by
    have hread := TypeReader.read?_render h position
    rw [heq, TypeReader.read?_render h' position'] at hread
    exact (Option.some.inj hread).symm
  refine ⟨⟨hinj .top .top, fun heq => ?_⟩, hinj⟩
  rw [text, text, ← t.render_erased, heq, t'.render_erased]

theorem rendering_unambiguous_of_groupedArrow :
    let grouped := Ty.arrow (.arrow (.var "a") (.var "b")) (.dict "Eq" [.var "c'"])
    let chained := Ty.arrow (.var "a") (.arrow (.var "b") (.dict "Eq" [.var "c'"]))
    let named := Ty.arrow (.arrow (.con "a" []) (.var "b")) (.con "Eq" [.var "c'"])
    grouped.readable = true ∧ chained.readable = true ∧ named.readable = true ∧
      grouped.text = named.text ∧
      ∀ position position', grouped.render position ≠ chained.render position' := by
  intro grouped chained named
  refine ⟨by decide, by decide, by decide, ?_, fun position position' h => ?_⟩
  · exact (rendering_unambiguous grouped named (by decide) (by decide)).1.2 rfl
  · have heq := (rendering_unambiguous grouped chained (by decide) (by decide)).2 _ _ h
    simp [grouped, chained, erased] at heq

end Ty

end CoreProver
