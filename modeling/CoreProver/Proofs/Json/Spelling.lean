import CoreProver.Proofs.Json.Members
import Mathlib.Data.ENat.Lattice
import Mathlib.Data.List.Forall2

/-!
# Spellings of records and variants

A form says what a value consists of: texts, lists, records and variants. It has many spellings in
JSON. The fields of a record may stand in any order, with unknown ones in between, or as an array in
their own order; a field that may be left out may be left out; a variant without data may be written
with `null` for its data.

Main statements: a form is among its own spellings as it is written, and readers that are put
together like the form give one result for all its spellings, as long as there is room for their
nesting. Where a known field is repeated, no room is enough.
-/

namespace CoreProver.Json

open scoped ENat

/-! ### Forms -/

/-- A field of a record. -/
structure Field (α : Type) where
  name : String
  /-- Whether the field may be left out. -/
  optional : Bool
  form : α

/-- What a value consists of. -/
inductive Form where
  /-- A value that has one spelling. -/
  | leaf (value : Json)
  | text (s : String)
  | list (items : List Form)
  | record (fields : List (Field Form))
  /-- A variant without data. -/
  | plain (name : String)
  | variant (name : String) (data : Form)

namespace Form

mutual

/-- The form as it is written. -/
@[simp] def toJson : Form → Json
  | .leaf value => value
  | .text s => ofText s
  | .list items => .array (listToJson items)
  | .record fields => ofMembers (fieldsToMembers fields)
  | .plain name => ofText name
  | .variant name data => ofVariant name data.toJson

@[simp] def listToJson : List Form → List Json
  | [] => []
  | form :: forms => form.toJson :: listToJson forms

@[simp] def fieldsToMembers : List (Field Form) → List (String × Json)
  | [] => []
  | ⟨name, _, form⟩ :: fields => (name, form.toJson) :: fieldsToMembers fields

end

end Form

/-- The fields that are not left out. -/
def present : List String → List (Option Json) → List (String × Json)
  | name :: names, some value :: values => (name, value) :: present names values
  | _ :: names, none :: values => present names values
  | _, _ => []

/-- Values of the fields of a record, laid out as an array in the order of the fields, from which
fields at the end may be missing, or as an object in any order, with unknown fields. -/
inductive Laid (names : List String) (values : List (Option Json)) : Json → Prop
  | inOrder {elements : List Json} (missing : Nat)
      (h : values = elements.map some ++ List.replicate missing none) :
      Laid names values (.array elements)
  | byName {members named unknown : List (String × Json)}
      (hnamed : namedMembers? members = some named)
      (hperm : named.Perm (present names values ++ unknown))
      (hunknown : ∀ m ∈ unknown, m.1 ∉ names) : Laid names values (.object members)

mutual

/-- Spellings of a form, with the nesting for which a reader needs room. Unknown fields need none.
There is never enough room where a known field is repeated. -/
inductive Form.Spells : Form → ℕ∞ → Json → Prop
  | leaf (value : Json) : Spells (.leaf value) value.depth value
  | text {s literal : String} (h : literalText? literal = some s) :
      Spells (.text s) 0 (.string literal)
  | list {items : List Form} {elements : List Json} {n : ℕ∞} (h : SpellsEach items n elements) :
      Spells (.list items) (n + 1) (.array elements)
  | record {fields : List (Field Form)} {values : List (Option Json)} {value : Json} {n : ℕ∞}
      (h : SpellsFields fields n values) (hlaid : Laid (fields.map Field.name) values value) :
      Spells (.record fields) (n + 1) value
  | repeated {fields : List (Field Form)} {members named : List (String × Json)} {name : String}
      (hnamed : namedMembers? members = some named) (hname : name ∈ fields.map Field.name)
      (hcount : 1 < (named.map Prod.fst).count name) : Spells (.record fields) ⊤ (.object members)
  | plain {name literal : String} (h : literalText? literal = some name) :
      Spells (.plain name) 0 (.string literal)
  | plainObject {name key : String} (h : literalText? key = some name) :
      Spells (.plain name) 1 (.object [(key, .null)])
  | variant {name key : String} {data : Form} {value : Json} {n : ℕ∞}
      (hkey : literalText? key = some name) (h : Spells data n value) :
      Spells (.variant name data) (n + 1) (.object [(key, value)])

inductive Form.SpellsEach : List Form → ℕ∞ → List Json → Prop
  | nil : SpellsEach [] 0 []
  | cons {form : Form} {forms : List Form} {value : Json} {values : List Json} {m n : ℕ∞}
      (h : Spells form m value) (hrest : SpellsEach forms n values) :
      SpellsEach (form :: forms) (max m n) (value :: values)

/-- Spellings of fields, some of them left out. -/
inductive Form.SpellsFields : List (Field Form) → ℕ∞ → List (Option Json) → Prop
  | nil : SpellsFields [] 0 []
  | stands {field : Field Form} {fields : List (Field Form)} {value : Json}
      {values : List (Option Json)} {m n : ℕ∞} (h : Spells field.form m value)
      (hrest : SpellsFields fields n values) :
      SpellsFields (field :: fields) (max m n) (some value :: values)
  | leftOut {field : Field Form} {fields : List (Field Form)} {values : List (Option Json)} {n : ℕ∞}
      (h : field.optional = true) (hrest : SpellsFields fields n values) :
      SpellsFields (field :: fields) n (none :: values)

end

/-- The value spells the form, and no known field is repeated. -/
def Form.Spelled (form : Form) (value : Json) : Prop := ∃ n : ℕ, form.Spells n value

/-- The value spells the form, but somewhere a known field is repeated. -/
def Form.Repeated (form : Form) (value : Json) : Prop := form.Spells ⊤ value

/-! ### Layouts of records -/

theorem mapM_eq_some_of_forall₂ {α β : Type} {f : α → Option β} {xs : List α} {ys : List β}
    (h : List.Forall₂ (fun x y => f x = some y) xs ys) : xs.mapM f = some ys := by
  induction h with
  | nil => rfl
  | cons hx _ ih => simp [hx, ih]

theorem mapM_eq_none_of_mem {α β : Type} {f : α → Option β} {x : α} {xs : List α} (hx : x ∈ xs)
    (h : f x = none) : xs.mapM f = none := by
  induction xs with
  | nil => exact absurd hx List.not_mem_nil
  | cons y xs ih =>
    rcases List.mem_cons.1 hx with rfl | hx
    · simp [h]
    · cases hy : f y <;> simp [hy, ih hx]

theorem filter_present_of_not_mem {name : String} {names : List String}
    (values : List (Option Json)) (h : name ∉ names) :
    (present names values).filter (fun m => m.1 = name) = [] := by
  fun_induction present names values with
  | case1 other names value values ih =>
    obtain ⟨hne, hrest⟩ := not_or.1 (mt List.mem_cons.2 h)
    simp [Ne.symm hne, ih hrest]
  | case2 other names values ih => exact ih (mt (List.mem_cons_of_mem _) h)
  | case3 => rfl

/-- Under each name stands the value of the field, if it is not left out. -/
theorem forall₂_filter_present {names : List String} {values : List (Option Json)}
    (hlength : values.length = names.length) (hnodup : names.Nodup) :
    List.Forall₂ (fun name value => (present names values).filter (fun m => m.1 = name) =
      value.toList.map (name, ·)) names values := by
  induction names generalizing values with
  | nil =>
    obtain rfl := List.length_eq_zero_iff.1 hlength
    exact .nil
  | cons name names ih =>
    obtain ⟨first, values, rfl⟩ := List.exists_cons_of_length_eq_add_one hlength
    obtain ⟨hname, hnodup⟩ := List.nodup_cons.1 hnodup
    have hnone := filter_present_of_not_mem values hname
    have hrest := (List.forall₂_and_left _ _).2
      ⟨fun other hother => hother, ih (by simpa using hlength) hnodup⟩
    refine .cons ?_ (hrest.imp ?_)
    · cases first <;> simp [present, hnone]
    · rintro other value ⟨hother, hvalue⟩
      have hne : name ≠ other := fun heq => hname (heq ▸ hother)
      cases first <;> simp [present, hne, hvalue]

theorem field?_eq_of_filter {name : String} {members : List (String × Json)} {value : Option Json}
    (h : (members.filter (fun m => m.1 = name)).Perm (value.toList.map (name, ·))) :
    field? name members = some value := by
  cases value with
  | none =>
    have hnil : members.filter (fun m => m.1 = name) = [] := List.perm_nil.1 h
    simp [field?, hnil]
  | some value =>
    have hone : members.filter (fun m => m.1 = name) = [(name, value)] := List.perm_singleton.1 h
    simp [field?, hone]

/-- The fields of a record are found in every layout. -/
theorem Laid.fields?_eq {names : List String} {values : List (Option Json)} {value : Json}
    (h : Laid names values value) (hlength : values.length = names.length) (hnodup : names.Nodup) :
    value.fields? names = some values := by
  cases h with
  | @inOrder elements missing h =>
    have hmissing : elements.length + missing = names.length := by
      rw [← hlength, h]
      simp
    have hle : elements.length ≤ names.length := by omega
    have hcount : names.length - elements.length = missing := by omega
    simp [fields?, hle, hcount, h]
  | @byName members named unknown hnamed hperm hunknown =>
    have hfields :
        List.Forall₂ (fun name value => field? name named = some value) names values := by
      have hpresent := (List.forall₂_and_left _ _).2
        ⟨fun name hname => hname, forall₂_filter_present hlength hnodup⟩
      refine hpresent.imp ?_
      rintro name value ⟨hname, hvalue⟩
      have hnone : unknown.filter (fun m => m.1 = name) = [] := by
        rw [List.filter_eq_nil_iff]
        intro m hm hsame
        exact hunknown m hm (of_decide_eq_true hsame ▸ hname)
      apply field?_eq_of_filter
      have hfilter := hperm.filter (fun m => m.1 = name)
      rwa [List.filter_append, hnone, List.append_nil, hvalue] at hfilter
    simp [fields?, hnamed, mapM_eq_some_of_forall₂ hfields]

/-- Where a known field is repeated, there are no fields to be found. -/
theorem fields?_eq_none_of_repeated {names : List String} {members named : List (String × Json)}
    {name : String} (hnamed : namedMembers? members = some named) (hname : name ∈ names)
    (hcount : 1 < (named.map Prod.fst).count name) :
    (Json.object members).fields? names = none := by
  have hlength : 1 < (named.filter (fun m => m.1 = name)).length := by
    rw [List.count_eq_countP, List.countP_map, List.countP_eq_length_filter] at hcount
    exact hcount
  have hfield : field? name named = none := by
    unfold field?
    split
    · next heq => simp [heq] at hlength
    · next heq => simp [heq] at hlength
    · rfl
  have hnone : names.mapM (field? · named) = none := mapM_eq_none_of_mem hname hfield
  simp [fields?, hnamed, hnone]

theorem Form.SpellsFields.length_eq {fields : List (Field Form)} {values : List (Option Json)}
    {n : ℕ∞} (h : Form.SpellsFields fields n values) : values.length = fields.length := by
  induction fields generalizing values n with
  | nil => cases h; rfl
  | cons field fields ih =>
    cases h with
    | stands h hrest => simp [ih hrest]
    | leftOut h hrest => simp [ih hrest]

/-! ### Nesting of spellings -/

theorem depth_le_depthElements {value : Json} {elements : List Json} (h : value ∈ elements) :
    value.depth ≤ depthElements elements := by
  induction elements with
  | nil => exact absurd h List.not_mem_nil
  | cons first elements ih =>
    rw [depthElements]
    rcases List.mem_cons.1 h with rfl | h
    · exact le_max_left _ _
    · exact (ih h).trans (le_max_right _ _)

theorem depth_le_depthMembers {key : String} {value : Json} {members : List (String × Json)}
    (h : (key, value) ∈ members) : value.depth ≤ depthMembers members := by
  induction members with
  | nil => exact absurd h List.not_mem_nil
  | cons first members ih =>
    obtain ⟨other, first⟩ := first
    rw [depthMembers]
    rcases List.mem_cons.1 h with heq | h
    · obtain ⟨rfl, rfl⟩ := Prod.mk.inj heq
      exact le_max_left _ _
    · exact (ih h).trans (le_max_right _ _)

theorem exists_mem_of_namedMembers? {members named : List (String × Json)}
    (h : namedMembers? members = some named) {name : String} {value : Json}
    (hm : (name, value) ∈ named) : ∃ key, (key, value) ∈ members := by
  unfold namedMembers? at h
  induction members generalizing named with
  | nil =>
    obtain rfl : [] = named := by simpa using h
    exact absurd hm List.not_mem_nil
  | cons first members ih =>
    obtain ⟨key, first⟩ := first
    simp only [List.mapM_cons, Option.bind_eq_bind, Option.bind_eq_some_iff, Option.map_eq_some_iff,
      Option.pure_def, Option.some.injEq] at h
    obtain ⟨_, ⟨text, _, rfl⟩, rest, hrest, rfl⟩ := h
    rcases List.mem_cons.1 hm with heq | hm
    · obtain ⟨rfl, rfl⟩ := Prod.mk.inj heq
      exact ⟨key, List.mem_cons_self⟩
    · obtain ⟨key, hkey⟩ := ih hrest hm
      exact ⟨key, List.mem_cons_of_mem _ hkey⟩

theorem exists_mem_present {value : Json} {names : List String} {values : List (Option Json)}
    (hlength : values.length = names.length) (h : some value ∈ values) :
    ∃ name, (name, value) ∈ present names values := by
  fun_induction present names values with
  | case1 name names first values ih =>
    rcases List.mem_cons.1 h with heq | h
    · obtain rfl := Option.some.inj heq
      exact ⟨name, List.mem_cons_self⟩
    · obtain ⟨name, hname⟩ := ih (by simpa using hlength) h
      exact ⟨name, List.mem_cons_of_mem _ hname⟩
  | case2 name names values ih => exact ih (by simpa using hlength) (by simpa using h)
  | case3 names values hsome hnone =>
    match names, values with
    | [], [] => exact absurd h List.not_mem_nil
    | name :: names, some value :: values => exact (hsome _ _ _ _ rfl rfl).elim
    | name :: names, none :: values => exact (hnone _ _ _ rfl rfl).elim

theorem Laid.exists_depth_eq {names : List String} {values : List (Option Json)} {value : Json}
    (h : Laid names values value) : ∃ d, value.depth = d + 1 := by
  cases h with
  | inOrder missing h => exact ⟨_, rfl⟩
  | byName hnamed hperm hunknown => exact ⟨_, rfl⟩

theorem Laid.depth_lt {names : List String} {values : List (Option Json)} {value field : Json}
    (h : Laid names values value) (hlength : values.length = names.length)
    (hfield : some field ∈ values) : field.depth < value.depth := by
  cases h with
  | @inOrder elements missing h =>
    have hmem : field ∈ elements := by simpa [h] using hfield
    exact Nat.lt_succ_of_le (depth_le_depthElements hmem)
  | @byName members named unknown hnamed hperm hunknown =>
    obtain ⟨name, hname⟩ := exists_mem_present hlength hfield
    have hmem : (name, field) ∈ named := hperm.mem_iff.2 (List.mem_append_left _ hname)
    obtain ⟨key, hkey⟩ := exists_mem_of_namedMembers? hnamed hmem
    exact Nat.lt_succ_of_le (depth_le_depthMembers hkey)

theorem natCast_max (a b : ℕ) : ((max a b : ℕ) : ℕ∞) = max (a : ℕ∞) b := Nat.mono_cast.map_max

namespace Form

mutual

/-- A spelling needs no more room than its own nesting. -/
theorem Spells.le_depth : ∀ {form : Form} {n : ℕ∞} {value : Json}, form.Spells n value → n ≠ ⊤ →
    n ≤ value.depth
  | _, _, _, .leaf value, _ => le_rfl
  | _, _, _, .text _, _ => zero_le
  | _, _, _, .list h, hn => by
    have hle := h.le_depth (ne_top_of_le_ne_top hn le_self_add)
    simpa [depth] using add_le_add_left hle 1
  | _, _, _, .record h hlaid, hn => by
    have hlength := h.length_eq.trans (List.length_map Field.name).symm
    obtain ⟨d, hd⟩ := hlaid.exists_depth_eq
    have hle := h.le_depth (ne_top_of_le_ne_top hn le_self_add) (d := d) fun field hfield => by
      have hlt := hlaid.depth_lt hlength hfield
      omega
    simpa [hd] using add_le_add_left hle 1
  | _, _, _, .repeated _ _ _, hn => absurd rfl hn
  | _, _, _, .plain _, _ => zero_le
  | _, _, _, .plainObject _, _ => by simp [depth]
  | _, _, _, .variant _ h, hn => by
    have hle := h.le_depth (ne_top_of_le_ne_top hn le_self_add)
    simpa [depth, depthMembers] using add_le_add_left hle 1

theorem SpellsEach.le_depth : ∀ {forms : List Form} {n : ℕ∞} {values : List Json},
    SpellsEach forms n values → n ≠ ⊤ → n ≤ depthElements values
  | _, _, _, .nil, _ => le_rfl
  | _, _, _, .cons h hrest, hn => by
    have hle := h.le_depth (ne_top_of_le_ne_top hn (le_max_left _ _))
    have hleRest := hrest.le_depth (ne_top_of_le_ne_top hn (le_max_right _ _))
    rw [depthElements, natCast_max]
    exact max_le_max hle hleRest

theorem SpellsFields.le_depth : ∀ {fields : List (Field Form)} {n : ℕ∞}
    {values : List (Option Json)}, SpellsFields fields n values → n ≠ ⊤ → ∀ {d : Nat},
    (∀ value, some value ∈ values → value.depth ≤ d) → n ≤ d
  | _, _, _, .nil, _, _, _ => zero_le
  | _, _, _, .stands h hrest, hn, d, hd => by
    have hle := h.le_depth (ne_top_of_le_ne_top hn (le_max_left _ _))
    have hleRest := hrest.le_depth (ne_top_of_le_ne_top hn (le_max_right _ _))
      fun value hvalue => hd value (List.mem_cons_of_mem _ hvalue)
    exact max_le (hle.trans (Nat.cast_le.2 (hd _ List.mem_cons_self))) hleRest
  | _, _, _, .leftOut _ hrest, hn, d, hd =>
    hrest.le_depth hn fun value hvalue => hd value (List.mem_cons_of_mem _ hvalue)

end

theorem depth_ofMembers (members : List (String × Json)) :
    (ofMembers members).depth = depthMembers members + 1 := by
  rw [ofMembers, depth]
  congr 1
  induction members with
  | nil => rfl
  | cons member members ih => simp [depthMembers, ih]

theorem present_fieldsToMembers (fields : List (Field Form)) :
    present (fields.map Field.name) ((fieldsToMembers fields).map fun m => some m.2) =
      fieldsToMembers fields := by
  induction fields with
  | nil => rfl
  | cons field fields ih => simp [present, ih]

theorem laid_ofMembers {names : List String} {values : List (Option Json)}
    {members unknown : List (String × Json)}
    (hperm : members.Perm (present names values ++ unknown))
    (hunknown : ∀ m ∈ unknown, m.1 ∉ names) : Laid names values (ofMembers members) :=
  .byName (namedMembers?_map_escape members) hperm hunknown

theorem Spells.ofVariant {data : Form} {n : ℕ∞} {value : Json} (h : data.Spells n value)
    (name : String) : (Form.variant name data).Spells (n + 1) (Json.ofVariant name value) :=
  .variant (literalText?_escape name) h

mutual

/-- A form is spelled as it is written, and needs room for all its nesting. -/
theorem spells_toJson : ∀ form : Form, form.Spells form.toJson.depth form.toJson
  | .leaf value => .leaf value
  | .text s => .text (literalText?_escape s)
  | .list items => by
    simpa [depth] using Spells.list (spellsEach_listToJson items)
  | .record fields => by
    have hlaid : Laid (fields.map Field.name) ((fieldsToMembers fields).map fun m => some m.2)
        (ofMembers (fieldsToMembers fields)) := by
      refine laid_ofMembers (.of_eq ?_) (List.forall_mem_nil _)
      rw [present_fieldsToMembers, List.append_nil]
    simpa [depth_ofMembers] using Spells.record (spellsFields_fieldsToMembers fields) hlaid
  | .plain name => .plain (literalText?_escape name)
  | .variant name data => by
    have hdata := data.spells_toJson.ofVariant name
    simpa [Json.ofVariant, ofMembers, depth, depthMembers] using hdata

theorem spellsEach_listToJson : ∀ forms : List Form,
    SpellsEach forms (depthElements (listToJson forms)) (listToJson forms)
  | [] => .nil
  | form :: forms => by
    have hcons := SpellsEach.cons form.spells_toJson (spellsEach_listToJson forms)
    rwa [← natCast_max] at hcons

theorem spellsFields_fieldsToMembers : ∀ fields : List (Field Form),
    SpellsFields fields (depthMembers (fieldsToMembers fields))
      ((fieldsToMembers fields).map fun m => some m.2)
  | [] => .nil
  | ⟨name, optional, form⟩ :: fields => by
    have hcons : SpellsFields (⟨name, optional, form⟩ :: fields) _ _ :=
      .stands form.spells_toJson (spellsFields_fieldsToMembers fields)
    rwa [← natCast_max] at hcons

end

end Form

/-! ### Readers -/

/-- The result of a reader that needs room `n`. -/
def within {α : Type} (room : Nat) (n : ℕ∞) (x : α) : Option α := if n ≤ room then some x else none

section within

variable {α β : Type} (room : Nat) (m n : ℕ∞) (x : α)

@[simp] theorem within_top : within room ⊤ x = none := by simp [within]

@[simp] theorem within_zero : within room 0 x = some x := by simp [within]

@[simp] theorem within_zero_add_one : within 0 (n + 1) x = none := by simp [within]

@[simp] theorem within_add_one : within (room + 1) (n + 1) x = within room n x := by
  have hle : n + 1 ≤ ((room + 1 : ℕ) : ℕ∞) ↔ n ≤ room := by
    rw [Nat.cast_add, Nat.cast_one]
    exact ENat.add_le_add_iff_right ENat.one_ne_top
  simp only [within, hle]

@[simp] theorem map_within (f : α → β) : (within room n x).map f = within room n (f x) := by
  unfold within
  split <;> rfl

/-- Two readers one after the other need the greater of their rooms. -/
@[simp] theorem within_bind_within (f : α → β) :
    ((within room m x).bind fun a => within room n (f a)) = within room (max m n) (f x) := by
  unfold within
  by_cases hm : m ≤ room <;> by_cases hn : n ≤ room <;> simp [hm, hn]

@[simp] theorem within_bind_some (f : α → β) :
    ((within room n x).bind fun a => some (f a)) = within room n (f x) := by
  unfold within
  split <;> rfl

end within

/-- The reader gives `x` for every spelling of the form for which there is room. -/
structure Reads {α : Type} (read : Nat → Json → Option α) (form : Form) (x : α) : Prop where
  read_eq {n : ℕ∞} {value : Json} (h : form.Spells n value) (room : Nat) :
    read room value = within room n x

namespace Reads

variable {α β γ : Type} {x : α}

theorem leaf {read : Json → Option α} {value : Json} (hdepth : value.depth = 0)
    (h : read value = some x) : Reads (fun _ => read) (.leaf value) x := by
  refine ⟨fun {n value} hs room => ?_⟩
  cases hs
  simp [hdepth, h]

theorem text {read : Json → Option α} {s : String}
    (h : ∀ value, value.text? = some s → read value = some x) :
    Reads (fun _ => read) (.text s) x := by
  refine ⟨fun {n value} hs room => ?_⟩
  cases hs with
  | @text _ literal hliteral => simpa using h (.string literal) hliteral

theorem map {read : Nat → Json → Option α} {form : Form} (h : Reads read form x) (f : α → β) :
    Reads (fun room value => (read room value).map f) form (f x) := by
  refine ⟨fun {n value} hs room => ?_⟩
  simp [h.read_eq hs room]

theorem list {read : Nat → Json → Option (List α)} {item : Nat → Json → Option α}
    {forms : List Form} {xs : List α} (h : List.Forall₂ (Reads item) forms xs)
    (hzero : ∀ elements, read 0 (.array elements) = none)
    (hsucc : ∀ room elements, read (room + 1) (.array elements) = elements.mapM (item room)) :
    Reads read (.list forms) xs := by
  have hitems (room : Nat) {n : ℕ∞} {elements : List Json} (hs : Form.SpellsEach forms n elements) :
      elements.mapM (item room) = within room n xs := by
    induction h generalizing n elements with
    | nil => cases hs; simp
    | cons hx _ ih =>
      cases hs with
      | cons hvalue hs => simp [hx.read_eq hvalue room, ih hs]
  refine ⟨fun {n value} hs room => ?_⟩
  cases hs with
  | list hs =>
    cases room with
    | zero => simp [hzero]
    | succ room => simp [hsucc, hitems room hs]

theorem pair {first : Nat → Json → Option α} {second : Nat → Json → Option β}
    {read : Nat → Json → Option γ} {y : β} {a b : Form} (ha : Reads first a x)
    (hb : Reads second b y) (f : α → β → γ)
    (hzero : ∀ elements, read 0 (.array elements) = none)
    (hsucc : ∀ room u v, read (room + 1) (.array [u, v]) =
      (first room u).bind fun x => (second room v).bind fun y => some (f x y)) :
    Reads read (.list [a, b]) (f x y) := by
  refine ⟨fun {n value} hs room => ?_⟩
  cases hs with
  | list hs =>
    obtain _ | ⟨hu, _ | ⟨hv, ⟨⟩⟩⟩ := hs
    cases room with
    | zero => simp [hzero]
    | succ room => simp [hsucc, ha.read_eq hu room, hb.read_eq hv room]

theorem variant {read inner : Nat → Json → Option α} {name : String} {data : Form}
    (h : Reads inner data x) (hzero : ∀ members, read 0 (.object members) = none)
    (hsucc : ∀ room key value, literalText? key = some name →
      read (room + 1) (.object [(key, value)]) = inner room value) :
    Reads read (.variant name data) x := by
  refine ⟨fun {n value} hs room => ?_⟩
  cases hs with
  | variant hkey hs =>
    cases room with
    | zero => simp [hzero]
    | succ room => simp [hsucc room _ _ hkey, h.read_eq hs room]

theorem plain {read : Nat → Json → Option α} {name : String}
    (hzero : ∀ members, read 0 (.object members) = none)
    (h : ∀ room value, value.plainVariant? room = some name → read room value = some x) :
    Reads read (.plain name) x := by
  refine ⟨fun {n value} hs room => ?_⟩
  cases hs with
  | @plain _ literal hliteral => simpa using h room (.string literal) hliteral
  | @plainObject _ key hkey =>
    cases room with
    | zero => simp [hzero, within]
    | succ room =>
      have hplain : (Json.object [(key, .null)]).plainVariant? (room + 1) = some name := by
        simp [plainVariant?, variant?, hkey, isNull]
      simp [h (room + 1) _ hplain, within]

theorem record {read : Nat → Json → Option α} {fields : List (Field Form)} (names : List String)
    (hnames : fields.map Field.name = names) (hnodup : names.Nodup)
    (hzero : ∀ value, read 0 value = none)
    (hnone : ∀ room value, value.fields? names = none → read (room + 1) value = none)
    (hsome : ∀ {n : ℕ∞} {values : List (Option Json)}, Form.SpellsFields fields n values →
      ∀ room value, value.fields? names = some values → read (room + 1) value = within room n x) :
    Reads read (.record fields) x := by
  subst hnames
  refine ⟨fun {n value} hs room => ?_⟩
  cases hs with
  | record hs hlaid =>
    have hfields := hlaid.fields?_eq (hs.length_eq.trans (List.length_map Field.name).symm) hnodup
    cases room with
    | zero => simp [hzero]
    | succ room => simp [hsome hs room value hfields]
  | repeated hnamed hname hcount =>
    have hfields := fields?_eq_none_of_repeated hnamed hname hcount
    cases room with
    | zero => simp [hzero]
    | succ room => simp [hnone room _ hfields]

end Reads

namespace Form

theorem SpellsFields.eq_nil {n : ℕ∞} {values : List (Option Json)} (h : SpellsFields [] n values) :
    n = 0 ∧ values = [] := by
  cases h
  exact ⟨rfl, rfl⟩

theorem SpellsFields.exists_required {name : String} {form : Form} {fields : List (Field Form)}
    {n : ℕ∞} {values : List (Option Json)}
    (h : SpellsFields (⟨name, false, form⟩ :: fields) n values) :
    ∃ m k value rest, n = max m k ∧ values = some value :: rest ∧ form.Spells m value ∧
      SpellsFields fields k rest := by
  cases h with
  | stands h hrest => exact ⟨_, _, _, _, rfl, rfl, h, hrest⟩
  | leftOut h hrest => exact absurd h Bool.false_ne_true

/-- A field that may be left out stands first, or is left out. -/
theorem SpellsFields.exists_optional {name : String} {optional : Bool} {form : Form}
    {fields : List (Field Form)} {n : ℕ∞} {values : List (Option Json)}
    (h : SpellsFields (⟨name, optional, form⟩ :: fields) n values) :
    (∃ m k value rest, n = max m k ∧ values = some value :: rest ∧ form.Spells m value ∧
      SpellsFields fields k rest) ∨
    optional = true ∧ ∃ rest, values = none :: rest ∧ SpellsFields fields n rest := by
  cases h with
  | stands h hrest => exact .inl ⟨_, _, _, _, rfl, rfl, h, hrest⟩
  | leftOut h hrest => exact .inr ⟨h, _, rfl, hrest⟩

end Form

end CoreProver.Json
