import CoreProver.Lang.Printer
import Mathlib.Tactic.Common

/-!
# Reading rendered types

The reader goes through the text of a type character by character and keeps what it has read inside
each open pair of parentheses, so that no text has to be looked at twice. It takes every name for a
type constructor. `ReadsAt` says what reading a text does where a part stands at a position; it is
closed under the parentheses that the positions ask for.
-/

namespace CoreProver

namespace Ty

/-- Characters of names. -/
def isNameChar (c : Char) : Bool := c.isAlphanum || c = '_' || c = '\'' || c = '$'

/-- Whether a text is one name among the signs of a rendered type. -/
def isName (s : String) : Bool := !s.toList.isEmpty && s.toList.all isNameChar

end Ty

namespace TypeReader

/-! ### The reader -/

/-- What an operator takes as its left side. -/
inductive Operand where
  /-- A name and its arguments so far, last first. -/
  | applied (name : String) (args : List Ty)
  /-- What stood in parentheses. -/
  | enclosed (t : Ty)

def Operand.type : Operand → Ty
  | applied name args => .con name args.reverse
  | enclosed t => t

/-- What waits for the type behind it. -/
inductive Opening where
  | arrow (argument : Ty)
  | equality (left : Ty)
  | forAll (name : String)

/-- The type that an opening makes of the one behind it. -/
def Opening.around : Opening → Ty → Ty
  | arrow argument, t => .arrow argument t
  | equality left, t => .equality left t
  | forAll name, t => .forAll name t

/-- What has been read since the innermost open parenthesis. -/
structure Level where
  /-- The components before the last comma, last first. -/
  items : List Ty
  /-- The openings behind that comma, last first. -/
  openings : List Opening
  operand : Option Operand

namespace Level

def blank : Level := ⟨[], [], none⟩

/-- Read an operand: it is an argument if there is a name that it can belong to. -/
def take (l : Level) (o : Operand) : Option Level :=
  match l.operand with
  | none => some { l with operand := some o }
  | some (.applied name args) => some { l with operand := some (.applied name (o.type :: args)) }
  | some (.enclosed _) => none

/-- Put the openings around a type. -/
def around (l : Level) (t : Ty) : Ty := l.openings.foldl (fun t opening => opening.around t) t

/-- The component behind the last comma. -/
def item? (l : Level) : Option Ty := l.operand.map fun o => l.around o.type

def operator (l : Level) (opening : Ty → Opening) : Option Level :=
  l.operand.map fun o => { l with openings := opening o.type :: l.openings, operand := none }

/-- Read the point behind a quantified name. -/
def quantifier (l : Level) : Option Level :=
  match l.operand with
  | some (.applied "forall" [.con name []]) =>
    some { l with openings := .forAll name :: l.openings, operand := none }
  | _ => none

def comma (l : Level) : Option Level := l.item?.map fun t => ⟨t :: l.items, [], none⟩

/-- The type between two parentheses; only several components, or none, make a tuple. -/
def enclosed? : Level → Option Ty
  | ⟨[], [], none⟩ => some (.tuple [])
  | l@⟨[], _, _⟩ => l.item?
  | l@⟨items, _, _⟩ => l.item?.map fun t => .tuple (items.reverse ++ [t])

end Level

/-- The level that is being read and those around it. -/
structure State where
  level : Level
  outer : List Level

namespace State

def take (s : State) (o : Operand) : Option State := (s.level.take o).map (⟨·, s.outer⟩)

/-- Read a character that belongs to no name. -/
def sign (s : State) : Char → Option State
  | ' ' | '-' => some s
  | '(' => some ⟨.blank, s.level :: s.outer⟩
  | ')' =>
    match s.outer with
    | [] => none
    | level :: outer => s.level.enclosed?.bind fun t => take ⟨level, outer⟩ (.enclosed t)
  | ',' => s.level.comma.map (⟨·, s.outer⟩)
  | '>' => (s.level.operator .arrow).map (⟨·, s.outer⟩)
  | '~' => (s.level.operator .equality).map (⟨·, s.outer⟩)
  | '.' => s.level.quantifier.map (⟨·, s.outer⟩)
  | _ => none

theorem take_of_none {level : Level} (h : level.operand = none) (outer : List Level)
    (o : Operand) :
    take ⟨level, outer⟩ o = some ⟨{ level with operand := some o }, outer⟩ := by
  simp [take, Level.take, h]

theorem take_of_applied {level : Level} {name : String} {args : List Ty}
    (h : level.operand = some (.applied name args)) (outer : List Level) (o : Operand) :
    take ⟨level, outer⟩ o =
      some ⟨{ level with operand := some (.applied name (o.type :: args)) }, outer⟩ := by
  simp [take, Level.take, h]

theorem sign_close (level enclosing : Level) (outer : List Level) :
    sign ⟨level, enclosing :: outer⟩ ')' =
      level.enclosed?.bind fun t => take ⟨enclosing, outer⟩ (.enclosed t) :=
  rfl

end State

/-- The state in front of the name that is being read, and the name so far, last character first. -/
structure Reader where
  word : List Char
  state : State

namespace Reader

def complete (r : Reader) : Option State :=
  match r.word with
  | [] => some r.state
  | c :: cs => r.state.take (.applied (String.ofList (c :: cs).reverse) [])

/-- Read one more character. -/
def step (r : Reader) (c : Char) : Option Reader :=
  if Ty.isNameChar c then some ⟨c :: r.word, r.state⟩
  else (r.complete.bind (·.sign c)).map (⟨[], ·⟩)

@[simp] theorem complete_idle (s : State) : complete ⟨[], s⟩ = some s := rfl

theorem step_of_sign (r : Reader) {c : Char} (hc : Ty.isNameChar c = false) :
    r.step c = (r.complete.bind (·.sign c)).map (⟨[], ·⟩) := by
  simp [step, hc]

end Reader

/-- The type that a text shows. -/
def read? (text : String) : Option Ty :=
  (text.toList.foldlM Reader.step ⟨[], ⟨.blank, []⟩⟩).bind fun r =>
    r.complete.bind fun s =>
      if s.outer.isEmpty && s.level.items.isEmpty then s.level.item? else none

/-! ### What reading a text does -/

/-- The text brings the reader from one state to the other. A name at its end may still have to be
completed. -/
def Reads (text : List Char) (s s' : State) : Prop :=
  ∃ r, text.foldlM Reader.step ⟨[], s⟩ = some r ∧ r.complete = some s'

section

variable {text text' : List Char} {s s' s'' : State} {c : Char}

theorem reads_nil (s : State) : Reads [] s s := ⟨⟨[], s⟩, rfl, rfl⟩

/-- Whether a name in front of the text ends where the text starts. -/
def endsName : List Char → Bool
  | [] => true
  | c :: _ => !Ty.isNameChar c

/-- Texts are read one after the other, where no name goes on from the first into the second. -/
theorem Reads.append (h : Reads text s s') (hend : endsName text' = true)
    (h' : Reads text' s' s'') : Reads (text ++ text') s s'' := by
  obtain ⟨r, hr, hcomplete⟩ := h
  obtain ⟨r', hr', hcomplete'⟩ := h'
  cases text' with
  | nil =>
    cases hr'
    rw [Reader.complete_idle] at hcomplete'
    exact ⟨r, by rw [List.append_nil, hr], hcomplete.trans hcomplete'⟩
  | cons c cs =>
    have hc : Ty.isNameChar c = false := by simpa [endsName] using hend
    have hstep : r.step c = Reader.step ⟨[], s'⟩ c := by
      rw [Reader.step_of_sign r hc, Reader.step_of_sign _ hc, hcomplete, Reader.complete_idle]
    refine ⟨r', ?_, hcomplete'⟩
    rw [List.foldlM_append, hr]
    simpa [hstep] using hr'

theorem reads_sign (hc : Ty.isNameChar c = false) (hs : s.sign c = some s')
    (h : Reads text s' s'') : Reads (c :: text) s s'' := by
  obtain ⟨r, hr, hcomplete⟩ := h
  refine ⟨r, ?_, hcomplete⟩
  have hstep : Reader.step ⟨[], s⟩ c = some ⟨[], s'⟩ := by
    rw [Reader.step_of_sign _ hc, Reader.complete_idle, Option.bind_some, hs, Option.map_some]
  simpa [hstep] using hr

theorem foldlM_step_name (word name : List Char) (s : State)
    (h : ∀ c ∈ name, Ty.isNameChar c = true) :
    name.foldlM Reader.step ⟨word, s⟩ = some ⟨name.reverse ++ word, s⟩ := by
  induction name generalizing word with
  | nil => rfl
  | cons c cs ih =>
    have hstep : Reader.step ⟨word, s⟩ c = some ⟨c :: word, s⟩ := by
      simp [Reader.step, h c List.mem_cons_self]
    rw [List.foldlM_cons, hstep, Option.bind_eq_bind, Option.bind_some,
      ih _ fun d hd => h d (List.mem_cons_of_mem _ hd)]
    simp

theorem reads_name {name : String} (hname : Ty.isName name = true)
    (hs : s.take (.applied name []) = some s') : Reads name.toList s s' := by
  simp only [Ty.isName, Bool.and_eq_true, Bool.not_eq_true', List.isEmpty_eq_false_iff,
    List.all_eq_true] at hname
  refine ⟨_, foldlM_step_name [] name.toList s hname.2, ?_⟩
  rw [List.append_nil]
  cases hword : name.toList.reverse with
  | nil => exact absurd (List.reverse_eq_nil_iff.1 hword) hname.1
  | cons c cs =>
    have hlist : String.ofList (c :: cs).reverse = name := by
      rw [← hword, List.reverse_reverse, String.ofList_toList]
    rw [← hs, ← hlist]
    rfl

end

/-! ### Texts at a position -/

/-- What reading a text does where a part stands at the position: an argument is an operand wherever
one can be read, the side of an operator is an operand behind an opening, and a type by itself ends
what was open. -/
def ReadsAt : Position → List Char → Ty → Prop
  | .argument, text, t =>
    ∃ o : Operand, o.type = t ∧ ∀ s s', s.take o = some s' → Reads text s s'
  | .side, text, t =>
    ∃ o : Operand, o.type = t ∧ ∀ level outer, level.operand = none →
      Reads text ⟨level, outer⟩ ⟨{ level with operand := some o }, outer⟩
  | .top, text, t =>
    ∀ level outer, level.operand = none → ∃ level', Reads text ⟨level, outer⟩ ⟨level', outer⟩ ∧
      level'.items = level.items ∧ level'.item? = some (level.around t)

section

variable {text : List Char} {t : Ty}

theorem ReadsAt.side_of_argument (h : ReadsAt .argument text t) : ReadsAt .side text t := by
  obtain ⟨o, ho, hreads⟩ := h
  exact ⟨o, ho, fun level outer hlevel => hreads _ _ (State.take_of_none hlevel outer o)⟩

theorem ReadsAt.top_of_side (h : ReadsAt .side text t) : ReadsAt .top text t := by
  obtain ⟨o, rfl, hreads⟩ := h
  intro level outer hlevel
  exact ⟨_, hreads level outer hlevel, rfl, rfl⟩

theorem Level.enclosed?_of_item? {level : Level} (hitems : level.items = [])
    (hitem : level.item? = some t) : level.enclosed? = some t := by
  obtain ⟨items, openings, operand⟩ := level
  subst hitems
  cases operand with
  | none => cases hitem
  | some o => cases openings <;> exact hitem

theorem ReadsAt.enclosed (h : ReadsAt .top text t) :
    ReadsAt .argument ('(' :: (text ++ [')'])) t := by
  refine ⟨.enclosed t, rfl, fun s s' hs => ?_⟩
  obtain ⟨level', hreads, hitems, hitem⟩ := h .blank (s.level :: s.outer) rfl
  have hclose : State.sign ⟨level', s.level :: s.outer⟩ ')' = some s' := by
    rw [State.sign_close, Level.enclosed?_of_item? hitems hitem]
    exact hs
  exact reads_sign rfl rfl (hreads.append rfl (reads_sign rfl hclose (reads_nil s')))

theorem ReadsAt.top {position : Position} (h : ReadsAt position text t) :
    ReadsAt .top text t := by
  cases position with
  | argument => exact h.side_of_argument.top_of_side
  | side => exact h.top_of_side
  | top => exact h

/-- What is an operand anywhere can stand at each position. -/
theorem ReadsAt.anywhere (h : ReadsAt .argument text t) (position : Position) :
    ReadsAt position text t := by
  cases position with
  | argument => exact h
  | side => exact h.side_of_argument
  | top => exact h.top

end

section

variable {text : String} {t : Ty}

theorem toList_parenthesized (brackets : Bool) (text : String) :
    (parenthesized brackets text).toList =
      if brackets then '(' :: (text.toList ++ [')']) else text.toList := by
  cases brackets <;> simp [parenthesized]

/-- The text of an operator, with the parentheses that its position asks for. -/
theorem ReadsAt.operator (h : ReadsAt .top text.toList t) (position : Position) :
    ReadsAt position (parenthesized position.bracketsOperators text).toList t := by
  rw [toList_parenthesized]
  cases position with
  | top => exact h
  | side => exact h.enclosed.side_of_argument
  | argument => exact h.enclosed

/-- The text of an application, with the parentheses that its position asks for. -/
theorem ReadsAt.application (h : ReadsAt .side text.toList t) (position : Position) :
    ReadsAt position (parenthesized position.bracketsApplications text).toList t := by
  rw [toList_parenthesized]
  cases position with
  | top => exact h.top
  | side => exact h
  | argument => exact h.top.enclosed

end

end TypeReader

end CoreProver
