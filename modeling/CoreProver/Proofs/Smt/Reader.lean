import CoreProver.Text.Numeral
import Mathlib.Tactic.Common

/-!
# Reading the solver's language

S-expressions as the SMT-LIB standard has them: words between breaks, quoted symbols, texts,
comments and lists. The reader goes through the text character by character. `Spells` says that a
text is read as a sequence of expressions wherever it stands; it is closed under lists and blanks.
-/

namespace CoreProver.Smt

/-- What has no parts. -/
inductive Atom where
  | symbol (name : String)
  /-- A name behind a colon. -/
  | keyword (name : String)
  | numeral (value : Nat)
  | decimal (digits : String)
  | hexadecimal (digits : List Char)
  | binary (digits : List Char)
  | text (value : String)
  deriving Repr, DecidableEq

/-- An S-expression. -/
inductive SExpr where
  | atom (a : Atom)
  | list (items : List SExpr)
  deriving Repr

def SExpr.symbol (name : String) : SExpr := .atom (.symbol name)

/-- Blanks end a word and mean nothing else. -/
def isBlank (c : Char) : Bool := c = ' ' || c = '\t' || c = '\n' || c = '\r'

/-- Characters that end a word. -/
def isBreak (c : Char) : Bool :=
  isBlank c || c = '(' || c = ')' || c = ';' || c = '"' || c = '|'

/-- Characters of simple symbols. -/
def isSymbolChar (c : Char) : Bool :=
  c.isAlphanum || "~!@$%^&*_-+=<>.?/".toList.contains c

def isSimpleSymbol : List Char → Bool
  | [] => false
  | c :: cs => !c.isDigit && (c :: cs).all isSymbolChar

/-- Whether a word is a numeral: only zero starts with the digit zero. -/
def isNumeral : List Char → Bool
  | [] => false
  | c :: cs => (c :: cs).all Char.isDigit && (c ≠ '0' || cs.isEmpty)

def isDecimal (word : List Char) : Bool :=
  isNumeral (word.takeWhile Char.isDigit) &&
    match word.dropWhile Char.isDigit with
    | '.' :: digits => !digits.isEmpty && digits.all Char.isDigit
    | _ => false

/-- The atom that a word is. -/
def Atom.ofWord? (word : List Char) : Option Atom :=
  if isSimpleSymbol word then some (.symbol (String.ofList word))
  else if isNumeral word then some (.numeral (Nat.ofDigitChars 10 word 0))
  else if isDecimal word then some (.decimal (String.ofList word))
  else match word with
    | '#' :: 'x' :: digits =>
      if !digits.isEmpty && digits.all (fun c => (Text.hexDigit? c).isSome) then
        some (.hexadecimal digits)
      else none
    | '#' :: 'b' :: digits =>
      if !digits.isEmpty && digits.all (fun c => c = '0' || c = '1') then some (.binary digits)
      else none
    | ':' :: name => if isSimpleSymbol name then some (.keyword (String.ofList name)) else none
    | _ => none

/-- What the reader is in the middle of; the characters read are kept last first. -/
inductive Scan where
  /-- A word, or the space between words. -/
  | word (read : List Char)
  | quoted (read : List Char)
  | text (read : List Char)
  /-- Behind a quote in a text: another one stands for a quote, anything else ends the text. -/
  | textEnd (read : List Char)
  | comment

/-- How far the reader is: the items of the innermost open list and of those around it, all kept
last first. -/
structure Reader where
  scan : Scan
  items : List SExpr
  outer : List (List SExpr)

namespace Reader

def idle (items : List SExpr) (outer : List (List SExpr)) : Reader := ⟨.word [], items, outer⟩

/-- The reader behind one more item. -/
def push (r : Reader) (a : Atom) : Reader := idle (.atom a :: r.items) r.outer

/-- Complete what the reader is in the middle of. -/
def complete (r : Reader) : Option Reader :=
  match r.scan with
  | .word [] => some r
  | .word (c :: cs) => (Atom.ofWord? (c :: cs).reverse).map r.push
  | .textEnd read => some (r.push (.text (String.ofList read.reverse)))
  | .comment => some (idle r.items r.outer)
  | .quoted _ | .text _ => none

def start (r : Reader) (c : Char) : Option Reader :=
  if isBlank c then some r
  else if c = '(' then some (idle [] (r.items :: r.outer))
  else if c = ')' then
    match r.outer with
    | [] => none
    | items :: outer => some (idle (.list r.items.reverse :: items) outer)
  else if c = ';' then some { r with scan := .comment }
  else if c = '"' then some { r with scan := .text [] }
  else if c = '|' then some { r with scan := .quoted [] }
  else some { r with scan := .word [c] }

/-- Read one more character. -/
def step (r : Reader) (c : Char) : Option Reader :=
  match r.scan with
  | .word read =>
    if isBreak c then r.complete.bind (·.start c) else some { r with scan := .word (c :: read) }
  | .quoted read =>
    if c = '|' then some (r.push (.symbol (String.ofList read.reverse)))
    else if c = '\\' then none
    else some { r with scan := .quoted (c :: read) }
  | .text read =>
    some { r with scan := if c = '"' then .textEnd read else .text (c :: read) }
  | .textEnd read =>
    if c = '"' then some { r with scan := .text ('"' :: read) }
    else r.complete.bind (·.start c)
  | .comment => some (if c = '\n' then idle r.items r.outer else r)

/-- The items when no list is open. -/
def finish (r : Reader) : Option (List SExpr) :=
  r.complete.bind fun r => if r.outer.isEmpty then some r.items.reverse else none

end Reader

/-- The expressions that a text consists of. -/
def read? (text : List Char) : Option (List SExpr) :=
  (text.foldlM Reader.step (.idle [] [])).bind Reader.finish

/-! ### Texts that spell expressions -/

/-- Wherever the reader is between words, the text brings it behind these expressions. Its last word
may still have to be completed. -/
def Spells (text : List Char) (es : List SExpr) : Prop :=
  ∀ items outer, ∃ r : Reader, text.foldlM Reader.step (.idle items outer) = some r ∧
    (∃ read, r.scan = .word read) ∧ r.complete = some (.idle (es.reverse ++ items) outer)

theorem Reader.step_of_break {r : Reader} {read : List Char} {c : Char} (h : r.scan = .word read)
    (hc : isBreak c = true) : r.step c = r.complete.bind (·.start c) := by
  simp [step, h, hc]

theorem isBreak_of_isBlank {c : Char} (h : isBlank c = true) : isBreak c = true := by
  simp [isBreak, h]

theorem Spells.read? {text : List Char} {es : List SExpr} (h : Spells text es) :
    read? text = some es := by
  obtain ⟨r, hr, -, hc⟩ := h [] []
  rw [Smt.read?, hr, Option.bind_some, Reader.finish, hc]
  simp [Reader.idle]

theorem spells_nil : Spells [] [] := by
  intro items outer
  exact ⟨.idle items outer, rfl, ⟨[], rfl⟩, rfl⟩

/-- Two spellings with a blank between them spell the expressions of both. -/
theorem Spells.append {text text' : List Char} {es es' : List SExpr} {c : Char}
    (h : Spells text es) (hc : isBlank c = true) (h' : Spells text' es') :
    Spells (text ++ c :: text') (es ++ es') := by
  intro items outer
  obtain ⟨r, hr, ⟨read, hscan⟩, hcomplete⟩ := h items outer
  obtain ⟨r', hr', hscan', hcomplete'⟩ := h' (es.reverse ++ items) outer
  refine ⟨r', ?_, hscan', ?_⟩
  · have hstep : r.step c = some (.idle (es.reverse ++ items) outer) := by
      rw [Reader.step_of_break hscan (isBreak_of_isBlank hc), hcomplete]
      simp [Reader.start, hc]
    simp [List.foldlM_append, hr, hstep, hr']
  · rw [hcomplete', List.reverse_append, List.append_assoc]

/-- A spelling in parentheses spells the list of its expressions. -/
theorem Spells.list {text : List Char} {es : List SExpr} (h : Spells text es) :
    Spells ('(' :: (text ++ [')'])) [.list es] := by
  intro items outer
  obtain ⟨r, hr, ⟨read, hscan⟩, hcomplete⟩ := h [] (items :: outer)
  refine ⟨.idle (.list es :: items) outer, ?_, ⟨[], rfl⟩, rfl⟩
  have hopen : (Reader.idle items outer).step '(' = some (.idle [] (items :: outer)) := rfl
  have hclose : r.step ')' = some (.idle (.list es :: items) outer) := by
    rw [Reader.step_of_break hscan rfl, hcomplete]
    simp [Reader.start, Reader.idle, isBlank]
  simp [List.foldlM_append, hopen, hr, hclose]

theorem Reader.foldlM_step_word (read word : List Char) (items : List SExpr)
    (outer : List (List SExpr)) (h : ∀ c ∈ word, isBreak c = false) :
    word.foldlM Reader.step ⟨.word read, items, outer⟩ =
      some ⟨.word (word.reverse ++ read), items, outer⟩ := by
  induction word generalizing read with
  | nil => rfl
  | cons c cs ih =>
    have hstep : Reader.step ⟨.word read, items, outer⟩ c =
        some ⟨.word (c :: read), items, outer⟩ := by
      simp [Reader.step, h c List.mem_cons_self]
    rw [List.foldlM_cons, hstep, Option.bind_eq_bind, Option.bind_some,
      ih _ fun d hd => h d (List.mem_cons_of_mem _ hd)]
    simp

theorem spells_word {word : List Char} {a : Atom} (h : ∀ c ∈ word, isBreak c = false)
    (ha : Atom.ofWord? word = some a) : Spells word [.atom a] := by
  intro items outer
  refine ⟨_, Reader.foldlM_step_word [] word items outer h, ⟨_, rfl⟩, ?_⟩
  cases hw : word.reverse with
  | nil =>
    rw [List.reverse_eq_nil_iff.1 hw] at ha
    cases ha
  | cons c cs =>
    have hword : (c :: cs).reverse = word := by rw [← hw, List.reverse_reverse]
    simp only [Reader.complete, List.append_nil, hword, ha, Option.map_some]
    rfl

end CoreProver.Smt
