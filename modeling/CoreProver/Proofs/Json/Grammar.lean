import CoreProver.Json.Printer
import CoreProver.Json.Reader
import Mathlib.Data.List.DropRight
import Mathlib.Tactic.Common

/-!
# The grammar of JSON texts

Rules for the texts of a value, with white space wherever the grammar has it. Every text that the
rules give to a value is read as this value.
-/

namespace CoreProver.Json

/-! ### Rules -/

/-- White space, or nothing. -/
def Blank (s : List Char) : Prop := ∀ c ∈ s, isSpace c = true

/-- What may stand between the quotes of a string. -/
inductive StringBody : List Char → Prop
  | nil : StringBody []
  | plain {c : Char} {s : List Char} (hquote : c ≠ '"') (hescape : c ≠ '\\')
      (hcontrol : 0x20 ≤ c.toNat) (h : StringBody s) : StringBody (c :: s)
  | short {c : Char} {s : List Char} (hc : (shortEscape? c).isSome = true) (h : StringBody s) :
      StringBody ('\\' :: c :: s)
  | numbered {a b c d : Char} {s : List Char} (hhex : (Text.ofHex? [a, b, c, d]).isSome = true)
      (h : StringBody s) : StringBody ('\\' :: 'u' :: a :: b :: c :: d :: s)

/-- Digits, one at least. -/
structure Digits (s : List Char) : Prop where
  ne_nil : s ≠ []
  isDigit : ∀ c ∈ s, c.isDigit = true

inductive WholePart : List Char → Prop
  | zero : WholePart ['0']
  | digits {c : Char} {s : List Char} (hzero : c ≠ '0') (h : Digits (c :: s)) : WholePart (c :: s)

/-- The point and the digits behind it, or nothing. -/
inductive FractionPart : List Char → Prop
  | none : FractionPart []
  | digits {s : List Char} (h : Digits s) : FractionPart ('.' :: s)

/-- The exponent, or nothing. -/
inductive ExponentPart : List Char → Prop
  | none : ExponentPart []
  | unsigned {e : Char} {s : List Char} (he : e = 'e' ∨ e = 'E') (h : Digits s) :
      ExponentPart (e :: s)
  | signed {e sign : Char} {s : List Char} (he : e = 'e' ∨ e = 'E')
      (hsign : sign = '+' ∨ sign = '-') (h : Digits s) : ExponentPart (e :: sign :: s)

/-- The literal of a number without its sign. -/
inductive UnsignedText : List Char → Prop
  | mk {whole fraction exponent : List Char} (hw : WholePart whole) (hf : FractionPart fraction)
      (he : ExponentPart exponent) : UnsignedText (whole ++ (fraction ++ exponent))

inductive NumberText : List Char → Prop
  | unsigned {s : List Char} (h : UnsignedText s) : NumberText s
  | negative {s : List Char} (h : UnsignedText s) : NumberText ('-' :: s)

/-- A key in quotes, with white space around it. -/
inductive WrittenKey : String → List Char → Prop
  | mk {key : String} {left right : List Char} (hl : Blank left) (hkey : StringBody key.toList)
      (hr : Blank right) : WrittenKey key (left ++ (quoted key ++ right))

mutual

/-- The texts of a value. -/
inductive Written : Json → List Char → Prop
  | null : Written .null ['n', 'u', 'l', 'l']
  | isTrue : Written (.bool true) ['t', 'r', 'u', 'e']
  | isFalse : Written (.bool false) ['f', 'a', 'l', 's', 'e']
  | number {literal : String} (h : NumberText literal.toList) :
      Written (.number literal) literal.toList
  | string {literal : String} (h : StringBody literal.toList) :
      Written (.string literal) (quoted literal)
  | emptyArray {s : List Char} (hs : Blank s) : Written (.array []) ('[' :: (s ++ [']']))
  | array {elements : List Json} {s : List Char} (h : WrittenElements elements s) :
      Written (.array elements) ('[' :: (s ++ [']']))
  | emptyObject {s : List Char} (hs : Blank s) :
      Written (.object []) ('\x7b' :: (s ++ ['\x7d']))
  | object {members : List (String × Json)} {s : List Char} (h : WrittenMembers members s) :
      Written (.object members) ('\x7b' :: (s ++ ['\x7d']))

/-- The texts of a value with white space around it. -/
inductive WrittenSpaced : Json → List Char → Prop
  | mk {value : Json} {left s right : List Char} (hl : Blank left) (h : Written value s)
      (hr : Blank right) : WrittenSpaced value (left ++ (s ++ right))

/-- The texts between the brackets of an array that is not empty. -/
inductive WrittenElements : List Json → List Char → Prop
  | last {value : Json} {s : List Char} (h : WrittenSpaced value s) : WrittenElements [value] s
  | more {value : Json} {rest : List Json} {s t : List Char} (h : WrittenSpaced value s)
      (ht : WrittenElements rest t) : WrittenElements (value :: rest) (s ++ ',' :: t)

/-- The texts between the braces of an object that is not empty. -/
inductive WrittenMembers : List (String × Json) → List Char → Prop
  | last {key : String} {value : Json} {k s : List Char} (hk : WrittenKey key k)
      (h : WrittenSpaced value s) : WrittenMembers [(key, value)] (k ++ ':' :: s)
  | more {key : String} {value : Json} {rest : List (String × Json)} {k s t : List Char}
      (hk : WrittenKey key k) (h : WrittenSpaced value s) (ht : WrittenMembers rest t) :
      WrittenMembers ((key, value) :: rest) (k ++ ':' :: (s ++ ',' :: t))

end

/-! ### White space and what ends a value -/

def StartsSolid (s : List Char) : Prop := ∀ c ∈ s.head?, isSpace c = false

/-- The text does not go on with a number: it is over, or starts with white space, a comma or a
closing bracket. -/
def EndsValue (s : List Char) : Prop :=
  ∀ c ∈ s.head?, isSpace c = true ∨ c = ',' ∨ c = ']' ∨ c = '\x7d'

theorem eq_of_isSpace {c : Char} (h : isSpace c = true) :
    c = ' ' ∨ c = '\n' ∨ c = '\t' ∨ c = '\r' := by
  simpa [isSpace, or_assoc] using h

theorem blank_nil : Blank [] := fun _ h => absurd h List.not_mem_nil

theorem skipSpace_of_startsSolid {s : List Char} (hs : StartsSolid s) : skipSpace s = s := by
  cases s with
  | nil => rfl
  | cons c s => simp [skipSpace, hs c rfl]

theorem skipSpace_append {left s : List Char} (hl : Blank left) (hs : StartsSolid s) :
    skipSpace (left ++ s) = s := by
  rw [skipSpace, List.dropWhile_append_of_pos hl]
  exact skipSpace_of_startsSolid hs

theorem endsValue_append {right rest : List Char} (hr : Blank right) (hrest : EndsValue rest) :
    EndsValue (right ++ rest) := by
  cases right with
  | nil => exact hrest
  | cons c right =>
    intro d hd
    obtain rfl : c = d := by simpa using hd
    exact .inl (hr c List.mem_cons_self)

/-! ### Strings -/

theorem stringLiteral?_append {body : List Char} (h : StringBody body) (rest : List Char) :
    stringLiteral? (body ++ '"' :: rest) = some (body, rest) := by
  induction h with
  | nil => simp [stringLiteral?]
  | plain hquote hescape hcontrol _ ih =>
    rw [List.cons_append, stringLiteral?, ih]
    · simp [hescape, hcontrol]
    all_goals simp_all
  | @short c s hc _ ih =>
    have hu : c ≠ 'u' := by
      rintro rfl
      simp [shortEscape?] at hc
    rw [List.cons_append, List.cons_append, stringLiteral?, if_pos hc, ih]
    · rfl
    · rintro _ _ _ _ _ rfl
      exact absurd rfl hu
  | numbered hhex _ ih => simp [stringLiteral?, hhex, ih]

/-! ### Numbers -/

/-- The text does not start with a digit. -/
def StartsNoDigit (s : List Char) : Prop := ∀ c ∈ s.head?, c.isDigit = false

theorem digits?_append {digits rest : List Char} (h : Digits digits) (hrest : StartsNoDigit rest) :
    digits? (digits ++ rest) = some (digits, rest) := by
  have htake : rest.takeWhile Char.isDigit = [] := by
    cases rest with
    | nil => rfl
    | cons c rest => simp [hrest c rfl]
  have hdrop : rest.dropWhile Char.isDigit = rest := by
    cases rest with
    | nil => rfl
    | cons c rest => simp [hrest c rfl]
  simp [digits?, List.takeWhile_append_of_pos h.isDigit, List.dropWhile_append_of_pos h.isDigit,
    htake, hdrop, h.ne_nil]

theorem EndsValue.startsNoDigit {rest : List Char} (h : EndsValue rest) : StartsNoDigit rest := by
  intro c hc
  rcases h c hc with hspace | rfl | rfl | rfl
  · rcases eq_of_isSpace hspace with rfl | rfl | rfl | rfl <;> decide
  all_goals decide

/-- A text that starts with none of the characters has no part that starts with them. -/
theorem EndsValue.head_ne {c : Char} {rest : List Char} (h : EndsValue (c :: rest)) :
    c ≠ '.' ∧ c ≠ 'e' ∧ c ≠ 'E' := by
  rcases h c rfl with hspace | rfl | rfl | rfl
  · rcases eq_of_isSpace hspace with rfl | rfl | rfl | rfl <;> decide
  all_goals decide

theorem signedDigits?_append {digits rest : List Char} (h : Digits digits)
    (hrest : StartsNoDigit rest) : signedDigits? (digits ++ rest) = some (digits, rest) := by
  rw [← digits?_append h hrest]
  cases digits with
  | nil => exact absurd rfl h.ne_nil
  | cons c digits =>
    have hc : c.isDigit = true := h.isDigit c List.mem_cons_self
    rw [List.cons_append, signedDigits?]
    all_goals
      intro _ heq
      obtain ⟨rfl, -⟩ := List.cons.inj heq
      exact absurd hc (by decide)

theorem exponentPart?_append {exponent rest : List Char} (h : ExponentPart exponent)
    (hrest : EndsValue rest) : exponentPart? (exponent ++ rest) = some (exponent, rest) := by
  have hnoDigit := hrest.startsNoDigit
  cases h with
  | none =>
    cases rest with
    | nil => rfl
    | cons c rest =>
      obtain ⟨-, he, hE⟩ := hrest.head_ne
      simp [exponentPart?, he, hE]
  | unsigned he h =>
    rcases he with rfl | rfl <;> simp [exponentPart?, signedDigits?_append h hnoDigit]
  | signed he hsign h =>
    rcases he with rfl | rfl <;> rcases hsign with rfl | rfl <;>
      simp [exponentPart?, signedDigits?, digits?_append h hnoDigit]

/-- Neither an exponent nor the end of a value goes on with a digit or a point. -/
theorem head_exponentPart_append {exponent rest : List Char} (h : ExponentPart exponent)
    (hrest : EndsValue rest) : ∀ c ∈ (exponent ++ rest).head?, c.isDigit = false ∧ c ≠ '.' := by
  intro c hc
  cases h with
  | none =>
    cases rest with
    | nil => simp at hc
    | cons d rest =>
      obtain rfl : d = c := by simpa using hc
      exact ⟨hrest.startsNoDigit d rfl, hrest.head_ne.1⟩
  | unsigned he h | signed he hsign h =>
    obtain rfl : _ = c := by simpa using hc
    rcases he with rfl | rfl <;> decide

theorem fractionPart?_append {fraction exponent rest : List Char} (h : FractionPart fraction)
    (he : ExponentPart exponent) (hrest : EndsValue rest) :
    fractionPart? (fraction ++ (exponent ++ rest)) = some (fraction, exponent ++ rest) := by
  have hhead := head_exponentPart_append he hrest
  cases h with
  | none =>
    cases htail : exponent ++ rest with
    | nil => rfl
    | cons c tail =>
      have hpoint : c ≠ '.' := (hhead c (by rw [htail]; rfl)).2
      simp [fractionPart?, hpoint]
  | digits h =>
    have hnoDigit : StartsNoDigit (exponent ++ rest) := fun c hc => (hhead c hc).1
    simp [fractionPart?, digits?_append h hnoDigit]

theorem wholePart?_append {whole rest : List Char} (h : WholePart whole)
    (hrest : StartsNoDigit rest) : wholePart? (whole ++ rest) = some (whole, rest) := by
  cases h with
  | zero => rfl
  | digits hzero h =>
    rw [List.cons_append, wholePart?, ← List.cons_append, digits?_append h hrest]
    exact fun _ heq => hzero (List.cons.inj heq).1

theorem startsNoDigit_fractionPart_append {fraction exponent rest : List Char}
    (h : FractionPart fraction) (he : ExponentPart exponent) (hrest : EndsValue rest) :
    StartsNoDigit (fraction ++ (exponent ++ rest)) := by
  cases h with
  | none => exact fun c hc => (head_exponentPart_append he hrest c hc).1
  | digits h =>
    intro c hc
    obtain rfl : '.' = c := by simpa using hc
    decide

theorem unsignedNumber?_append {s rest : List Char} (h : UnsignedText s) (hrest : EndsValue rest) :
    unsignedNumber? (s ++ rest) = some (s, rest) := by
  obtain ⟨hw, hf, he⟩ := h
  rw [List.append_assoc, List.append_assoc, unsignedNumber?,
    wholePart?_append hw (startsNoDigit_fractionPart_append hf he hrest)]
  simp [fractionPart?_append hf he hrest, exponentPart?_append he hrest]

theorem UnsignedText.exists_head {s : List Char} (h : UnsignedText s) :
    ∃ c rest, s = c :: rest ∧ c.isDigit = true := by
  obtain ⟨hw, hf, he⟩ := h
  cases hw with
  | zero => exact ⟨'0', _, rfl, by decide⟩
  | digits hzero h => exact ⟨_, _, rfl, h.isDigit _ List.mem_cons_self⟩

theorem NumberText.exists_head {s : List Char} (h : NumberText s) :
    ∃ c rest, s = c :: rest ∧ (c.isDigit = true ∨ c = '-') := by
  cases h with
  | unsigned h =>
    obtain ⟨c, rest, rfl, hc⟩ := h.exists_head
    exact ⟨c, rest, rfl, .inl hc⟩
  | negative h => exact ⟨'-', _, rfl, .inr rfl⟩

theorem numberLiteral?_append {s rest : List Char} (h : NumberText s) (hrest : EndsValue rest) :
    numberLiteral? (s ++ rest) = some (s, rest) := by
  cases h with
  | unsigned h =>
    have hread := unsignedNumber?_append h hrest
    obtain ⟨c, tail, rfl, hc⟩ := h.exists_head
    rw [List.cons_append, numberLiteral?, ← List.cons_append, hread]
    intro _ heq
    obtain ⟨rfl, -⟩ := List.cons.inj heq
    exact absurd hc (by decide)
  | negative h => simp [numberLiteral?, unsignedNumber?_append h hrest]

theorem atom?_number_append {s rest : List Char} (h : NumberText s) (hrest : EndsValue rest) :
    atom? (s ++ rest) = some (.number (String.ofList s), rest) := by
  have hread := numberLiteral?_append h hrest
  obtain ⟨c, tail, rfl, hc⟩ := h.exists_head
  rw [List.cons_append, atom?, ← List.cons_append, hread]
  · rfl
  all_goals
    intro _ heq
    obtain ⟨rfl, -⟩ := List.cons.inj heq
    rcases hc with hc | hc <;> exact absurd hc (by decide)

/-! ### Values -/

@[simp] theorem skipSpace_skipSpace (s : List Char) : skipSpace (skipSpace s) = skipSpace s :=
  List.dropWhile_idempotent _ _

theorem elements?_skipSpace (budget : Nat) (s : List Char) :
    elements? budget (skipSpace s) = elements? budget s := by
  have hvalue (n : Nat) : value? n (skipSpace s) = value? n s := by
    cases n <;> simp [value?]
  cases budget <;> simp [elements?, hvalue]

theorem members?_skipSpace (budget : Nat) (s : List Char) :
    members? budget (skipSpace s) = members? budget s := by
  cases budget <;> simp [members?]

/-- A value starts with a character that is no white space and closes nothing. -/
theorem Written.exists_head {value : Json} {s : List Char} (h : Written value s) :
    ∃ c rest, s = c :: rest ∧ isSpace c = false ∧ c ≠ ']' := by
  cases h with
  | number h =>
    obtain ⟨c, rest, hs, hc⟩ := h.exists_head
    refine ⟨c, rest, hs, ?_, ?_⟩
    · by_contra hspace
      rcases eq_of_isSpace (by simpa using hspace) with rfl | rfl | rfl | rfl <;> revert hc <;>
        decide
    · rintro rfl
      revert hc
      decide
  | null | isTrue | isFalse | string _ | emptyArray _ | array _ | emptyObject _ | object _ =>
    exact ⟨_, _, rfl, by decide, by decide⟩

theorem Written.startsSolid {value : Json} {s : List Char} (h : Written value s)
    (rest : List Char) : StartsSolid (s ++ rest) := by
  obtain ⟨c, tail, rfl, hc, -⟩ := h.exists_head
  intro d hd
  obtain rfl : c = d := by simpa using hd
  exact hc

/-- The elements of an array do not start with its closing bracket. -/
theorem WrittenElements.exists_head {elements : List Json} {s : List Char}
    (h : WrittenElements elements s) (rest : List Char) :
    ∃ c tail, skipSpace (s ++ rest) = c :: tail ∧ c ≠ ']' := by
  have hspaced {value : Json} {s : List Char} (h : WrittenSpaced value s) (rest : List Char) :
      ∃ c tail, skipSpace (s ++ rest) = c :: tail ∧ c ≠ ']' := by
    obtain ⟨hl, hw, hr⟩ := h
    rw [List.append_assoc, List.append_assoc, skipSpace_append hl (hw.startsSolid _)]
    obtain ⟨c, tail, rfl, -, hc⟩ := hw.exists_head
    exact ⟨c, _, rfl, hc⟩
  cases h with
  | last h => exact hspaced h rest
  | more h ht =>
    rw [List.append_assoc]
    exact hspaced h _

theorem WrittenKey.exists_read {key : String} {k : List Char} (h : WrittenKey key k)
    (rest : List Char) :
    ∃ tail right, skipSpace (k ++ ':' :: rest) = '"' :: tail ∧
      stringLiteral? tail = some (key.toList, right) ∧ skipSpace right = ':' :: rest := by
  obtain ⟨hl, hkey, hr⟩ := h
  refine ⟨_, _, ?_, stringLiteral?_append hkey _, skipSpace_append hr ?_⟩
  · rw [List.append_assoc, skipSpace_append hl]
    · simp [quoted]
    · simp [quoted, StartsSolid, isSpace]
  · simp [StartsSolid, isSpace]

theorem WrittenMembers.exists_head {members : List (String × Json)} {s : List Char}
    (h : WrittenMembers members s) (rest : List Char) :
    ∃ tail, skipSpace (s ++ rest) = '"' :: tail := by
  cases h with
  | last hk h =>
    obtain ⟨tail, right, hskip, -⟩ := hk.exists_read (_ ++ rest)
    exact ⟨tail, by rw [List.append_assoc, List.cons_append, hskip]⟩
  | more hk h ht =>
    obtain ⟨tail, right, hskip, -⟩ := hk.exists_read ((_ ++ ',' :: _) ++ rest)
    exact ⟨tail, by rw [List.append_assoc, List.cons_append, hskip]⟩

theorem value?_of_number {budget : Nat} {s : List Char} {c : Char} {tail : List Char}
    (hs : skipSpace s = c :: tail) (hc : c.isDigit = true ∨ c = '-') :
    value? (budget + 1) s = atom? (c :: tail) := by
  have hne : c ≠ '"' ∧ c ≠ '[' ∧ c ≠ '\x7b' := by
    refine ⟨?_, ?_, ?_⟩ <;> rintro rfl <;> revert hc <;> decide
  simp [value?, hs, hne]

theorem value?_of_array {budget : Nat} {s rest : List Char} {c : Char} {tail : List Char}
    (hs : skipSpace s = '[' :: rest) (hrest : skipSpace rest = c :: tail) (hc : c ≠ ']') :
    value? (budget + 1) s =
      (elements? budget rest).map fun (elements, rest) => (.array elements, rest) := by
  rw [← elements?_skipSpace]
  simp [value?, hs, hrest, hc]

theorem value?_of_object {budget : Nat} {s rest tail : List Char}
    (hs : skipSpace s = '\x7b' :: rest) (hrest : skipSpace rest = '"' :: tail) :
    value? (budget + 1) s =
      (members? budget rest).map fun (members, rest) => (.object members, rest) := by
  rw [← members?_skipSpace]
  simp [value?, hs, hrest]

mutual

/-- A text of a value is read as the value, when the budget covers its length. -/
theorem Written.value?_eq {value : Json} {s left rest : List Char} {budget : Nat}
    (h : Written value s) (hbudget : 2 * s.length + 1 ≤ budget) (hl : Blank left)
    (hrest : EndsValue rest) : value? budget (left ++ (s ++ rest)) = some (value, rest) := by
  obtain ⟨budget, rfl⟩ : ∃ n, budget = n + 1 := ⟨budget - 1, by omega⟩
  have hskip := skipSpace_append hl (h.startsSolid rest)
  cases h with
  | null | isTrue | isFalse =>
    rw [value?, hskip]
    rfl
  | number h =>
    have hatom := atom?_number_append h hrest
    obtain ⟨c, tail, hs, hc⟩ := h.exists_head
    rw [hs, List.cons_append] at hskip hatom
    rw [hs, List.cons_append, value?_of_number hskip hc, hatom, ← hs, String.ofList_toList]
  | string h =>
    simp only [quoted, List.cons_append, List.append_assoc, List.nil_append] at hskip ⊢
    simp [value?, hskip, stringLiteral?_append h]
  | @emptyArray s hs =>
    have hclose : skipSpace (s ++ ']' :: rest) = ']' :: rest :=
      skipSpace_append hs (by simp [StartsSolid, isSpace])
    simp only [List.cons_append, List.append_assoc, List.nil_append] at hskip ⊢
    simp [value?, hskip, hclose]
  | @array _ s h =>
    simp only [List.length_cons, List.length_append, List.length_nil] at hbudget
    simp only [List.cons_append, List.append_assoc, List.nil_append] at hskip ⊢
    obtain ⟨c, tail, hhead, hc⟩ := h.exists_head (']' :: rest)
    rw [value?_of_array hskip hhead hc, h.elements?_eq rest (by omega)]
    rfl
  | @emptyObject s hs =>
    have hclose : skipSpace (s ++ '\x7d' :: rest) = '\x7d' :: rest :=
      skipSpace_append hs (by simp [StartsSolid, isSpace])
    simp only [List.cons_append, List.append_assoc, List.nil_append] at hskip ⊢
    simp [value?, hskip, hclose]
  | @object _ s h =>
    simp only [List.length_cons, List.length_append, List.length_nil] at hbudget
    simp only [List.cons_append, List.append_assoc, List.nil_append] at hskip ⊢
    obtain ⟨tail, hhead⟩ := h.exists_head ('\x7d' :: rest)
    rw [value?_of_object hskip hhead, h.members?_eq rest (by omega)]
    rfl

theorem WrittenSpaced.exists_value?_eq {value : Json} {s rest : List Char} {budget : Nat}
    (h : WrittenSpaced value s) (hrest : EndsValue rest) (hbudget : 2 * s.length + 1 ≤ budget) :
    ∃ blank, Blank blank ∧ value? budget (s ++ rest) = some (value, blank ++ rest) := by
  obtain ⟨hl, hw, hr⟩ := h
  refine ⟨_, hr, ?_⟩
  rw [List.append_assoc, List.append_assoc]
  refine hw.value?_eq ?_ hl (endsValue_append hr hrest)
  simp only [List.length_append] at hbudget
  omega

theorem WrittenElements.elements?_eq {elements : List Json} {s : List Char} {budget : Nat}
    (h : WrittenElements elements s) (rest : List Char) (hbudget : 2 * s.length + 2 ≤ budget) :
    elements? budget (s ++ ']' :: rest) = some (elements, rest) := by
  obtain ⟨budget, rfl⟩ : ∃ n, budget = n + 1 := ⟨budget - 1, by omega⟩
  cases h with
  | last h =>
    have hends : EndsValue (']' :: rest) := by simp [EndsValue]
    have hroom : 2 * s.length + 1 ≤ budget := by omega
    obtain ⟨blank, hblank, hvalue⟩ := h.exists_value?_eq hends hroom
    have hskip : skipSpace (blank ++ ']' :: rest) = ']' :: rest :=
      skipSpace_append hblank (by simp [StartsSolid, isSpace])
    simp [elements?, hvalue, hskip]
  | @more _ _ s t h ht =>
    simp only [List.length_append, List.length_cons] at hbudget
    have hends : EndsValue (',' :: (t ++ ']' :: rest)) := by simp [EndsValue]
    have hroom : 2 * s.length + 1 ≤ budget := by omega
    have hroomMore : 2 * t.length + 2 ≤ budget := by omega
    obtain ⟨blank, hblank, hvalue⟩ := h.exists_value?_eq hends hroom
    have hskip : skipSpace (blank ++ ',' :: (t ++ ']' :: rest)) = ',' :: (t ++ ']' :: rest) :=
      skipSpace_append hblank (by simp [StartsSolid, isSpace])
    simp [elements?, hvalue, hskip, ht.elements?_eq rest hroomMore]

theorem WrittenMembers.members?_eq {members : List (String × Json)} {s : List Char}
    {budget : Nat} (h : WrittenMembers members s) (rest : List Char)
    (hbudget : 2 * s.length + 2 ≤ budget) :
    members? budget (s ++ '\x7d' :: rest) = some (members, rest) := by
  obtain ⟨budget, rfl⟩ : ∃ n, budget = n + 1 := ⟨budget - 1, by omega⟩
  cases h with
  | @last key _ k s hk h =>
    simp only [List.length_append, List.length_cons] at hbudget
    have hends : EndsValue ('\x7d' :: rest) := by simp [EndsValue]
    have hroom : 2 * s.length + 1 ≤ budget := by omega
    obtain ⟨blank, hblank, hvalue⟩ := h.exists_value?_eq hends hroom
    have hclose : skipSpace (blank ++ '\x7d' :: rest) = '\x7d' :: rest :=
      skipSpace_append hblank (by simp [StartsSolid, isSpace])
    obtain ⟨tail, right, hquote, hkey, hcolon⟩ := hk.exists_read (s ++ '\x7d' :: rest)
    rw [List.append_assoc, List.cons_append]
    simp [members?, hquote, hkey, hcolon, hvalue, hclose]
  | @more _ _ _ k s t hk h ht =>
    simp only [List.length_append, List.length_cons] at hbudget
    have hends : EndsValue (',' :: (t ++ '\x7d' :: rest)) := by simp [EndsValue]
    have hroom : 2 * s.length + 1 ≤ budget := by omega
    have hroomMore : 2 * t.length + 2 ≤ budget := by omega
    obtain ⟨blank, hblank, hvalue⟩ := h.exists_value?_eq hends hroom
    have hcomma : skipSpace (blank ++ ',' :: (t ++ '\x7d' :: rest)) =
        ',' :: (t ++ '\x7d' :: rest) :=
      skipSpace_append hblank (by simp [StartsSolid, isSpace])
    obtain ⟨tail, right, hquote, hkey, hcolon⟩ :=
      hk.exists_read (s ++ ',' :: (t ++ '\x7d' :: rest))
    simp only [List.append_assoc, List.cons_append]
    simp [members?, hquote, hkey, hcolon, hvalue, hcomma, ht.members?_eq rest hroomMore]

end

/-- A text of a value is read as the value. -/
theorem WrittenSpaced.parseChars?_eq {value : Json} {s : List Char} (h : WrittenSpaced value s) :
    parseChars? s = some value := by
  have hends : EndsValue [] := by simp [EndsValue]
  obtain ⟨blank, hblank, hvalue⟩ := h.exists_value?_eq hends le_rfl
  have hend : skipSpace (blank ++ []) = [] := skipSpace_append hblank (by simp [StartsSolid])
  simp only [List.append_nil] at hvalue hend
  simp [parseChars?, hvalue, hend]

end CoreProver.Json
