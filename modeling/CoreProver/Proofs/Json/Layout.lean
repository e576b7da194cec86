import CoreProver.Proofs.Json.Grammar
import CoreProver.Proofs.Json.Members
import CoreProver.Proofs.Symbols

/-!
# Written values and the nesting of their texts

A value whose literals obey the grammar is written as a text of the grammar. The nesting of a text,
found by one pass over its characters, is the depth of the value it stands for.
-/

namespace CoreProver.Json

/-! ### Literals -/

/-- A character is written as the grammar has it. -/
theorem StringBody.escapeChar_append {s : List Char} (h : StringBody s) (c : Char) :
    StringBody (escapeChar c ++ s) := by
  unfold escapeChar
  split_ifs with h1 h2 h3 h4 h5 h6 h7 h8
  -- seven characters have short escapes
  iterate 7 exact .short (by decide) h
  · obtain ⟨a, b, d, e, hdigits, hvalue⟩ := Json.ofHex?_padded h8
    rw [hdigits]
    exact .numbered (by rw [hvalue]; rfl) h
  · exact .plain h1 h2 (Nat.le_of_not_lt h8) h

theorem stringBody_escape (s : List Char) : StringBody (escape s) := by
  induction s with
  | nil => exact .nil
  | cons c s ih => exact ih.escapeChar_append c

theorem unsignedText_toDigits (n : Nat) : UnsignedText (Nat.toDigits 10 n) := by
  have hwhole : WholePart (Nat.toDigits 10 n) := by
    rcases Nat.eq_zero_or_pos n with rfl | hn
    · exact .zero
    · have hhead := Text.head?_toDigits_ne_zero hn
      have hdigit : ∀ c ∈ Nat.toDigits 10 n, c.isDigit = true :=
        fun c hc => Nat.isDigit_of_mem_toDigits (by decide) (by decide) hc
      cases hdigits : Nat.toDigits 10 n with
      | nil => exact absurd hdigits Nat.toDigits_ne_nil
      | cons c digits =>
        rw [hdigits] at hhead hdigit
        exact .digits (by simpa using hhead) ⟨List.cons_ne_nil _ _, hdigit⟩
  simpa using UnsignedText.mk hwhole .none .none

theorem numberText_decimal (n : Int) : NumberText (Text.decimal n) := by
  cases n with
  | ofNat n => exact .unsigned (unsignedText_toDigits n)
  | negSucc n => exact .negative (unsignedText_toDigits (n + 1))

/-! ### Values over several lines -/

mutual

/-- All literals of a value obey the grammar. -/
@[simp] def Grammatical : Json → Prop
  | .number literal => NumberText literal.toList
  | .string literal => StringBody literal.toList
  | .array elements => GrammaticalElements elements
  | .object members => GrammaticalMembers members
  | _ => True

@[simp] def GrammaticalElements : List Json → Prop
  | [] => True
  | value :: rest => value.Grammatical ∧ GrammaticalElements rest

/-- All keys and the literals of all values obey the grammar. -/
@[simp] def GrammaticalMembers : List (String × Json) → Prop
  | [] => True
  | (key, value) :: rest =>
    StringBody key.toList ∧ value.Grammatical ∧ GrammaticalMembers rest

end

theorem blank_newline (level : Nat) : Blank (newline level) := by
  intro c hc
  rcases List.mem_cons.1 hc with rfl | hc
  · decide
  · obtain rfl := List.eq_of_mem_replicate hc
    decide

mutual

theorem written_prettyChars {value : Json} (h : value.Grammatical) (level : Nat) :
    Written value (value.prettyChars level) := by
  match value with
  | .null => exact .null
  | .bool true => exact .isTrue
  | .bool false => exact .isFalse
  | .number literal => exact .number h
  | .string literal => exact .string h
  | .array [] => exact .emptyArray blank_nil
  | .array (value :: rest) =>
    obtain ⟨t, ht, helements⟩ := exists_written_prettyElements h.2 level
    have hvalue := written_prettyChars h.1 (level + 1)
    have hwritten := Written.array (helements (blank_newline (level + 1)) hvalue)
    simpa [prettyChars, ht] using hwritten
  | .object [] => exact .emptyObject blank_nil
  | .object ((key, value) :: rest) =>
    obtain ⟨t, ht, hmembers⟩ := exists_written_prettyMembers h.2.2 level
    have hvalue := written_prettyChars h.2.1 (level + 1)
    have hwritten := Written.object (hmembers (blank_newline (level + 1)) h.1 hvalue)
    simpa [prettyChars, ht] using hwritten

theorem exists_written_prettyElements {rest : List Json} (h : GrammaticalElements rest)
    (level : Nat) :
    ∃ t, prettyElements level rest = t ++ [']'] ∧
      ∀ {value : Json} {left s : List Char}, Blank left → Written value s →
        WrittenElements (value :: rest) (left ++ (s ++ t)) := by
  match rest with
  | [] =>
    exact ⟨newline level, rfl, fun hl hs => .last (.mk hl hs (blank_newline level))⟩
  | next :: rest =>
    obtain ⟨t, ht, helements⟩ := exists_written_prettyElements h.2 level
    have hnext := helements (blank_newline (level + 1)) (written_prettyChars h.1 (level + 1))
    refine ⟨',' :: (newline (level + 1) ++ (next.prettyChars (level + 1) ++ t)), ?_, ?_⟩
    · simp [prettyElements, ht]
    · intro value left s hl hs
      simpa using WrittenElements.more (.mk hl hs blank_nil) hnext

theorem exists_written_prettyMembers {rest : List (String × Json)} (h : GrammaticalMembers rest)
    (level : Nat) :
    ∃ t, prettyMembers level rest = t ++ ['\x7d'] ∧
      ∀ {key : String} {value : Json} {left s : List Char}, Blank left → StringBody key.toList →
        Written value s →
        WrittenMembers ((key, value) :: rest)
          (left ++ (quoted key ++ ':' :: ' ' :: (s ++ t))) := by
  have hblank : Blank [' '] := by simp [Blank, isSpace]
  match rest with
  | [] =>
    refine ⟨newline level, rfl, ?_⟩
    intro key value left s hl hkey hs
    simpa using WrittenMembers.last (.mk hl hkey blank_nil) (.mk hblank hs (blank_newline level))
  | (nextKey, next) :: rest =>
    obtain ⟨t, ht, hmembers⟩ := exists_written_prettyMembers h.2.2 level
    have hnext :=
      hmembers (blank_newline (level + 1)) h.1 (written_prettyChars h.2.1 (level + 1))
    refine ⟨',' :: (newline (level + 1) ++ (quoted nextKey ++ ':' :: ' ' ::
      (next.prettyChars (level + 1) ++ t))), ?_, ?_⟩
    · simp [prettyMembers, ht]
    · intro key value left s hl hkey hs
      simpa using WrittenMembers.more (.mk hl hkey blank_nil) (.mk hblank hs blank_nil) hnext

end

/-- A value is written as a text of the grammar. -/
theorem writtenSpaced_pretty {value : Json} (h : value.Grammatical) :
    WrittenSpaced value value.pretty.toList := by
  simpa [pretty] using WrittenSpaced.mk blank_nil (written_prettyChars h 0) blank_nil

/-! ### Nesting of texts -/

/-- Where a pass over a text stands: outside strings, in a string, or behind a backslash in one. -/
inductive Phase where
  | outside
  | inString
  | escaped
  deriving Repr, DecidableEq

/-- The state of a pass that counts open brackets and braces. -/
structure Scan where
  phase : Phase
  level : Nat
  deepest : Nat
  deriving Repr, DecidableEq

def Scan.step (scan : Scan) (c : Char) : Scan :=
  match scan.phase with
  | .escaped => { scan with phase := .inString }
  | .inString =>
    if c = '\\' then { scan with phase := .escaped }
    else if c = '"' then { scan with phase := .outside }
    else scan
  | .outside =>
    if c = '"' then { scan with phase := .inString }
    else if c = '[' ∨ c = '\x7b' then
      { scan with level := scan.level + 1, deepest := max scan.deepest (scan.level + 1) }
    else if c = ']' ∨ c = '\x7d' then { scan with level := scan.level - 1 }
    else scan

/-- How many brackets and braces of a text are open at once, at most. Those in strings do not
count. -/
def nesting (s : List Char) : Nat := (s.foldl Scan.step ⟨.outside, 0, 0⟩).deepest

/-- The text takes a pass `n` levels down at most, and back. -/
def Nests (s : List Char) (n : Nat) : Prop :=
  ∀ level deepest, level ≤ deepest →
    s.foldl Scan.step ⟨.outside, level, deepest⟩ = ⟨.outside, level, max deepest (level + n)⟩

theorem Nests.append {s t : List Char} {m n : Nat} (hs : Nests s m) (ht : Nests t n) :
    Nests (s ++ t) (max m n) := by
  intro level deepest hlevel
  rw [List.foldl_append, hs level deepest hlevel, ht level _ (by omega)]
  simp only [Scan.mk.injEq, true_and]
  omega

theorem Nests.bracketed {s : List Char} {n : Nat} (h : Nests s n) {c d : Char}
    (hc : c = '[' ∨ c = '\x7b') (hd : d = ']' ∨ d = '\x7d') : Nests (c :: (s ++ [d])) (n + 1) := by
  intro level deepest hlevel
  have hopen : Scan.step ⟨.outside, level, deepest⟩ c =
      ⟨.outside, level + 1, max deepest (level + 1)⟩ := by
    rcases hc with rfl | rfl <;> rfl
  have hclose (deepest : Nat) : Scan.step ⟨.outside, level + 1, deepest⟩ d =
      ⟨.outside, level, deepest⟩ := by
    rcases hd with rfl | rfl <;> rfl
  rw [List.foldl_cons, hopen, List.foldl_append, h (level + 1) _ (by omega), List.foldl_cons,
    List.foldl_nil, hclose]
  simp only [Scan.mk.injEq, true_and]
  omega

/-- Neither a quote nor a bracket nor a brace. -/
def isInert (c : Char) : Bool := c ∉ ['"', '[', ']', '\x7b', '\x7d']

theorem nests_of_isInert {s : List Char} (h : s.all isInert = true) : Nests s 0 := by
  intro level deepest hlevel
  rw [Nat.add_zero, Nat.max_eq_left hlevel]
  induction s with
  | nil => rfl
  | cons c s ih =>
    obtain ⟨hc, hs⟩ : isInert c = true ∧ s.all isInert = true := by simpa using h
    have hstep : Scan.step ⟨.outside, level, deepest⟩ c = ⟨.outside, level, deepest⟩ := by
      simp only [isInert, List.mem_cons, List.not_mem_nil, or_false, not_or,
        decide_eq_true_eq] at hc
      simp [Scan.step, hc]
    rw [List.foldl_cons, hstep, ih hs]

theorem Nests.cons {s : List Char} {n : Nat} (h : Nests s n) {c : Char} (hc : isInert c = true) :
    Nests (c :: s) n := by
  have hhead : Nests [c] 0 := nests_of_isInert (by simpa using hc)
  simpa using hhead.append h

theorem Blank.nests {s : List Char} (h : Blank s) : Nests s 0 := by
  refine nests_of_isInert (List.all_eq_true.2 fun c hc => ?_)
  rcases eq_of_isSpace (h c hc) with rfl | rfl | rfl | rfl <;> decide

theorem Digits.nests {s : List Char} (h : Digits s) : Nests s 0 := by
  refine nests_of_isInert (List.all_eq_true.2 fun c hc => ?_)
  have hdigit := h.isDigit c hc
  rw [isInert, decide_eq_true_eq]
  intro hmem
  simp only [List.mem_cons, List.not_mem_nil, or_false] at hmem
  rcases hmem with rfl | rfl | rfl | rfl | rfl <;> exact absurd hdigit (by decide)

theorem UnsignedText.nests {s : List Char} (h : UnsignedText s) : Nests s 0 := by
  obtain ⟨hw, hf, he⟩ := h
  refine Nests.append (m := 0) (n := 0) ?_ (Nests.append (m := 0) (n := 0) ?_ ?_)
  · cases hw with
    | zero => exact nests_of_isInert (by decide)
    | digits hzero h => exact h.nests
  · cases hf with
    | none => exact nests_of_isInert (by decide)
    | digits h => exact h.nests.cons (by decide)
  · cases he with
    | none => exact nests_of_isInert (by decide)
    | unsigned he h => exact h.nests.cons (by rcases he with rfl | rfl <;> decide)
    | signed he hsign h =>
      refine Nests.cons (h.nests.cons ?_) ?_
      · rcases hsign with rfl | rfl <;> decide
      · rcases he with rfl | rfl <;> decide

theorem NumberText.nests {s : List Char} (h : NumberText s) : Nests s 0 := by
  cases h with
  | unsigned h => exact h.nests
  | negative h => exact h.nests.cons (by decide)

theorem isSome_hexDigit? {n : Nat} {digits : List Char}
    (h : (digits.foldlM (fun n c => (Text.hexDigit? c).map (16 * n + ·)) n).isSome = true) :
    ∀ c ∈ digits, (Text.hexDigit? c).isSome = true := by
  induction digits generalizing n with
  | nil => simp
  | cons c digits ih =>
    rw [List.foldlM_cons] at h
    cases hc : Text.hexDigit? c with
    | none => simp [hc] at h
    | some d =>
      simp only [hc, Option.map_some, Option.bind_eq_bind, Option.bind_some] at h
      simpa [hc] using ih h

theorem StringBody.foldl_step {s : List Char} (h : StringBody s) (level deepest : Nat) :
    s.foldl Scan.step ⟨.inString, level, deepest⟩ = ⟨.inString, level, deepest⟩ := by
  induction h with
  | nil => rfl
  | plain hquote hescape hcontrol _ ih => simpa [Scan.step, hquote, hescape] using ih
  | short hc _ ih => simpa [Scan.step] using ih
  | @numbered a b c d s hhex _ ih =>
    have hdigits : ∀ x ∈ [a, b, c, d], x ≠ '\\' ∧ x ≠ '"' := by
      intro x hx
      have hx := isSome_hexDigit? hhex x hx
      constructor <;> rintro rfl <;> exact absurd hx (by decide)
    simp only [List.mem_cons, List.not_mem_nil, or_false, forall_eq_or_imp, forall_eq] at hdigits
    simpa [Scan.step, hdigits] using ih

theorem nests_quoted {literal : String} (h : StringBody literal.toList) :
    Nests (quoted literal) 0 := by
  intro level deepest hlevel
  have hopen : Scan.step ⟨.outside, level, deepest⟩ '"' = ⟨.inString, level, deepest⟩ := rfl
  rw [quoted, List.foldl_cons, hopen, List.foldl_append, h.foldl_step, Nat.add_zero,
    Nat.max_eq_left hlevel]
  rfl

theorem WrittenKey.nests {key : String} {k : List Char} (h : WrittenKey key k) : Nests k 0 := by
  obtain ⟨hl, hkey, hr⟩ := h
  simpa using hl.nests.append ((nests_quoted hkey).append hr.nests)

mutual

/-- A text of a value nests as deep as the value. -/
theorem Written.nests : ∀ {value : Json} {s : List Char}, Written value s → Nests s value.depth
  | _, _, .null => nests_of_isInert (by decide)
  | _, _, .isTrue => nests_of_isInert (by decide)
  | _, _, .isFalse => nests_of_isInert (by decide)
  | _, _, .number h => h.nests
  | _, _, .string h => nests_quoted h
  | _, _, .emptyArray hs => hs.nests.bracketed (.inl rfl) (.inl rfl)
  | _, _, .array h => h.nests.bracketed (.inl rfl) (.inl rfl)
  | _, _, .emptyObject hs => hs.nests.bracketed (.inr rfl) (.inr rfl)
  | _, _, .object h => h.nests.bracketed (.inr rfl) (.inr rfl)

theorem WrittenSpaced.nests : ∀ {value : Json} {s : List Char}, WrittenSpaced value s →
    Nests s value.depth
  | _, _, .mk hl hw hr => by simpa using hl.nests.append (hw.nests.append hr.nests)

theorem WrittenElements.nests : ∀ {elements : List Json} {s : List Char},
    WrittenElements elements s → Nests s (depthElements elements)
  | _, _, .last h => by simpa [depthElements] using h.nests
  | _, _, .more h ht => h.nests.append (ht.nests.cons (by decide))

theorem WrittenMembers.nests : ∀ {members : List (String × Json)} {s : List Char},
    WrittenMembers members s → Nests s (depthMembers members)
  | _, _, .last hk h => by
    simpa [depthMembers] using hk.nests.append (h.nests.cons (c := ':') (by decide))
  | _, _, .more hk h ht => by
    have hvalues := h.nests.append (ht.nests.cons (c := ',') (by decide))
    simpa [depthMembers] using hk.nests.append (hvalues.cons (c := ':') (by decide))

end

theorem WrittenSpaced.nesting_eq {value : Json} {s : List Char} (h : WrittenSpaced value s) :
    nesting s = value.depth := by
  rw [nesting, h.nests 0 0 le_rfl]
  simp

end CoreProver.Json
