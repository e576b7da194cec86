import CoreProver.Text.Blank
import CoreProver.Text.Lines
import CoreProver.Text.Search
import Mathlib.Data.List.Forall2
import Mathlib.Data.List.Infix
import Mathlib.Data.List.TakeWhile
import Mathlib.Tactic.Common

/-!
# Lines, words and ends of texts

A text that consists of whole lines can stand in front of any other: the lines of both are then the
lines of the one and those of the other. A word without blanks occurs in a text exactly when it
occurs in the trimmed text. Trimming leaves the one text inside the blanks that has none at its own
ends, and the same goes for any other class of characters.
-/

namespace CoreProver.Text

/-! ### Lines -/

theorem splitFeeds_eq_splitOn (s : List Char) : splitFeeds s = s.splitOn '\n' := by
  rw [List.splitOn]
  induction s with
  | nil => rfl
  | cons c rest ih =>
    rw [splitFeeds, List.splitOnP_cons_eq_if_modifyHead, ih]
    by_cases hc : c = '\n'
    · simp [hc]
    · obtain ⟨piece, pieces, h⟩ :=
        List.exists_cons_of_ne_nil (List.splitOnP_ne_nil (· == '\n') rest)
      simp [hc, h]

theorem splitFeeds_ne_nil (s : List Char) : splitFeeds s ≠ [] := by
  rw [splitFeeds_eq_splitOn]
  exact List.splitOnP_ne_nil _ s

/-- A line feed separates the pieces before it from those behind it. -/
theorem splitFeeds_append_feed (s t : List Char) :
    splitFeeds (s ++ '\n' :: t) = splitFeeds s ++ splitFeeds t := by
  simp only [splitFeeds_eq_splitOn, List.splitOn]
  exact List.splitOnP_append_cons s t (by simp)

/-- The text ends where a line does. -/
def WholeLines (s : List Char) : Prop := s = [] ∨ s.getLast? = some '\n'

theorem lines_append_feed (s t : List Char) :
    lines (s ++ '\n' :: t) = (splitFeeds s).map dropReturn ++ lines t := by
  have hlast := List.getLast?_append_of_ne_nil (splitFeeds s) (splitFeeds_ne_nil t)
  simp only [lines, splitFeeds_append_feed, hlast,
    List.dropLast_append_of_ne_nil (splitFeeds_ne_nil t), List.map_append, List.append_assoc]

theorem WholeLines.lines_append {s : List Char} (h : WholeLines s) (t : List Char) :
    lines (s ++ t) = lines s ++ lines t := by
  rcases h with rfl | hlast
  · rfl
  · obtain ⟨before, rfl⟩ := List.getLast?_eq_some_iff.1 hlast
    have hbefore := lines_append_feed before []
    have hboth := lines_append_feed before t
    rw [lines_nil, List.append_nil] at hbefore
    rw [List.append_assoc, List.singleton_append, hboth, hbefore]

theorem joinWith_eq_intercalate (separator : List Char) (pieces : List (List Char)) :
    joinWith separator pieces = separator.intercalate pieces := by
  fun_induction joinWith separator pieces with
  | case1 => rfl
  | case2 piece => simp
  | case3 piece pieces hne ih => rw [ih, List.intercalate_cons_of_ne_nil (by simpa using hne)]

/-! ### Words -/

theorem contains_iff (word s : List Char) : contains word s = true ↔ word <:+: s := by
  induction s with
  | nil => simp [contains]
  | cons c rest ih => simp [contains, ih, List.infix_cons_iff]

/-- Dropping characters in front loses no word without such characters. -/
theorem infix_dropWhile_iff {p : Char → Bool} {word : List Char} (h : ∀ c ∈ word, p c = false)
    (s : List Char) : word <:+: s.dropWhile p ↔ word <:+: s := by
  induction s with
  | nil => rfl
  | cons c rest ih =>
    cases hc : p c with
    | false => simp [hc]
    | true =>
      rw [List.dropWhile_cons_of_pos hc, ih, List.infix_cons_iff, or_iff_right_of_imp]
      -- a word that starts with the dropped character is empty
      intro hword
      cases word with
      | nil => exact List.nil_infix
      | cons w word =>
        obtain ⟨rfl, -⟩ := List.cons_prefix_cons.1 hword
        simp [h w List.mem_cons_self] at hc

theorem infix_dropEndWhile_iff {p : Char → Bool} {word : List Char} (h : ∀ c ∈ word, p c = false)
    (s : List Char) : word <:+: dropEndWhile p s ↔ word <:+: s := by
  have hreverse : ∀ c ∈ word.reverse, p c = false := by simpa using h
  rw [dropEndWhile, ← List.reverse_infix, List.reverse_reverse,
    infix_dropWhile_iff hreverse, List.reverse_infix]

/-- Trimming loses no word without blanks. -/
theorem infix_trim_iff {word : List Char} (h : ∀ c ∈ word, isBlank c = false) (s : List Char) :
    word <:+: trim s ↔ word <:+: s := by
  rw [trim, trimEnd, infix_dropEndWhile_iff h, trimStart, infix_dropWhile_iff h]

theorem after?_eq_none_iff (word s : List Char) : after? word s = none ↔ ¬word <+: s := by
  induction word generalizing s with
  | nil => simp
  | cons w word ih =>
    cases s with
    | nil => simp [after?]
    | cons c s => by_cases h : w = c <;> simp [after?, h, ih]

/-- A word that stands in front only once is removed only once. -/
theorem dropRepeated_append {word s : List Char} (hne : word ≠ []) (h : ¬word <+: s) :
    dropRepeated word (word ++ s) = s := by
  have hnone := (after?_eq_none_iff word s).2 h
  obtain ⟨w, word, rfl⟩ := List.exists_cons_of_ne_nil hne
  have hlength : (w :: word ++ s).length = (word ++ s).length + 1 := rfl
  rw [dropRepeated, List.isEmpty_cons, if_neg Bool.false_ne_true, hlength, dropRepeatedFuel,
    after?_append]
  cases (word ++ s).length <;> simp [dropRepeatedFuel, hnone]

/-! ### Ends -/

section Ends

variable {p : Char → Bool} {s t : List Char}

/-- The text neither starts nor ends with a character of the class. -/
def EndsOutside (p : Char → Bool) (s : List Char) : Prop :=
  (∀ c, s.head? = some c → p c = false) ∧ ∀ c, s.getLast? = some c → p c = false

/-- The second text is the first with characters of the class on both sides, maybe none. -/
def Surrounded (p : Char → Bool) (inner s : List Char) : Prop :=
  ∃ front back, (∀ c ∈ front, p c = true) ∧ (∀ c ∈ back, p c = true) ∧
    s = front ++ inner ++ back

theorem endsOutside_cons_concat {first last : Char} (hfirst : p first = false)
    (hlast : p last = false) (s : List Char) : EndsOutside p (first :: s ++ [last]) := by
  refine ⟨fun c hc => ?_, fun c hc => ?_⟩
  · obtain rfl := Option.some.inj hc
    exact hfirst
  · rw [List.getLast?_concat] at hc
    obtain rfl := Option.some.inj hc
    exact hlast

theorem dropWhile_eq_iff :
    s.dropWhile p = t ↔ (∃ front, (∀ c ∈ front, p c = true) ∧ s = front ++ t) ∧
      ∀ c, t.head? = some c → p c = false := by
  constructor
  · rintro rfl
    refine ⟨⟨s.takeWhile p, fun c => List.mem_takeWhile_imp,
      List.takeWhile_append_dropWhile.symm⟩, fun c hc => ?_⟩
    have hhead := List.head?_dropWhile_not p s
    rwa [hc] at hhead
  · rintro ⟨⟨front, hfront, rfl⟩, hhead⟩
    rw [List.dropWhile_append_of_pos hfront]
    cases t with
    | nil => rfl
    | cons c t => exact List.dropWhile_cons_of_neg (by simp [hhead c rfl])

theorem dropEndWhile_eq_iff :
    dropEndWhile p s = t ↔ (∃ back, (∀ c ∈ back, p c = true) ∧ s = t ++ back) ∧
      ∀ c, t.getLast? = some c → p c = false := by
  rw [dropEndWhile, List.reverse_eq_iff, dropWhile_eq_iff, List.head?_reverse]
  refine and_congr_left' ⟨?_, ?_⟩
  · rintro ⟨front, hfront, hs⟩
    exact ⟨front.reverse, by simpa using hfront, by simpa using congrArg List.reverse hs⟩
  · rintro ⟨back, hback, rfl⟩
    exact ⟨back.reverse, by simpa using hback, List.reverse_append⟩

/-- Dropping a class of characters on both sides leaves the one text inside that neither starts nor
ends with such a character. -/
theorem dropEnds_eq_iff :
    dropEndWhile p (s.dropWhile p) = t ↔ Surrounded p t s ∧ EndsOutside p t := by
  rw [dropEndWhile_eq_iff]
  constructor
  · rintro ⟨⟨back, hback, hs⟩, hlast⟩
    obtain ⟨⟨front, hfront, rfl⟩, hhead⟩ := dropWhile_eq_iff.1 hs
    refine ⟨⟨front, back, hfront, hback, (List.append_assoc ..).symm⟩, fun c hc => ?_, hlast⟩
    exact hhead c (by simp [hc])
  · rintro ⟨⟨front, back, hfront, hback, rfl⟩, hhead, hlast⟩
    refine ⟨?_, hlast⟩
    cases t with
    | nil =>
      -- the two sides meet, and what is dropped in front is all there is
      refine ⟨[], by simp, ?_⟩
      rw [List.append_nil, List.append_nil, List.dropWhile_eq_nil_iff]
      exact List.forall_mem_append.2 ⟨hfront, hback⟩
    | cons c t =>
      refine ⟨back, hback, dropWhile_eq_iff.2 ⟨⟨front, hfront, List.append_assoc ..⟩, ?_⟩⟩
      simpa using hhead

theorem trim_eq_iff : trim s = t ↔ Surrounded isBlank t s ∧ EndsOutside isBlank t := dropEnds_eq_iff

end Ends

/-! ### Letter case -/

theorem toNat_toLower (c : Char) :
    c.toLower.toNat = if 65 ≤ c.toNat ∧ c.toNat ≤ 90 then c.toNat + 32 else c.toNat := by
  have hcapital : (c.val ≥ 'A'.val ∧ c.val ≤ 'Z'.val) ↔ 65 ≤ c.toNat ∧ c.toNat ≤ 90 := Iff.rfl
  unfold Char.toLower
  by_cases h : 65 ≤ c.toNat ∧ c.toNat ≤ 90
  · rw [dif_pos (hcapital.2 h), if_pos h]
    change (c.val + 32).toNat = c.toNat + 32
    rw [UInt32.toNat_add, Char.toNat_val]
    change (c.toNat + 32) % 4294967296 = c.toNat + 32
    omega
  · rw [dif_neg (fun h' => h (hcapital.1 h')), if_neg h]

theorem toNat_toUpper (c : Char) :
    c.toUpper.toNat = if 97 ≤ c.toNat ∧ c.toNat ≤ 122 then c.toNat - 32 else c.toNat := by
  have hsmall : ('a'.val ≤ c.val ∧ c.val ≤ 'z'.val) ↔ 97 ≤ c.toNat ∧ c.toNat ≤ 122 := Iff.rfl
  unfold Char.toUpper
  by_cases h : 97 ≤ c.toNat ∧ c.toNat ≤ 122
  · rw [dif_pos (hsmall.2 h), if_pos h]
    change (c.val + 4294967264).toNat = c.toNat - 32
    rw [UInt32.toNat_add, Char.toNat_val]
    change (c.toNat + 4294967264) % 4294967296 = c.toNat - 32
    omega
  · rw [dif_neg (fun h' => h (hsmall.1 h')), if_neg h]

theorem toNat_of_isLower {c : Char} (h : c.isLower = true) : 97 ≤ c.toNat ∧ c.toNat ≤ 122 := by
  change (decide (c.val ≥ 'a'.val) && decide (c.val ≤ 'z'.val)) = true at h
  have hrange : c.val ≥ 'a'.val ∧ c.val ≤ 'z'.val := by simpa using h
  exact hrange

/-- A small letter is the small form of itself and of its capital only. -/
theorem toLower_eq_iff {letter : Char} (h : letter.isLower = true) (c : Char) :
    c.toLower = letter ↔ c = letter ∨ c = letter.toUpper := by
  have hsmall := toNat_of_isLower h
  rw [← Char.toNat_inj, ← Char.toNat_inj (d := letter), ← Char.toNat_inj (d := letter.toUpper),
    toNat_toLower, toNat_toUpper, if_pos hsmall]
  split <;> omega

theorem isBlank_eq_false_of_isLower_toLower {c : Char} (h : c.toLower.isLower = true) :
    isBlank c = false := by
  have hsmall := toNat_of_isLower h
  rw [toNat_toLower] at hsmall
  by_contra hblank
  simp only [Bool.not_eq_false, isBlank, Bool.or_eq_true, Bool.and_eq_true, decide_eq_true_eq,
    beq_iff_eq] at hblank
  split at hsmall <;> omega

/-- The characters spell the word, each letter small or capital. -/
def InAnyCase (word s : List Char) : Prop :=
  List.Forall₂ (fun letter c => c = letter ∨ c = letter.toUpper) word s

theorem lowerAscii_eq_iff {word : List Char} (h : ∀ letter ∈ word, letter.isLower = true)
    (s : List Char) : lowerAscii s = word ↔ InAnyCase word s := by
  induction word generalizing s with
  | nil => cases s <;> simp [lowerAscii, InAnyCase]
  | cons letter word ih =>
    obtain ⟨hletter, hword⟩ := List.forall_mem_cons.1 h
    cases s with
    | nil => simp [lowerAscii, InAnyCase]
    | cons c s =>
      have hrest := ih hword s
      simp only [lowerAscii, InAnyCase] at hrest ⊢
      rw [List.map_cons, List.cons.injEq, toLower_eq_iff hletter, hrest, List.forall₂_cons]

/-- A word of small letters occurs in the trimmed text in small letters exactly when it occurs in
the text in any letter case. -/
theorem contains_lowerAscii_trim_iff {word : List Char}
    (h : ∀ letter ∈ word, letter.isLower = true) (s : List Char) :
    contains word (lowerAscii (trim s)) = true ↔ ∃ w, w <:+: s ∧ InAnyCase word w := by
  rw [contains_iff, lowerAscii, List.infix_map_iff]
  refine exists_congr fun w => ?_
  rw [eq_comm, ← lowerAscii_eq_iff h, lowerAscii, and_congr_left_iff]
  intro hw
  refine infix_trim_iff (fun c hc => ?_) s
  have hmem : c.toLower ∈ word := hw ▸ List.mem_map_of_mem hc
  exact isBlank_eq_false_of_isLower_toLower (h _ hmem)

end CoreProver.Text
