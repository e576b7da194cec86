import CoreProver.Json.Record
import Mathlib.Tactic.Common

/-!
# What readers find in written records

Every text and every integer is read back from the literal that is written for it. The members of a
record that is written under distinct names are found under these names, and nothing else is.
-/

namespace CoreProver.Json

/-- The control characters have four hexadecimal digits, which are read back. -/
theorem ofHex?_padded {n : Nat} (h : n < 32) :
    ∃ a b c d, Text.padded 16 4 n = [a, b, c, d] ∧ Text.ofHex? [a, b, c, d] = some n := by
  have hall : ∀ n < 32, (Text.padded 16 4 n).length = 4 ∧
      Text.ofHex? (Text.padded 16 4 n) = some n := by decide
  obtain ⟨hlength, hvalue⟩ := hall n h
  match hdigits : Text.padded 16 4 n, hlength with
  | [a, b, c, d], _ => exact ⟨a, b, c, d, rfl, hdigits ▸ hvalue⟩

/-- A character is read back from its literal, whatever follows. -/
theorem unescape?_escapeChar_append (c : Char) (rest : List Char) :
    unescape? (escapeChar c ++ rest) = (unescape? rest).map (c :: ·) := by
  have hchar : ∀ n, c.toNat = n → c = Char.ofNat n := fun n h => h ▸ (Char.ofNat_toNat c).symm
  unfold escapeChar
  split_ifs with h1 h2 h3 h4 h5 h6 h7 h8
  · subst h1; simp [unescape?, shortEscape?]
  · subst h2; simp [unescape?, shortEscape?]
  · subst h3; simp [unescape?, shortEscape?]
  · subst h4; simp [unescape?, shortEscape?]
  · subst h5; simp [unescape?, shortEscape?]
  · rw [hchar _ h6]; simp [unescape?, shortEscape?]
  · rw [hchar _ h7]; simp [unescape?, shortEscape?]
  · obtain ⟨a, b, d, e, hdigits, hvalue⟩ := ofHex?_padded h8
    have hhigh : isHighSurrogate c.toNat = false := by simp [isHighSurrogate]; omega
    have hlow : isLowSurrogate c.toNat = false := by simp [isLowSurrogate]; omega
    simp [hdigits, unescape?, hvalue, hhigh, hlow, Char.ofNat_toNat]
  · simp [unescape?, h2]

/-- A text is read back from its literal. -/
theorem unescape?_escape (s : List Char) : unescape? (escape s) = some s := by
  induction s with
  | nil => rfl
  | cons c s ih =>
    rw [escape, List.flatMap_cons, unescape?_escapeChar_append, ← escape, ih]
    rfl

@[simp] theorem literalText?_escape (s : String) :
    literalText? (String.ofList (escape s.toList)) = some s := by
  simp [literalText?, unescape?_escape]

@[simp] theorem text?_ofText (s : String) : (ofText s).text? = some s := literalText?_escape s

theorem all_isDigit_toDigits (n : Nat) : (Nat.toDigits 10 n).all Char.isDigit = true :=
  List.all_eq_true.2 fun _ hc => Nat.isDigit_of_mem_toDigits (by decide) (by decide) hc

theorem ofDigits_toDigits (n : Nat) : Text.ofDigits (Nat.toDigits 10 n) = n :=
  Nat.ofDigitChars_toDigits (by decide) (by decide)

@[simp] theorem nat?_ofInt (n : Nat) : (ofInt n).nat? = some n := by
  simp [ofInt, nat?, Text.decimal, Nat.toDigits_ne_nil, all_isDigit_toDigits, ofDigits_toDigits]

@[simp] theorem int?_ofInt (n : Int) : (ofInt n).int? = some n := by
  cases n with
  | ofNat n =>
    have hminus : ∀ digits, Nat.toDigits 10 n ≠ '-' :: digits := by
      intro digits heq
      have hdigit : '-'.isDigit = true :=
        Nat.isDigit_of_mem_toDigits (by decide) (by decide) (heq ▸ List.mem_cons_self)
      exact absurd hdigit (by decide)
    rw [ofInt, int?, String.toList_ofList, Text.decimal, literalInt?]
    · simp [Nat.toDigits_ne_nil, all_isDigit_toDigits, ofDigits_toDigits]
    · exact hminus
  | negSucc n =>
    simp [ofInt, int?, Text.decimal, literalInt?, Nat.toDigits_ne_nil, all_isDigit_toDigits,
      ofDigits_toDigits, Int.negSucc_eq]

/-- The member of a record under a name. -/
def member? (name : String) (record : Json) : Option Json :=
  match record.fields? [name] with
  | some [value] => value
  | _ => none

/-- The text of a record under a name. -/
def textMember? (name : String) (record : Json) : Option String := (record.member? name).bind text?

theorem namedMembers?_map_escape (members : List (String × Json)) :
    namedMembers? (members.map fun (key, value) => (String.ofList (escape key.toList), value)) =
      some members := by
  rw [namedMembers?, List.mapM_map]
  induction members with
  | nil => rfl
  | cons m members ih => simp [ih]

theorem field?_eq_lookup (name : String) {members : List (String × Json)}
    (h : (members.map Prod.fst).Nodup) : field? name members = some (members.lookup name) := by
  unfold field?
  induction members with
  | nil => rfl
  | cons m members ih =>
    obtain ⟨key, value⟩ := m
    obtain ⟨hkey, hrest⟩ := List.nodup_cons.1 h
    by_cases hname : key = name
    · have hnone : members.filter (fun m => m.1 = name) = [] := by
        rw [List.filter_eq_nil_iff]
        intro m hm hsame
        exact hkey (List.mem_map.2 ⟨m, hm, (of_decide_eq_true hsame).trans hname.symm⟩)
      simp [hname, hnone]
    · have hne : (name == key) = false := beq_false_of_ne (Ne.symm hname)
      simpa [hname, List.lookup_cons, hne] using ih hrest

/-- Members under distinct names are found under their names. -/
theorem member?_ofMembers (name : String) {members : List (String × Json)}
    (h : (members.map Prod.fst).Nodup) :
    (ofMembers members).member? name = members.lookup name := by
  simp [member?, ofMembers, fields?, namedMembers?_map_escape, field?_eq_lookup name h]

@[simp] theorem lookup_optionalText (name other : String) (value : Option String) :
    (optionalText other value).lookup name = if name = other then value.map ofText else none := by
  cases value with
  | none => simp [optionalText]
  | some s =>
    by_cases h : name = other
    · simp [optionalText, h]
    · simp [optionalText, List.lookup_cons, h, beq_false_of_ne h]

end CoreProver.Json
