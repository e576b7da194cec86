import CoreProver.Term.Smt
import Mathlib.Tactic.Common
import Mathlib.Tactic.IntervalCases

/-!
# Numerals and symbols

Numerals denote the numbers that they were written for, in each base and with zeros in front. The
symbol of a variable gives away its origin and its number, since the first underscore ends them.
-/

namespace CoreProver

namespace Text

theorem exists_digitChar_of_mem_toDigits {base : Nat} (hb : 1 < base) (n : Nat) (c : Char)
    (hc : c ∈ Nat.toDigits base n) : ∃ d < base, c = Nat.digitChar d := by
  induction n using Nat.strong_induction_on with
  | _ n ih =>
    rw [Nat.toDigits_eq_if hb] at hc
    split at hc
    · next hlt => exact ⟨n, hlt, List.mem_singleton.1 hc⟩
    · next hge =>
      rcases List.mem_append.1 hc with hc | hc
      · exact ih (n / base) (Nat.div_lt_self (by omega) hb) hc
      · exact ⟨n % base, Nat.mod_lt n (by omega), List.mem_singleton.1 hc⟩

/-- A numeral that is filled up keeps to the digits of its base. -/
theorem exists_digitChar_of_mem_padded {base : Nat} (hb : 1 < base) (width n : Nat) (c : Char)
    (hc : c ∈ padded base width n) : ∃ d < base, c = Nat.digitChar d := by
  rcases List.mem_append.1 hc with hc | hc
  · exact ⟨0, by omega, (List.mem_replicate.1 hc).2⟩
  · exact exists_digitChar_of_mem_toDigits hb n c hc

theorem length_padded {base width n : Nat} (hb : 1 < base) (hw : 0 < width)
    (hn : n < base ^ width) : (padded base width n).length = width := by
  have hlen := (Nat.length_toDigits_le_iff hb hw).2 hn
  simp only [padded, List.length_append, List.length_replicate]
  omega

/-- Each hexadecimal digit stands for four bits. -/
theorem sixteen_pow_eq {width : Nat} (h : 4 ∣ width) : 16 ^ (width / 4) = 2 ^ width := by
  rw [show 16 = 2 ^ 4 from rfl, ← Nat.pow_mul, Nat.mul_div_cancel' h]

@[simp] theorem hexDigit?_digitChar {d : Nat} (hd : d < 16) :
    hexDigit? (Nat.digitChar d) = some d := by
  interval_cases d <;> rfl

theorem ofHex?_append_singleton (digits : List Char) (c : Char) :
    ofHex? (digits ++ [c]) =
      (ofHex? digits).bind fun n => (hexDigit? c).map (16 * n + ·) := by
  simp [ofHex?, List.foldlM_append, Option.bind_eq_bind]

/-- Hexadecimal digits denote the number that they were written for. -/
theorem ofHex?_toDigits (n : Nat) : ofHex? (Nat.toDigits 16 n) = some n := by
  induction n using Nat.strong_induction_on with
  | _ n ih =>
    rw [Nat.toDigits_eq_if (by omega)]
    split
    · next hlt => simp [ofHex?, hexDigit?_digitChar hlt]
    · next hge =>
      rw [ofHex?_append_singleton, ih (n / 16) (by omega),
        hexDigit?_digitChar (Nat.mod_lt n (by omega))]
      simp only [Option.bind_some, Option.map_some, Option.some.injEq]
      omega

theorem ofHex?_replicate_zero_append (k : Nat) (digits : List Char) :
    ofHex? (List.replicate k '0' ++ digits) = ofHex? digits := by
  induction k with
  | zero => rfl
  | succ k ih =>
    have hzero : hexDigit? '0' = some 0 := rfl
    rw [← ih]
    simp [ofHex?, List.replicate_succ, hzero]

theorem ofHex?_padded (width n : Nat) : ofHex? (padded 16 width n) = some n := by
  rw [padded, ofHex?_replicate_zero_append, ofHex?_toDigits]

theorem ofDigitChars_padded (width n : Nat) :
    Nat.ofDigitChars 2 (padded 2 width n) 0 = n := by
  rw [padded, Nat.ofDigitChars_append, Nat.ofDigitChars_replicate_zero, Nat.mul_zero,
    Nat.ofDigitChars_toDigits (by omega) (by omega)]

theorem head?_toDigits_ne_zero {n : Nat} (hn : 0 < n) :
    (Nat.toDigits 10 n).head? ≠ some '0' := by
  induction n using Nat.strong_induction_on with
  | _ n ih =>
    rw [Nat.toDigits_eq_if (by omega)]
    split
    · next hlt => interval_cases n <;> decide
    · next hge =>
      have hhead := ih (n / 10) (by omega) (by omega)
      cases hd : Nat.toDigits 10 (n / 10) with
      | nil => exact absurd hd Nat.toDigits_ne_nil
      | cons c cs =>
        rw [hd] at hhead
        simpa using hhead

end Text

/-- Where two lists agree, they agree up to the first occurrence of an element and behind it. -/
theorem append_cons_inj_of_not_mem {α : Type} {a : α} {xs ys zs ws : List α} (hx : a ∉ xs)
    (hy : a ∉ ys) : xs ++ a :: zs = ys ++ a :: ws ↔ xs = ys ∧ zs = ws := by
  induction xs generalizing ys with
  | nil =>
    cases ys with
    | nil => simp
    | cons y ys =>
      have hne : a ≠ y := fun h => hy (h ▸ List.mem_cons_self)
      simp [hne]
  | cons x xs ih =>
    cases ys with
    | nil =>
      have hne : x ≠ a := fun h => hx (h ▸ List.mem_cons_self)
      simp [hne]
    | cons y ys =>
      rw [List.cons_append, List.cons_append, List.cons.injEq, List.cons.injEq,
        ih (fun h => hx (List.mem_cons_of_mem _ h)) (fun h => hy (List.mem_cons_of_mem _ h)),
        and_assoc]

namespace SymVar

/-- What is left of the name in the symbol. -/
def decoration (v : SymVar) : List Char := v.name.toList.map symbolChar

def letter (v : SymVar) : Char :=
  match v.origin with
  | .parameter => 'l'
  | .constant => 'u'

theorem letter_eq (v : SymVar) : v.letter = 'l' ∨ v.letter = 'u' := by
  unfold letter
  cases v.origin <;> decide

theorem toList_symbol (v : SymVar) :
    v.symbol.toList = v.letter :: (Nat.toDigits 10 v.id ++ '_' :: v.decoration) := by
  cases h : v.origin <;> simp [symbol, letter, decoration, h]

/-- Variables share a symbol exactly when they share origin, number and what is left of the name. -/
theorem symbol_eq_iff (v w : SymVar) :
    v.symbol = w.symbol ↔
      v.origin = w.origin ∧ v.id = w.id ∧ v.decoration = w.decoration := by
  rw [← String.toList_inj, toList_symbol, toList_symbol, List.cons.injEq,
    append_cons_inj_of_not_mem Nat.underscore_not_in_toDigits Nat.underscore_not_in_toDigits]
  refine and_congr ?_ (and_congr ?_ Iff.rfl)
  · cases hv : v.origin <;> cases hw : w.origin <;> simp [letter, hv, hw]
  · constructor
    · intro h
      have hnum := congrArg (fun digits => Nat.ofDigitChars 10 digits 0) h
      simpa using hnum
    · exact congrArg _

end SymVar

end CoreProver
