import CoreProver.Lang.Expr
import CoreProver.Proofs.Smt.Rendering
import Mathlib.Data.Int.ModEq
import Mathlib.Data.Nat.Digits.Defs

/-!
# Integer literals

A literal of a vector kind has as many digits as the width asks for, and they denote the number
modulo the number of vectors; an integer literal denotes the number itself. The remainder is also
the one that words of 128 bits give, up to the width at which the modulus itself is negative.
-/

namespace CoreProver

namespace Text

/-- The characters are digits below the base, in lower case, and denote the number. -/
def Writes (base n : Nat) (digits : List Char) : Prop :=
  ∃ ds : List Nat, digits = ds.map Nat.digitChar ∧ (∀ d ∈ ds, d < base) ∧
    Nat.ofDigits base ds.reverse = n

theorem writes_toDigits {base : Nat} (hb : 1 < base) (n : Nat) :
    Writes base n (Nat.toDigits base n) := by
  induction n using Nat.strong_induction_on with
  | _ n ih =>
    rw [Nat.toDigits_eq_if hb]
    split
    · next hlt => exact ⟨[n], rfl, by simpa using hlt, by simp⟩
    · next hge =>
      obtain ⟨ds, hds, hlt, hvalue⟩ := ih (n / base) (Nat.div_lt_self (by omega) hb)
      refine ⟨ds ++ [n % base], by simp [hds], ?_, ?_⟩
      · intro d hd
        rcases List.mem_append.1 hd with hd | hd
        · exact hlt d hd
        · rw [List.mem_singleton.1 hd]
          exact Nat.mod_lt n (by omega)
      · rw [List.reverse_append, List.reverse_singleton, List.singleton_append, Nat.ofDigits_cons,
          hvalue, Nat.mod_add_div]

theorem Writes.replicate_zero_append {base n : Nat} {digits : List Char} (hb : 1 < base)
    (h : Writes base n digits) (k : Nat) : Writes base n (List.replicate k '0' ++ digits) := by
  obtain ⟨ds, rfl, hlt, hvalue⟩ := h
  refine ⟨List.replicate k 0 ++ ds, by simp, ?_, ?_⟩
  · intro d hd
    rcases List.mem_append.1 hd with hd | hd
    · rw [(List.mem_replicate.1 hd).2]
      omega
    · exact hlt d hd
  · rw [List.reverse_append, List.reverse_replicate, Nat.ofDigits_append, hvalue,
      Nat.ofDigits_replicate_zero, Nat.mul_zero, Nat.add_zero]

theorem writes_padded {base : Nat} (hb : 1 < base) (width n : Nat) :
    Writes base n (padded base width n) :=
  (writes_toDigits hb n).replicate_zero_append hb _

/-- Digits denote one number. -/
theorem Writes.eq {base n n' : Nat} {digits : List Char} (hb : base ≤ 16)
    (h : Writes base n digits) (h' : Writes base n' digits) : n = n' := by
  have hread {ds : List Nat} (hlt : ∀ d ∈ ds, d < base) :
      (ds.map Nat.digitChar).map hexDigit? = ds.map some := by
    rw [List.map_map]
    exact List.map_congr_left fun d hd => hexDigit?_digitChar (by have := hlt d hd; omega)
  obtain ⟨ds, rfl, hlt, rfl⟩ := h
  obtain ⟨ds', heq, hlt', rfl⟩ := h'
  have hsome : ds.map some = ds'.map some := by rw [← hread hlt, heq, hread hlt']
  rw [(List.map_inj_right fun _ _ => Option.some.inj).1 hsome]

theorem padded_inj {base : Nat} (hb : 1 < base) (hb' : base ≤ 16) {width n n' : Nat} :
    padded base width n = padded base width n' ↔ n = n' := by
  refine ⟨fun h => ?_, fun h => by rw [h]⟩
  have hwrites := writes_padded hb width n
  rw [h] at hwrites
  exact hwrites.eq hb' (writes_padded hb width n')

end Text

/-! ### Remainders of words -/

/-- The remainder as words of 128 bits give it. The modulus is a one moved to the left, and a
remainder below zero is made up for by the absolute value of the modulus. -/
def wordRemainder (value : BitVec 128) (width : Nat) : BitVec 128 :=
  let modulus := 1#128 <<< width
  let remainder := value.srem modulus
  if remainder.msb then remainder + modulus.abs else remainder

/-- At 127 places the modulus is the least word, and the remainder is as if it were positive. -/
theorem tmod_toInt_twoPow (value : Int) {width : Nat} (hw : width ≤ 127) :
    value.tmod (BitVec.twoPow 128 width).toInt = value.tmod (2 ^ width) := by
  rw [BitVec.toInt_twoPow, if_neg (by omega)]
  split
  · push_cast
    rw [Int.tmod_neg]
  · rfl

theorem toNat_abs_twoPow {width : Nat} (hw : width ≤ 127) :
    (BitVec.twoPow 128 width).abs.toNat = 2 ^ width := by
  have hlt : 2 ^ width < 2 ^ 128 := Nat.pow_lt_pow_right (by omega) (by omega)
  rw [BitVec.toNat_abs, BitVec.toNat_twoPow, Nat.mod_eq_of_lt hlt, BitVec.msb_twoPow]
  split
  · next hmsb =>
    have hlast : width = 127 := of_decide_eq_true (Bool.and_eq_true_iff.1 hmsb).2
    rw [hlast]
    rfl
  · rfl

theorem toInt_ofInt_of_int128 (value : Int128) :
    (BitVec.ofInt 128 value.val).toInt = value.val := by
  have hlow : -(2 ^ 127 : Int) ≤ value.val := value.property.1
  have hhigh : value.val < (2 ^ 127 : Int) := value.property.2
  rw [BitVec.toInt_ofInt]
  exact Int.bmod_eq_of_le (by omega) (by omega)

/-- Division of words toward zero leaves the remainder, or falls short of it by the modulus. -/
theorem tmod_eq_or (value modulus : Int) (hpos : 0 < modulus) :
    value.tmod modulus = value % modulus ∨ value.tmod modulus = value % modulus - modulus := by
  rw [Int.tmod_eq_emod]
  split
  · exact .inl (by simp)
  · exact .inr (by rw [Int.natAbs_of_nonneg hpos.le])

/-- Words give the remainder of the numbers, also for the least value and at the last width. -/
theorem toNat_wordRemainder (value : Int128) {width : Nat} (hw : width ≤ 127) :
    ((wordRemainder (BitVec.ofInt 128 value.val) width).toNat : Int) = value.val % 2 ^ width := by
  have hpos : (0 : Int) < 2 ^ width := Int.pow_pos (by decide)
  have hnonneg := Int.emod_nonneg value.val hpos.ne'
  have hlt := Int.emod_lt_of_pos value.val hpos
  have hbound : (2 : Int) ^ width ≤ 2 ^ 127 := by
    exact_mod_cast Nat.pow_le_pow_right (by omega) hw
  obtain ⟨r, hr⟩ : ∃ r, r = (BitVec.ofInt 128 value.val).srem (BitVec.twoPow 128 width) := ⟨_, rfl⟩
  have hword : wordRemainder (BitVec.ofInt 128 value.val) width =
      if r.msb then r + (BitVec.twoPow 128 width).abs else r := by
    rw [hr]
    rfl
  have hint : r.toInt = value.val.tmod (2 ^ width) := by
    rw [hr, BitVec.toInt_srem, toInt_ofInt_of_int128, tmod_toInt_twoPow _ hw]
  have hcases := tmod_eq_or value.val (2 ^ width) hpos
  have hsize : (r.toNat : Int) < 2 ^ 128 := by exact_mod_cast r.isLt
  rw [BitVec.toInt_eq_msb_cond] at hint
  rw [hword]
  cases hmsb : r.msb with
  | true =>
    -- the remainder is short by the modulus, and adding it passes the largest word
    simp only [hmsb, if_true] at hint ⊢
    push_cast at hint
    have hsum : (r.toNat : Int) + 2 ^ width = value.val % 2 ^ width + 2 ^ 128 := by omega
    rw [BitVec.toNat_add, toNat_abs_twoPow hw]
    push_cast
    rw [hsum]
    omega
  | false =>
    simp only [hmsb, Bool.false_eq_true, if_false] at hint ⊢
    omega

/-! ### Digits -/

theorem toNat_emod_lt (value : Int) (width : Nat) : (value % 2 ^ width).toNat < 2 ^ width := by
  rw [toNat_emod_two_pow]
  exact (BitVec.ofInt width value).isLt

theorem intLiteral_of_dvd (value : Int) {kind : Kind} {width : Nat}
    (hkind : kind.width? = some width) (h : 4 ∣ width) :
    (intLiteral value kind).toList =
      '#' :: 'x' :: Text.padded 16 (width / 4) (value % 2 ^ width).toNat := by
  simp [intLiteral, hkind, Nat.mod_eq_zero_of_dvd h]

theorem intLiteral_of_not_dvd (value : Int) {kind : Kind} {width : Nat}
    (hkind : kind.width? = some width) (h : ¬ 4 ∣ width) :
    (intLiteral value kind).toList =
      '#' :: 'b' :: Text.padded 2 width (value % 2 ^ width).toNat := by
  have hmod : width % 4 ≠ 0 := fun h0 => h (Nat.dvd_of_mod_eq_zero h0)
  simp [intLiteral, hkind, hmod]

theorem toNat_emod_inj (value value' : Int) (width : Nat) :
    (value % 2 ^ width).toNat = (value' % 2 ^ width).toNat ↔ value ≡ value' [ZMOD 2 ^ width] := by
  have hpos : (0 : Int) < 2 ^ width := Int.pow_pos (by decide)
  have hnonneg := Int.emod_nonneg value hpos.ne'
  have hnonneg' := Int.emod_nonneg value' hpos.ne'
  unfold Int.ModEq
  omega

/-- Literals of a vector kind are the same exactly when they stand for the same vector. -/
theorem intLiteral_eq_iff (value value' : Int) {kind : Kind} {width : Nat}
    (hkind : kind.width? = some width) :
    intLiteral value kind = intLiteral value' kind ↔ value ≡ value' [ZMOD 2 ^ width] := by
  rw [← String.toList_inj, ← toNat_emod_inj]
  by_cases h : 4 ∣ width
  · rw [intLiteral_of_dvd value hkind h, intLiteral_of_dvd value' hkind h]
    simp only [List.cons.injEq, true_and]
    exact Text.padded_inj (by omega) (by omega)
  · rw [intLiteral_of_not_dvd value hkind h, intLiteral_of_not_dvd value' hkind h]
    simp only [List.cons.injEq, true_and]
    exact Text.padded_inj (by omega) (by omega)

/-- Integer literals are exact over the whole range of words of 128 bits. At a vector kind of up to
127 bits, the text is a mark and as many digits as the width asks for, hexadecimal where four
divides the width and binary elsewhere. They denote the number modulo the number of vectors, so that
two literals are the same exactly when their numbers are congruent, and that remainder is what words
of 128 bits give. An integer literal is the decimal numeral of the number, or the negation of the
numeral of its absolute value. -/
theorem intLiterals_exact :
    (∀ (value : Int128) (kind : Kind) (width : Nat),
      kind.width? = some width → 1 ≤ width → width ≤ 127 →
      (4 ∣ width → ∃ digits, (intLiteral value.val kind).toList = '#' :: 'x' :: digits ∧
        digits.length = width / 4 ∧ Text.Writes 16 (value.val % 2 ^ width).toNat digits) ∧
      (¬ 4 ∣ width → ∃ digits, (intLiteral value.val kind).toList = '#' :: 'b' :: digits ∧
        digits.length = width ∧ Text.Writes 2 (value.val % 2 ^ width).toNat digits) ∧
      (∀ value' : Int128, intLiteral value.val kind = intLiteral value'.val kind ↔
        value.val ≡ value'.val [ZMOD 2 ^ width]) ∧
      ((wordRemainder (BitVec.ofInt 128 value.val) width).toNat : Int) = value.val % 2 ^ width) ∧
    ∀ value : Int128, ∃ digits, Smt.isNumeral digits = true ∧
      Text.Writes 10 value.val.natAbs digits ∧
      (intLiteral value.val .integer).toList =
        if value.val < 0 then "(- ".toList ++ digits ++ [')'] else digits := by
  constructor
  · intro value kind width hkind hpos hle
    have hlt := toNat_emod_lt value.val width
    refine ⟨fun h => ?_, fun h => ?_, fun value' => intLiteral_eq_iff _ _ hkind,
      toNat_wordRemainder value hle⟩
    · have hwidth : 0 < width / 4 := Nat.div_pos (Nat.le_of_dvd hpos h) (by omega)
      exact ⟨_, intLiteral_of_dvd value.val hkind h,
        Text.length_padded (by omega) hwidth (Text.sixteen_pow_eq h ▸ hlt),
        Text.writes_padded (by omega) _ _⟩
    · exact ⟨_, intLiteral_of_not_dvd value.val hkind h, Text.length_padded (by omega) hpos hlt,
        Text.writes_padded (by omega) _ _⟩
  · intro value
    refine ⟨Nat.toDigits 10 value.val.natAbs, Smt.isNumeral_toDigits _,
      Text.writes_toDigits (by omega) _, ?_⟩
    by_cases hneg : value.val < 0 <;> simp [intLiteral, Kind.width?, hneg]

def leastInt128 : Int128 := ⟨-Int.pow 2 127, by decide⟩

theorem intLiterals_exact_of_leastInt128 :
    (∃ digits, (intLiteral leastInt128.val (.signed 127)).toList = '#' :: 'b' :: digits ∧
      digits.length = 127 ∧ Text.Writes 2 0 digits) ∧
    (∃ digits, (intLiteral leastInt128.val (.unsigned 64)).toList = '#' :: 'x' :: digits ∧
      digits.length = 16 ∧ Text.Writes 16 0 digits) ∧
    ((wordRemainder (BitVec.ofInt 128 leastInt128.val) 127).toNat : Int) =
      leastInt128.val % 2 ^ 127 ∧
    ∃ digits, Smt.isNumeral digits = true ∧ Text.Writes 10 (2 ^ 127) digits ∧
      (intLiteral leastInt128.val .integer).toList = "(- ".toList ++ digits ++ [')'] := by
  have hlast := intLiterals_exact.1 leastInt128 (.signed 127) 127 rfl (by omega) (by omega)
  have hhex := intLiterals_exact.1 leastInt128 (.unsigned 64) 64 rfl (by omega) (by omega)
  exact ⟨hlast.2.1 (by omega), hhex.1 (by omega), hlast.2.2.2, intLiterals_exact.2 leastInt128⟩

end CoreProver
