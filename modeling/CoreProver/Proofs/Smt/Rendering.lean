import CoreProver.Obligation
import CoreProver.Proofs.Smt.Semantics
import CoreProver.Proofs.Symbols

/-!
# Terms as expressions

The text of a term spells one expression, whatever the names of its variables are. Where the term is
well-kinded, the value of that expression stands for the scalar that the term denotes.
-/

namespace CoreProver.Smt

theorem isBreak_of_isSymbolChar {c : Char} (h : isSymbolChar c = true) : isBreak c = false := by
  by_contra hc
  simp only [isBreak, isBlank, Bool.not_eq_false, Bool.or_eq_true, decide_eq_true_eq] at hc
  rcases hc with ((((((((rfl | rfl) | rfl) | rfl) | rfl) | rfl) | rfl) | rfl) | rfl)
  all_goals exact absurd h (by decide)

theorem isBreak_of_mem_symbol {word : List Char} {c : Char} (h : isSimpleSymbol word = true)
    (hc : c ∈ word) : isBreak c = false := by
  cases word with
  | nil => cases h
  | cons d ds =>
    simp only [isSimpleSymbol, Bool.and_eq_true] at h
    exact isBreak_of_isSymbolChar (List.all_eq_true.1 h.2 c hc)

theorem spells_symbol (name : String) (h : isSimpleSymbol name.toList = true) :
    Spells name.toList [.symbol name] :=
  spells_word (fun _ hc => isBreak_of_mem_symbol h hc) (by simp [Atom.ofWord?, h])

theorem isSymbolChar_of_isDigit {c : Char} (h : c.isDigit = true) : isSymbolChar c = true := by
  simp [isSymbolChar, Char.isAlphanum, h]

theorem isNumeral_toDigits (n : Nat) : isNumeral (Nat.toDigits 10 n) = true := by
  have hdigits : (Nat.toDigits 10 n).all Char.isDigit = true :=
    List.all_eq_true.2 fun c hc => Nat.isDigit_of_mem_toDigits (by omega) (by omega) hc
  rcases Nat.eq_zero_or_pos n with rfl | hn
  · rfl
  · have hhead := Text.head?_toDigits_ne_zero hn
    cases hd : Nat.toDigits 10 n with
    | nil => exact absurd hd Nat.toDigits_ne_nil
    | cons c cs =>
      rw [hd] at hdigits hhead
      have hc : c ≠ '0' := by simpa using hhead
      simp [isNumeral, hdigits, hc]

theorem spells_numeral (n : Nat) : Spells (Nat.toDigits 10 n) [.atom (.numeral n)] := by
  have hdigit : ∀ c ∈ Nat.toDigits 10 n, c.isDigit = true :=
    fun c hc => Nat.isDigit_of_mem_toDigits (by omega) (by omega) hc
  refine spells_word (fun c hc => ?_) ?_
  · exact isBreak_of_isSymbolChar (isSymbolChar_of_isDigit (hdigit c hc))
  · have hsymbol : isSimpleSymbol (Nat.toDigits 10 n) = false := by
      cases hd : Nat.toDigits 10 n with
      | nil => rfl
      | cons c cs => simp [isSimpleSymbol, hdigit c (hd ▸ List.mem_cons_self)]
    simp [Atom.ofWord?, hsymbol, isNumeral_toDigits]

theorem isBreak_digitChar {d : Nat} (hd : d < 16) : isBreak (Nat.digitChar d) = false := by
  interval_cases d <;> rfl

theorem padded_ne_nil (base width n : Nat) : Text.padded base width n ≠ [] := by
  simp [Text.padded]

/-- Digits behind a mark are one word. -/
theorem isBreak_of_mem_marked {base : Nat} {mark : Char} (hb : 1 < base) (hb' : base ≤ 16)
    (hm : isBreak mark = false) (width n : Nat) :
    ∀ c ∈ '#' :: mark :: Text.padded base width n, isBreak c = false := by
  intro c hc
  rcases List.mem_cons.1 hc with rfl | hc
  · rfl
  rcases List.mem_cons.1 hc with rfl | hc
  · exact hm
  obtain ⟨d, hd, rfl⟩ := Text.exists_digitChar_of_mem_padded hb width n c hc
  exact isBreak_digitChar (by omega)

/-- No word behind the hash sign is a symbol or a decimal number. -/
theorem hash_begins_no_symbol (word : List Char) :
    isSimpleSymbol ('#' :: word) = false ∧ isNumeral ('#' :: word) = false ∧
      isDecimal ('#' :: word) = false :=
  ⟨rfl, rfl, rfl⟩

theorem spells_hexadecimal (width n : Nat) :
    Spells ('#' :: 'x' :: Text.padded 16 width n)
      [.atom (.hexadecimal (Text.padded 16 width n))] := by
  refine spells_word (isBreak_of_mem_marked (by omega) (by omega) rfl width n) ?_
  have hall : (Text.padded 16 width n).all (fun c => (Text.hexDigit? c).isSome) = true := by
    refine List.all_eq_true.2 fun c hc => ?_
    obtain ⟨d, hd, rfl⟩ := Text.exists_digitChar_of_mem_padded (by omega) width n c hc
    rw [Text.hexDigit?_digitChar hd]
    rfl
  simp [Atom.ofWord?, hash_begins_no_symbol, hall, padded_ne_nil]

theorem spells_binary (width n : Nat) :
    Spells ('#' :: 'b' :: Text.padded 2 width n) [.atom (.binary (Text.padded 2 width n))] := by
  refine spells_word (isBreak_of_mem_marked (by omega) (by omega) rfl width n) ?_
  have hall : (Text.padded 2 width n).all (fun c => c = '0' || c = '1') = true := by
    refine List.all_eq_true.2 fun c hc => ?_
    obtain ⟨d, hd, rfl⟩ := Text.exists_digitChar_of_mem_padded (by omega) width n c hc
    interval_cases d <;> rfl
  simp [Atom.ofWord?, hash_begins_no_symbol, hall, padded_ne_nil]

/-- A symbol in front of the spelling of its operands, in parentheses. -/
theorem Spells.application {text : List Char} {es : List SExpr} (h : Spells text es) (f : String)
    (hf : isSimpleSymbol f.toList = true) :
    Spells ('(' :: (f.toList ++ ' ' :: text ++ [')'])) [.list (.symbol f :: es)] :=
  ((spells_symbol f hf).append (c := ' ') rfl h).list

end CoreProver.Smt

namespace CoreProver

open Smt

theorem SymVar.isSimpleSymbol_symbol (v : SymVar) : isSimpleSymbol v.symbol.toList = true := by
  have hdecoration : ∀ c, isSymbolChar (symbolChar c) = true := by
    intro c
    unfold symbolChar
    split
    · next h =>
      rcases Bool.or_eq_true_iff.1 h with h | h
      · simp [isSymbolChar, h]
      · rw [of_decide_eq_true h]
        decide
    · decide
  have hdigits : ∀ c ∈ Nat.toDigits 10 v.id, isSymbolChar c = true :=
    fun c hc => isSymbolChar_of_isDigit (Nat.isDigit_of_mem_toDigits (by omega) (by omega) hc)
  have hletter : v.letter.isDigit = false ∧ isSymbolChar v.letter = true := by
    unfold SymVar.letter
    cases v.origin <;> decide
  rw [SymVar.toList_symbol, isSimpleSymbol, hletter.1]
  have hunderscore : isSymbolChar '_' = true := rfl
  simp only [List.all_cons, List.all_append, hletter.2, List.all_eq_true.2 hdigits, hunderscore,
    SymVar.decoration, List.all_map]
  simp [hdecoration]

theorem BinaryOp.isSimpleSymbol_symbol (op : BinaryOp) (k : Kind) :
    isSimpleSymbol (op.symbol k).toList = true := by
  cases op <;> cases k <;> simp only [symbol] <;> decide

theorem UnaryOp.isSimpleSymbol_symbol (op : UnaryOp) (k : Kind) :
    isSimpleSymbol (op.symbol k).toList = true := by
  cases op <;> cases k <;> simp only [symbol, Kind.isBitVector] <;> decide

/-! ### The expression of a term -/

def literalExpr (value : Int) (kind : Kind) : SExpr :=
  match kind.width? with
  | none =>
    if value < 0 then .list [.symbol "-", .atom (.numeral value.natAbs)]
    else .atom (.numeral value.natAbs)
  | some width =>
    let bits := (value % 2 ^ width).toNat
    if width % 4 = 0 then .atom (.hexadecimal (Text.padded 16 (width / 4) bits))
    else .atom (.binary (Text.padded 2 width bits))

/-- The expression that the text of a term spells. -/
def Term.expr : Term → SExpr
  | var v => .symbol v.symbol
  | bool true => .symbol "true"
  | bool false => .symbol "false"
  | int value kind => literalExpr value kind
  | unary op operand => .list [.symbol (op.symbol operand.kind), operand.expr]
  | binary op left right => .list [.symbol (op.symbol left.kind), left.expr, right.expr]
  | ite condition yes no => .list [.symbol "ite", condition.expr, yes.expr, no.expr]

theorem spells_intLiteral (value : Int) (kind : Kind) :
    Spells (intLiteral value kind).toList [literalExpr value kind] := by
  unfold intLiteral literalExpr
  cases kind.width? with
  | none =>
    by_cases hneg : value < 0
    · simpa [hneg] using (spells_numeral value.natAbs).application "-" rfl
    · simpa [hneg] using spells_numeral value.natAbs
  | some width =>
    by_cases hhex : width % 4 = 0
    · simpa [hhex] using spells_hexadecimal (width / 4) (value % 2 ^ width).toNat
    · simpa [hhex] using spells_binary width (value % 2 ^ width).toNat

/-- The text of a term spells one expression, well-kinded or not. -/
theorem Term.spells_text (t : Term) : Spells t.text.toList [t.expr] := by
  induction t with
  | var v => exact spells_symbol v.symbol v.isSimpleSymbol_symbol
  | bool value =>
    cases value with
    | true => exact spells_symbol "true" rfl
    | false => exact spells_symbol "false" rfl
  | int value kind => exact spells_intLiteral value kind
  | unary op operand ih =>
    simpa [text, expr] using ih.application _ (op.isSimpleSymbol_symbol operand.kind)
  | binary op left right ihl ihr =>
    have hoperands := ihl.append (c := ' ') rfl ihr
    simpa [text, expr] using hoperands.application _ (op.isSimpleSymbol_symbol left.kind)
  | ite condition yes no ihc ihy ihn =>
    have hbranches := ihc.append (c := ' ') rfl (ihy.append (c := ' ') rfl ihn)
    simpa [text, expr] using hbranches.application "ite" rfl

/-! ### Its value -/

theorem bits_ofNat_congr {width width' : Nat} (h : width = width') (n : Nat) :
    Smt.Value.bits width (BitVec.ofNat width n) = .bits width' (BitVec.ofNat width' n) := by
  rw [h]

/-- The number that the digits of a literal denote is the vector's. -/
theorem toNat_emod_two_pow (width : Nat) (value : Int) :
    (value % 2 ^ width).toNat = (BitVec.ofInt width value).toNat := by
  rw [BitVec.toNat_ofInt]
  push_cast
  rfl

/-- The digits of a vector are as many as its width needs, so that they are read as the vector. -/
theorem value?_literalExpr_of_width (D : DivisionByZero) (model : String → Option Smt.Value)
    (value : Int) {kind : Kind} {width : Nat} (hkind : kind.width? = some width)
    (hpos : 0 < width) :
    (literalExpr value kind).value? D model = some (.bits width (BitVec.ofInt width value)) := by
  have hlt : (BitVec.ofInt width value).toNat < 2 ^ width := (BitVec.ofInt width value).isLt
  have hvector :
      BitVec.ofNat width (BitVec.ofInt width value).toNat = BitVec.ofInt width value := by
    rw [BitVec.ofNat_toNat, BitVec.setWidth_eq]
  simp only [literalExpr, hkind, toNat_emod_two_pow]
  by_cases hhex : width % 4 = 0
  · have hfour : 4 * (width / 4) = width := by omega
    have hpow := Text.sixteen_pow_eq (Nat.dvd_of_mod_eq_zero hhex)
    have hlen := Text.length_padded (by omega) (by omega : 0 < width / 4) (hpow ▸ hlt)
    rw [if_pos hhex, SExpr.value?, Atom.value?, Text.ofHex?_padded, Option.map_some, hlen,
      bits_ofNat_congr hfour, hvector]
  · have hlen := Text.length_padded (by omega : 1 < 2) hpos hlt
    rw [if_neg hhex, SExpr.value?, Atom.value?, Text.ofDigitChars_padded, bits_ofNat_congr hlen,
      hvector]

theorem value?_literalExpr (D : DivisionByZero) (model : String → Option Smt.Value) (value : Int)
    {kind : Kind} (hnum : kind.isNumeric = true) (hwidth : kind.width? ≠ some 0) :
    (literalExpr value kind).value? D model = some (kind.encode (kind.number value)) := by
  cases kind with
  | bool => cases hnum
  | integer =>
    by_cases hneg : value < 0
    · have habs : -(value.natAbs : Int) = value := by omega
      simpa [literalExpr, Kind.width?, hneg, SExpr.value?, SExpr.values?, Atom.value?,
        SExpr.symbol, interpret, Kind.encode, Kind.number, Kind.wrap] using habs
    · have habs : (value.natAbs : Int) = value := by omega
      simp [literalExpr, Kind.width?, hneg, SExpr.value?, Atom.value?, Kind.encode, Kind.number,
        Kind.wrap, habs]
  | signed width =>
    rw [Kind.encode_signed_number]
    exact value?_literalExpr_of_width D model value rfl
      (Nat.pos_of_ne_zero fun h => hwidth (congrArg some h))
  | unsigned width =>
    rw [Kind.encode_unsigned_number]
    exact value?_literalExpr_of_width D model value rfl
      (Nat.pos_of_ne_zero fun h => hwidth (congrArg some h))

/-- A variable stands for what the model gives to its symbol, which is no truth value. -/
theorem SymVar.value?_symbol (model : String → Option Smt.Value) (v : SymVar) :
    (Atom.symbol v.symbol).value? model = model v.symbol := by
  have hhead : v.symbol.toList.head? = some v.letter := by rw [toList_symbol]; rfl
  have hne : ∀ s : String, s.toList.head? ≠ some 'l' → s.toList.head? ≠ some 'u' →
      v.symbol ≠ s := by
    rintro s hl hu rfl
    rcases v.letter_eq with h | h <;> rw [h] at hhead
    · exact hl hhead
    · exact hu hhead
  have htrue := hne "true" (by decide) (by decide)
  have hfalse := hne "false" (by decide) (by decide)
  rw [Atom.value?] <;> assumption

theorem values?_nil {D : DivisionByZero} {model : String → Option Smt.Value} :
    SExpr.values? D model [] = some [] := rfl

theorem values?_cons {D : DivisionByZero} {model : String → Option Smt.Value} {e : SExpr}
    {es : List SExpr} {x : Smt.Value} {xs : List Smt.Value} (h : e.value? D model = some x)
    (hs : SExpr.values? D model es = some xs) :
    SExpr.values? D model (e :: es) = some (x :: xs) := by
  rw [SExpr.values?, h, hs, Option.bind_some, Option.map_some]

theorem value?_application {D : DivisionByZero} {model : String → Option Smt.Value} {f : String}
    {es : List SExpr} {xs : List Smt.Value} (h : SExpr.values? D model es = some xs) :
    (SExpr.list (.symbol f :: es)).value? D model = interpret D f xs := by
  rw [SExpr.symbol, SExpr.value?, h, Option.bind_some]

/-- The expression of a well-kinded term has a value, which stands for the scalar that the term
denotes. -/
theorem Term.value?_expr (D : DivisionByZero) {model : String → Option Smt.Value}
    {assignment : SymVar → Scalar} (t : Term) (ht : t.wellKinded = true)
    (hwidth : ∀ k ∈ t.partKinds, k.width? ≠ some 0)
    (hhas : ∀ v ∈ t.occurrences, v.kind.has (assignment v) = true)
    (hmodel : ∀ v ∈ t.occurrences, model v.symbol = some (v.kind.encode (assignment v))) :
    t.expr.value? D model = some (t.kind.encode (t.denote D assignment)) := by
  induction t with
  | var v =>
    rw [expr, SExpr.symbol, SExpr.value?, SymVar.value?_symbol, hmodel v (by simp [occurrences])]
    rfl
  | bool value => cases value <;> rfl
  | int value kind =>
    exact value?_literalExpr D model value ht (hwidth kind (by simp [partKinds, Term.kind]))
  | unary op operand ih =>
    simp only [wellKinded, Bool.and_eq_true] at ht
    simp only [partKinds, List.mem_cons] at hwidth
    have hoperand := ih ht.1 (fun k hk => hwidth k (.inr hk)) hhas hmodel
    rw [expr, value?_application (values?_cons hoperand values?_nil),
      UnaryOp.interpret_symbol D ht.2 (operand.has_denote D ht.1 hhas), kind_unary, denote]
  | binary op left right ihl ihr =>
    simp only [wellKinded, Bool.and_eq_true] at ht
    simp only [partKinds, List.mem_cons, List.mem_append] at hwidth
    simp only [occurrences, List.mem_append] at hhas hmodel
    obtain ⟨⟨hl, hr⟩, hop⟩ := ht
    have hleft := ihl hl (fun k hk => hwidth k (.inr (.inl hk))) (fun v hv => hhas v (.inl hv))
      fun v hv => hmodel v (.inl hv)
    have hright := ihr hr (fun k hk => hwidth k (.inr (.inr hk))) (fun v hv => hhas v (.inr hv))
      fun v hv => hmodel v (.inr hv)
    -- The symbol was chosen by the left operand alone.
    have hkind := op.kind_eq_of_accepts hop
    rw [← hkind] at hright hop
    rw [expr, value?_application (values?_cons hleft (values?_cons hright values?_nil)),
      BinaryOp.interpret_symbol D hop (left.has_denote D hl fun v hv => hhas v (.inl hv))
        (hkind ▸ right.has_denote D hr fun v hv => hhas v (.inr hv)), kind_binary, denote]
  | ite condition yes no ihc ihy ihn =>
    simp only [wellKinded, Bool.and_eq_true, decide_eq_true_eq] at ht
    simp only [partKinds, List.mem_cons, List.mem_append] at hwidth
    simp only [occurrences, List.mem_append] at hhas hmodel
    obtain ⟨⟨⟨⟨hc, hy⟩, hn⟩, hbool⟩, hkind⟩ := ht
    have hcondition := ihc hc (fun k hk => hwidth k (.inr (.inl (.inl hk))))
      (fun v hv => hhas v (.inl (.inl hv))) fun v hv => hmodel v (.inl (.inl hv))
    have hyes := ihy hy (fun k hk => hwidth k (.inr (.inl (.inr hk))))
      (fun v hv => hhas v (.inl (.inr hv))) fun v hv => hmodel v (.inl (.inr hv))
    have hno := ihn hn (fun k hk => hwidth k (.inr (.inr hk)))
      (fun v hv => hhas v (.inr hv)) fun v hv => hmodel v (.inr hv)
    have hhasc := condition.has_denote D hc fun v hv => hhas v (.inl (.inl hv))
    rw [hbool] at hcondition hhasc
    rw [← hkind] at hno
    have hoperands := values?_cons hcondition (values?_cons hyes (values?_cons hno values?_nil))
    rw [expr, value?_application hoperands, interpret_ite D hhasc]
    rfl

end CoreProver
