import CoreProver.Proofs.Smt.Rendering

/-!
# The vocabulary of the solver's language

Words that have a meaning already: the reserved ones, and the functions of the theories of the
SMT-LIB standard. None of them starts with a letter for an origin and a digit, so that a variable
never takes one of them for its symbol, whatever its name is.
-/

namespace CoreProver.Smt

/-- The words of the grammar and the names of the commands. -/
def reservedWords : List String :=
  ["!", "_", "as", "BINARY", "DECIMAL", "exists", "HEXADECIMAL", "forall", "lambda", "let", "match",
    "NUMERAL", "par", "STRING",
    "assert", "check-sat", "check-sat-assuming", "declare-const", "declare-datatype",
    "declare-datatypes", "declare-fun", "declare-sort", "declare-sort-parameter", "define-const",
    "define-fun", "define-fun-rec", "define-funs-rec", "define-sort", "echo", "exit",
    "get-assertions", "get-assignment", "get-info", "get-model", "get-option", "get-proof",
    "get-unsat-assumptions", "get-unsat-core", "get-value", "pop", "push", "reset",
    "reset-assertions", "set-info", "set-logic", "set-option"]

/-- The functions on truth values, numbers, arrays, vectors, floating-point numbers and texts. Where
vectors meet integers, a script is in the logic of all theories. -/
def theoryFunctions : List String :=
  ["true", "false", "not", "=>", "and", "or", "xor", "=", "distinct", "ite",
    "-", "+", "*", "/", "div", "mod", "abs", "divisible", "<=", "<", ">=", ">", "to_real",
    "to_int", "is_int",
    "select", "store",
    "concat", "extract", "repeat", "zero_extend", "sign_extend", "rotate_left", "rotate_right",
    "bvnot", "bvneg", "bvand", "bvor", "bvxor", "bvnand", "bvnor", "bvxnor", "bvcomp", "bvadd",
    "bvsub", "bvmul", "bvudiv", "bvurem", "bvsdiv", "bvsrem", "bvsmod", "bvshl", "bvlshr",
    "bvashr", "bvult", "bvule", "bvugt", "bvuge", "bvslt", "bvsle", "bvsgt", "bvsge", "bvnego",
    "bvuaddo", "bvsaddo", "bvumulo", "bvsmulo", "bvusubo", "bvssubo", "bvsdivo", "nat2bv",
    "bv2nat", "int_to_bv", "ubv_to_int", "sbv_to_int",
    "fp", "fp.abs", "fp.neg", "fp.add", "fp.sub", "fp.mul", "fp.div", "fp.fma", "fp.sqrt",
    "fp.rem", "fp.roundToIntegral", "fp.min", "fp.max", "fp.leq", "fp.lt", "fp.geq", "fp.gt",
    "fp.eq", "fp.isNormal", "fp.isSubnormal", "fp.isZero", "fp.isInfinite", "fp.isNaN",
    "fp.isNegative", "fp.isPositive", "to_fp", "to_fp_unsigned", "fp.to_ubv", "fp.to_sbv",
    "fp.to_real", "roundNearestTiesToEven", "RNE", "roundNearestTiesToAway", "RNA",
    "roundTowardPositive", "RTP", "roundTowardNegative", "RTN", "roundTowardZero", "RTZ", "+oo",
    "-oo", "+zero", "-zero", "NaN",
    "char", "str.++", "str.len", "str.<", "str.<=", "str.at", "str.substr", "str.prefixof",
    "str.suffixof", "str.contains", "str.indexof", "str.replace", "str.replace_all",
    "str.replace_re", "str.replace_re_all", "str.is_digit", "str.to_code", "str.from_code",
    "str.to_int", "str.from_int", "str.to_re", "str.in_re", "re.none", "re.all", "re.allchar",
    "re.++", "re.union", "re.inter", "re.*", "re.comp", "re.diff", "re.+", "re.opt", "re.range",
    "re.^", "re.loop"]

/-- Whether a word starts with a letter for an origin and a digit. -/
def isNumbered : List Char → Bool
  | letter :: digit :: _ => (letter = 'l' || letter = 'u') && digit.isDigit
  | _ => false

/-- Nothing in the vocabulary looks like the symbol of a variable. -/
theorem isNumbered_eq_false_of_mem {word : String}
    (h : word ∈ reservedWords ++ theoryFunctions) : isNumbered word.toList = false := by
  have hall : (reservedWords ++ theoryFunctions).all (fun s => !isNumbered s.toList) = true := by
    decide +kernel
  simpa using List.all_eq_true.1 hall word h

theorem mem_theoryFunctions_of_onTruths {x y : Bool} {f : String} {z : Value}
    (h : onTruths x y f = some z) : f ∈ theoryFunctions := by
  unfold onTruths at h
  split at h
  case h_4 => cases h
  all_goals decide

theorem mem_theoryFunctions_of_onIntegers {D : DivisionByZero} {x y : Int} {f : String} {z : Value}
    (h : onIntegers D x y f = some z) : f ∈ theoryFunctions := by
  unfold onIntegers at h
  split at h
  case h_10 => cases h
  all_goals decide

theorem mem_theoryFunctions_of_onVectors {width : Nat} {x y : BitVec width} {f : String}
    {z : Value} (h : onVectors x y f = some z) : f ∈ theoryFunctions := by
  unfold onVectors at h
  split at h
  case h_17 => cases h
  all_goals decide

/-- What has a meaning as a function belongs to the vocabulary. -/
theorem mem_theoryFunctions_of_interpret {D : DivisionByZero} {f : String} {xs : List Value}
    {z : Value} (h : interpret D f xs = some z) : f ∈ theoryFunctions := by
  have hnamed (name : String) {y : Option Value} (hname : name ∈ theoryFunctions)
      (h : (if f = name then y else none) = some z) : f ∈ theoryFunctions := by
    split at h
    · next hf => exact hf ▸ hname
    · cases h
  unfold interpret at h
  split at h
  · exact hnamed "not" (by decide) h
  · exact hnamed "-" (by decide) h
  · exact hnamed "bvneg" (by decide) h
  · split at h
    · cases h
    split at h
    · next hf => subst hf; decide
    split at h
    · next hf => subst hf; decide
    split at h
    · exact mem_theoryFunctions_of_onTruths h
    · exact mem_theoryFunctions_of_onIntegers h
    · split at h
      · exact mem_theoryFunctions_of_onVectors h
      · cases h
    · cases h
  · split at h
    · next hf => rw [hf.1]; decide
    · cases h
  · cases h

end CoreProver.Smt

namespace CoreProver

open Smt

namespace SymVar

/-- A symbol is a letter, the digits of the number, an underscore and what is left of the name. -/
theorem isAlphanum_or_eq_underscore_of_mem_symbol (v : SymVar) {c : Char}
    (hc : c ∈ v.symbol.toList) : c.isAlphanum = true ∨ c = '_' := by
  rw [toList_symbol] at hc
  rcases List.mem_cons.1 hc with rfl | hc
  · left
    rcases v.letter_eq with h | h <;> rw [h] <;> rfl
  rcases List.mem_append.1 hc with hc | hc
  · left
    have hdigit : c.isDigit = true := Nat.isDigit_of_mem_toDigits (by omega) (by omega) hc
    simp [Char.isAlphanum, hdigit]
  rcases List.mem_cons.1 hc with rfl | hc
  · exact .inr rfl
  obtain ⟨d, -, rfl⟩ := List.mem_map.1 hc
  unfold symbolChar
  split
  · next h => simpa using h
  · exact .inr rfl

theorem isNumbered_symbol (v : SymVar) : isNumbered v.symbol.toList = true := by
  rw [toList_symbol]
  cases hd : Nat.toDigits 10 v.id with
  | nil => exact absurd hd Nat.toDigits_ne_nil
  | cons digit digits =>
    have hdigit : digit.isDigit = true :=
      Nat.isDigit_of_mem_toDigits (n := v.id) (by omega) (by omega) (hd ▸ List.mem_cons_self)
    rcases v.letter_eq with h | h <;> simp [isNumbered, h, hdigit]

/-- No variable takes a word of the vocabulary for its symbol. -/
theorem symbol_not_mem_vocabulary (v : SymVar) :
    v.symbol ∉ reservedWords ++ theoryFunctions := by
  intro h
  have hfalse := isNumbered_eq_false_of_mem h
  rw [v.isNumbered_symbol] at hfalse
  cases hfalse

/-- Symbols tell variables apart, whatever characters their names have. Two variables have one
symbol exactly when they have the same origin, the same number and names that look the same in a
symbol. Every symbol is a simple one of letters, digits and underscores, starts with the letter of
its origin and a digit, and is neither reserved nor a function of a theory, so that nothing but a
model gives it a meaning. -/
theorem symbols_identify_variables :
    (∀ v w : SymVar, v.symbol = w.symbol ↔
      v.origin = w.origin ∧ v.id = w.id ∧
        v.name.toList.map symbolChar = w.name.toList.map symbolChar) ∧
    ∀ v : SymVar,
      isSimpleSymbol v.symbol.toList = true ∧
      (∀ c ∈ v.symbol.toList, c.isAlphanum = true ∨ c = '_') ∧
      v.symbol.toList.head? = some (if v.origin = .parameter then 'l' else 'u') ∧
      isNumbered v.symbol.toList = true ∧
      v.symbol ∉ reservedWords ∧ v.symbol ∉ theoryFunctions ∧
      ∀ D xs, interpret D v.symbol xs = none := by
  refine ⟨symbol_eq_iff, fun v => ?_⟩
  have hvocabulary := v.symbol_not_mem_vocabulary
  rw [List.mem_append, not_or] at hvocabulary
  have hhead : v.symbol.toList.head? = some (if v.origin = .parameter then 'l' else 'u') := by
    rw [toList_symbol]
    cases h : v.origin <;> simp [letter, h]
  refine ⟨v.isSimpleSymbol_symbol, fun c hc => v.isAlphanum_or_eq_underscore_of_mem_symbol hc,
    hhead, v.isNumbered_symbol, hvocabulary.1, hvocabulary.2, fun D xs => ?_⟩
  rcases hz : interpret D v.symbol xs with _ | z
  · rfl
  · exact absurd (mem_theoryFunctions_of_interpret hz) hvocabulary.2

end SymVar

end CoreProver
