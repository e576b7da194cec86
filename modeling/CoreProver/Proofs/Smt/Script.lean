import CoreProver.Proofs.Smt.Rendering
import Mathlib.Data.List.Nodup

/-!
# Scripts as commands

The script of an obligation, read as SMT-LIB, consists of its declarations, one assertion and the
fixed commands around them, whatever the names of the variables are. The asserted formula is true in
a model exactly when the goal is false of the scalars that the model stands for.
-/

namespace CoreProver.Smt

/-- A command of a script. -/
inductive Command where
  | setOption (keyword value : String)
  | setLogic (name : String)
  | declareFun (name : String) (parameters : List Domain) (result : Domain)
  | assert (formula : SExpr)
  | checkSat
  | getInfo (keyword : String)
  | getModel
  | exit
  deriving Repr

/-- The sort that an expression stands for; vectors have at least one bit. -/
def SExpr.domain? : SExpr → Option Domain
  | .atom (.symbol name) =>
    if name = "Bool" then some .bool else if name = "Int" then some .int else none
  | .list [.atom (.symbol underscore), .atom (.symbol name), .atom (.numeral width)] =>
    if underscore = "_" ∧ name = "BitVec" ∧ 0 < width then some (.bitVec width) else none
  | _ => none

/-- The command with a name and operands. -/
def Command.ofOperands? (name : String) (operands : List SExpr) : Option Command :=
  match name with
  | "set-option" =>
    match operands with
    | [.atom (.keyword keyword), .atom (.symbol value)] => some (.setOption keyword value)
    | _ => none
  | "set-logic" =>
    match operands with
    | [.atom (.symbol logic)] => some (.setLogic logic)
    | _ => none
  | "declare-fun" =>
    match operands with
    | [.atom (.symbol function), .list parameters, result] =>
      (parameters.mapM SExpr.domain?).bind fun domains =>
        result.domain?.map (.declareFun function domains)
    | _ => none
  | "assert" =>
    match operands with
    | [formula] => some (.assert formula)
    | _ => none
  | "get-info" =>
    match operands with
    | [.atom (.keyword keyword)] => some (.getInfo keyword)
    | _ => none
  | "check-sat" => if operands.isEmpty then some .checkSat else none
  | "get-model" => if operands.isEmpty then some .getModel else none
  | "exit" => if operands.isEmpty then some .exit else none
  | _ => none

def Command.ofSExpr? : SExpr → Option Command
  | .list (.atom (.symbol name) :: operands) => ofOperands? name operands
  | _ => none

/-- The commands that a text consists of. -/
def readScript? (text : String) : Option (List Command) :=
  (read? text.toList).bind (·.mapM Command.ofSExpr?)

theorem spells_keyword (name : String) (h : isSimpleSymbol name.toList = true) :
    Spells (':' :: name.toList) [.atom (.keyword name)] := by
  refine spells_word (fun c hc => ?_) ?_
  · rcases List.mem_cons.1 hc with rfl | hc
    · rfl
    · exact isBreak_of_mem_symbol h hc
  · have hcolon : isSimpleSymbol (':' :: name.toList) = false ∧
        isNumeral (':' :: name.toList) = false ∧ isDecimal (':' :: name.toList) = false :=
      ⟨rfl, rfl, rfl⟩
    simp [Atom.ofWord?, hcolon, h]

theorem Spells.lines {α : Type} {f : α → List Char} {g : α → SExpr} (xs : List α)
    (h : ∀ x ∈ xs, Spells (f x) [g x]) {text : List Char} {es : List SExpr}
    (htext : Spells text es) :
    Spells (xs.flatMap (fun x => f x ++ ['\n']) ++ text) (xs.map g ++ es) := by
  induction xs with
  | nil => exact htext
  | cons x xs ih =>
    have htail := ih fun y hy => h y (List.mem_cons_of_mem _ hy)
    simpa using (h x List.mem_cons_self).append (c := '\n') rfl htail

end CoreProver.Smt

namespace CoreProver

open Smt

/-- The expression that the sort of a kind is written as. -/
def Kind.sortExpr : Kind → SExpr
  | bool => .symbol "Bool"
  | integer => .symbol "Int"
  | signed width | unsigned width =>
    .list [.symbol "_", .symbol "BitVec", .atom (.numeral width)]

theorem Kind.spells_sort (k : Kind) : Spells k.sort.toList [k.sortExpr] := by
  have hvector (width : Nat) : Spells ("(_ BitVec " ++ Nat.repr width ++ ")").toList
      [.list [.symbol "_", .symbol "BitVec", .atom (.numeral width)]] := by
    have hsize := (spells_symbol "BitVec" rfl).append (c := ' ') rfl (spells_numeral width)
    simpa using hsize.application "_" rfl
  cases k with
  | bool => exact spells_symbol "Bool" rfl
  | integer => exact spells_symbol "Int" rfl
  | signed width => exact hvector width
  | unsigned width => exact hvector width

theorem Kind.domain?_sortExpr {k : Kind} (h : k.width? ≠ some 0) :
    k.sortExpr.domain? = some k.domain := by
  have hpos (width : Nat) (h : some width ≠ some 0) : 0 < width :=
    Nat.pos_of_ne_zero fun h0 => h (congrArg some h0)
  cases k with
  | bool => rfl
  | integer => rfl
  | signed width => exact if_pos ⟨rfl, rfl, hpos width h⟩
  | unsigned width => exact if_pos ⟨rfl, rfl, hpos width h⟩

namespace Obligation

/-- The commands of the script, with the formula that it asserts. -/
def commands (o : Obligation) (formula : SExpr) (withModel : Bool) : List Smt.Command :=
  let ending : List Smt.Command :=
    if withModel then [.getInfo "reason-unknown", .getModel, .exit] else [.exit]
  .setOption "produce-models" "true" :: .setLogic o.logic ::
    (o.vars.map (fun v => .declareFun v.symbol [] v.kind.domain) ++
      .assert formula :: .checkSat :: ending)

/-- The formula that the script asserts: the negated goal. -/
def formula (o : Obligation) : SExpr := .list [.symbol "not", o.goal.expr]

def declarationExpr (v : SymVar) : SExpr :=
  .list [.symbol "declare-fun", .symbol v.symbol, .list [], v.kind.sortExpr]

/-- The expressions of the commands behind the check. -/
def endingExprs (withModel : Bool) : List SExpr :=
  let exit := SExpr.list [.symbol "exit"]
  if withModel then
    [.list [.symbol "get-info", .atom (.keyword "reason-unknown")], .list [.symbol "get-model"],
      exit]
  else [exit]

/-- The expressions that the script consists of. -/
def scriptExprs (o : Obligation) (withModel : Bool) : List SExpr :=
  .list [.symbol "set-option", .atom (.keyword "produce-models"), .symbol "true"] ::
    .list [.symbol "set-logic", .symbol o.logic] ::
    (o.vars.map declarationExpr ++
      .list [.symbol "assert", o.formula] :: .list [.symbol "check-sat"] :: endingExprs withModel)

theorem isSimpleSymbol_logic (o : Obligation) : isSimpleSymbol o.logic.toList = true := by
  simp only [logic]
  split
  · split <;> decide
  · decide

/-- The text of a declaration without the end of its line. -/
def declarationLine (v : SymVar) : List Char :=
  '(' :: ("declare-fun".toList ++ ' ' :: (v.symbol.toList ++ ' ' :: '(' :: ')' :: ' ' ::
    v.kind.sort.toList) ++ [')'])

theorem toList_declaration (v : SymVar) : (declaration v).toList = declarationLine v ++ ['\n'] := by
  unfold declaration declarationLine
  simp

theorem spells_declarationLine (v : SymVar) : Spells (declarationLine v) [declarationExpr v] := by
  have hsymbol := spells_symbol v.symbol v.isSimpleSymbol_symbol
  have hrest := hsymbol.append (c := ' ') rfl
    (spells_nil.list.append (c := ' ') rfl v.kind.spells_sort)
  exact hrest.application "declare-fun" rfl

theorem spells_ending (withModel : Bool) :
    Spells ((if withModel then "(get-info :reason-unknown)\n(get-model)\n" else "") ++
      "(exit)\n").toList (endingExprs withModel) := by
  have hexit := (spells_symbol "exit" rfl).list.append (c := '\n') rfl spells_nil
  cases withModel with
  | false => simpa [endingExprs] using hexit
  | true =>
    have hinfo := (spells_keyword "reason-unknown" rfl).application "get-info" rfl
    have hmodel := (spells_symbol "get-model" rfl).list
    have hall := hinfo.append (c := '\n') rfl (hmodel.append (c := '\n') rfl hexit)
    simpa [endingExprs] using hall

theorem spells_script (o : Obligation) (withModel : Bool) :
    Spells (o.script withModel).toList (o.scriptExprs withModel) := by
  have hoption := ((spells_keyword "produce-models" rfl).append (c := ' ') rfl
    (spells_symbol "true" rfl)).application "set-option" rfl
  have hlogic := (spells_symbol o.logic o.isSimpleSymbol_logic).application "set-logic" rfl
  have hassert := (o.goal.spells_text.application "not" rfl).application "assert" rfl
  have hcheck := (spells_symbol "check-sat" rfl).list
  have hend := hassert.append (c := '\n') rfl
    (hcheck.append (c := '\n') rfl (spells_ending withModel))
  have hdeclarations := Spells.lines o.vars (fun v _ => spells_declarationLine v) hend
  have hscript := hoption.append (c := '\n') rfl
    (hlogic.append (c := '\n') rfl hdeclarations)
  unfold script scriptExprs formula
  simpa [String.toList_join, List.flatMap_map, toList_declaration] using hscript

/-- A declaration is read as one, with the sort of its variable's kind. -/
theorem ofSExpr?_declarationExpr {v : SymVar} (h : v.kind.width? ≠ some 0) :
    Smt.Command.ofSExpr? (declarationExpr v) = some (.declareFun v.symbol [] v.kind.domain) := by
  simp [declarationExpr, SExpr.symbol, Smt.Command.ofSExpr?, Smt.Command.ofOperands?,
    Kind.domain?_sortExpr h]

/-- Its expressions are its commands. -/
theorem mapM_ofSExpr?_scriptExprs (o : Obligation) (withModel : Bool)
    (hwidth : ∀ k ∈ o.kinds, k.width? ≠ some 0) :
    (o.scriptExprs withModel).mapM Smt.Command.ofSExpr? =
      some (o.commands o.formula withModel) := by
  have hdeclarations : (o.vars.map declarationExpr).mapM Smt.Command.ofSExpr? =
      some (o.vars.map fun v => .declareFun v.symbol [] v.kind.domain) := by
    have hvars : ∀ v ∈ o.vars, v.kind.width? ≠ some 0 :=
      fun v hv => hwidth v.kind (List.mem_map_of_mem hv)
    generalize o.vars = vars at hvars
    induction vars with
    | nil => rfl
    | cons v vs ih =>
      rw [List.map_cons, List.mapM_cons, ofSExpr?_declarationExpr (hvars v List.mem_cons_self),
        ih fun u hu => hvars u (List.mem_cons_of_mem _ hu)]
      rfl
  simp only [scriptExprs, List.mapM_cons, List.mapM_append, hdeclarations]
  cases withModel <;> rfl

/-! ### Models -/

/-- A model gives the symbols of the variables the values that stand for their scalars. -/
def Represents (o : Obligation) (model : String → Option Smt.Value)
    (assignment : SymVar → Scalar) : Prop :=
  ∀ v ∈ o.vars, model v.symbol = some (v.kind.encode (assignment v))

/-- The model of an assignment. -/
def model (o : Obligation) (assignment : SymVar → Scalar) (name : String) : Option Smt.Value :=
  (o.vars.find? (·.symbol = name)).map fun v => v.kind.encode (assignment v)

/-- Variables with different symbols can be given any scalars. -/
theorem represents_model {o : Obligation} (hsymbols : (o.vars.map SymVar.symbol).Nodup)
    (assignment : SymVar → Scalar) : o.Represents (o.model assignment) assignment := by
  intro v hv
  have hfind : o.vars.find? (·.symbol = v.symbol) = some v := by
    cases hf : o.vars.find? (·.symbol = v.symbol) with
    | none => simpa using List.find?_eq_none.1 hf v hv
    | some u =>
      have hu := List.mem_of_find?_eq_some hf
      have heq : u.symbol = v.symbol := by simpa using List.find?_some hf
      rw [List.inj_on_of_nodup_map hsymbols hu hv heq]
  rw [model, hfind, Option.map_some]

/-- In a model, the asserted formula is the negation of the goal. -/
theorem value?_formula (D : DivisionByZero) {o : Obligation} {model : String → Option Smt.Value}
    {assignment : SymVar → Scalar} (hbool : o.goal.kind = .bool)
    (hkinded : o.goal.wellKinded = true)
    (hwidth : ∀ k ∈ o.goal.partKinds, k.width? ≠ some 0)
    (hvars : ∀ v ∈ o.goal.occurrences, v ∈ o.vars)
    (hhas : ∀ v ∈ o.vars, v.kind.has (assignment v) = true)
    (hmodel : o.Represents model assignment) :
    ∃ b, o.goal.denote D assignment = .bool b ∧ o.formula.value? D model = some (.bool !b) := by
  have hgoal := o.goal.value?_expr D hkinded hwidth (fun v hv => hhas v (hvars v hv))
    fun v hv => hmodel v (hvars v hv)
  have hscalar := o.goal.has_denote D hkinded fun v hv => hhas v (hvars v hv)
  rw [hbool] at hgoal hscalar
  refine ⟨_, Kind.eq_bool_of_has hscalar, ?_⟩
  rw [formula, value?_application (values?_cons hgoal values?_nil)]
  rfl

/-- The script of an obligation consists of its commands alone. In every model of the variables, the
formula that it asserts is true exactly when the goal is false. -/
theorem script_asserts_negated_goal (o : Obligation) (withModel : Bool)
    (hbool : o.goal.kind = .bool) (hkinded : o.goal.wellKinded = true)
    (hwidth : ∀ k ∈ o.kinds ++ o.goal.partKinds, k.width? ≠ some 0)
    (hvars : ∀ v ∈ o.goal.freeVars, v ∈ o.vars)
    (hsymbols : (o.vars.map SymVar.symbol).Nodup) :
    ∃ formula, readScript? (o.script withModel) = some (o.commands formula withModel) ∧
      ∀ (D : DivisionByZero) (assignment : SymVar → Scalar),
        (∀ v ∈ o.vars, v.kind.has (assignment v) = true) →
          o.Represents (o.model assignment) assignment ∧
          ∀ model, o.Represents model assignment →
            (formula.value? D model = some (.bool true) ↔
              o.goal.denote D assignment = .bool false) ∧
            (formula.value? D model = some (.bool false) ↔
              o.goal.denote D assignment = .bool true) := by
  have hkinds : ∀ k ∈ o.kinds, k.width? ≠ some 0 :=
    fun k hk => hwidth k (List.mem_append_left _ hk)
  refine ⟨o.formula, ?_, fun D assignment hhas => ⟨represents_model hsymbols assignment, ?_⟩⟩
  · rw [readScript?, (o.spells_script withModel).read?, Option.bind_some,
      o.mapM_ofSExpr?_scriptExprs withModel hkinds]
  · intro model hmodel
    obtain ⟨b, hdenote, hvalue⟩ := value?_formula D hbool hkinded
      (fun k hk => hwidth k (List.mem_append_right _ hk))
      (fun v hv => hvars v ((mem_distinct v _).2 hv)) hhas hmodel
    rw [hdenote, hvalue]
    cases b <;> simp

/-- Whether the quotient of two signed vectors is below a literal, in variables with names that
would close the assertion, open a quoted symbol, a text or a comment, or are not even ASCII. -/
def hostileNames : Obligation :=
  let x : SymVar := ⟨0, "x)) (exit", .signed 7, .parameter⟩
  let y : SymVar := ⟨0, "| \";é\n", .signed 7, .constant⟩
  ⟨[x, y], .binary .lt (.binary .div (.var x) (.var y)) (.int (-3) (.signed 7))⟩

theorem script_asserts_negated_goal_of_hostileNames :
    (hostileNames.vars.map SymVar.symbol = ["l0_x____exit", "u0_______"] ∧
      hostileNames.goal.text = "(bvslt (bvsdiv l0_x____exit u0_______) #b1111101)") ∧
    ∃ formula, readScript? (hostileNames.script true) =
        some (hostileNames.commands formula true) ∧
      ∀ (D : DivisionByZero) (assignment : SymVar → Scalar),
        (∀ v ∈ hostileNames.vars, v.kind.has (assignment v) = true) →
          hostileNames.Represents (hostileNames.model assignment) assignment ∧
          ∀ model, hostileNames.Represents model assignment →
            (formula.value? D model = some (.bool true) ↔
              hostileNames.goal.denote D assignment = .bool false) ∧
            (formula.value? D model = some (.bool false) ↔
              hostileNames.goal.denote D assignment = .bool true) :=
  ⟨by decide, script_asserts_negated_goal hostileNames true rfl rfl (by decide) (by decide)
    (by decide)⟩

end Obligation

end CoreProver
