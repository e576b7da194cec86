import CoreProver.Diagnostic
import CoreProver.Json.Double
import CoreProver.Json.Printer
import CoreProver.Json.Reader
import CoreProver.Json.Record
import CoreProver.Lang.Program

/-!
# Programs in JSON

Every type of the core language has an encoder `toJson` and a reader `ofJson?`. Readers take the
number of brackets and braces that may still be opened; each function opens one of them, which is
also what makes the recursion end. `Program.read` and `Program.write` work on texts.
-/

namespace CoreProver

namespace Location

def toJson (l : Location) : Json :=
  Json.ofMembers [("file", .ofText l.file), ("line", .ofInt l.line.toNat),
    ("col", .ofInt l.column.toNat)]

/-- A number of thirty-two bits. -/
def word? (value : Json) : Option UInt32 := do
  let n ← value.nat?
  if n < Nat.pow 2 32 then some (UInt32.ofNat n) else none

def ofJson? : Nat → Json → Option Location
  | 0, _ => none
  | _ + 1, value =>
    match value.fields? ["file", "line", "col"] with
    | some [some file, some line, some column] => do
      return ⟨← file.text?, ← word? line, ← word? column⟩
    | _ => none

end Location

namespace Ty

mutual

def toJson : Ty → Json
  | .con name args =>
    .ofVariant "con" (.ofMembers [("name", .ofText name), ("args", .array (listToJson args))])
  | .var name => .ofVariant "var" (.ofText name)
  | .arrow argument result => .ofVariant "fun" (.array [argument.toJson, result.toJson])
  | .forAll name body =>
    .ofVariant "for_all" (.ofMembers [("var", .ofText name), ("body", body.toJson)])
  | .dict name args =>
    .ofVariant "class" (.ofMembers [("name", .ofText name), ("args", .array (listToJson args))])
  | .equality left right => .ofVariant "equality" (.array [left.toJson, right.toJson])
  | .tuple items => .ofVariant "tuple" (.array (listToJson items))

def listToJson : List Ty → List Json
  | [] => []
  | t :: ts => t.toJson :: listToJson ts

end

mutual

def ofJson? : Nat → Json → Option Ty
  | 0, _ => none
  | room + 1, value =>
    match value.variant? with
    | none => none
    | some (name, data) =>
      match name with
      | "con" => (headed? room data).map fun (name, args) => .con name args
      | "var" => data.text?.map .var
      | "fun" => (two? room data).map fun (argument, result) => .arrow argument result
      | "for_all" => (quantified? room data).map fun (name, body) => .forAll name body
      | "class" => (headed? room data).map fun (name, args) => .dict name args
      | "equality" => (two? room data).map fun (left, right) => .equality left right
      | "tuple" => (list? room data).map .tuple
      | _ => none

def list? : Nat → Json → Option (List Ty)
  | 0, _ => none
  | room + 1, value =>
    match value.array? with
    | none => none
    | some elements => elements.mapM (ofJson? room)

/-- Read a name with arguments, which may be left out. -/
def headed? : Nat → Json → Option (String × List Ty)
  | 0, _ => none
  | room + 1, value =>
    match value.fields? ["name", "args"] with
    | some [some name, none] => name.text?.map (·, [])
    | some [some name, some args] => do return (← name.text?, ← list? room args)
    | _ => none

def two? : Nat → Json → Option (Ty × Ty)
  | 0, _ => none
  | room + 1, value =>
    match value.pair? with
    | some (a, b) => do return (← ofJson? room a, ← ofJson? room b)
    | none => none

/-- Read a bound variable and the type under it. -/
def quantified? : Nat → Json → Option (String × Ty)
  | 0, _ => none
  | room + 1, value =>
    match value.fields? ["var", "body"] with
    | some [some name, some body] => do return (← name.text?, ← ofJson? room body)
    | _ => none

end

end Ty

namespace Var

def toJson (v : Var) : Json := .ofMembers [("name", .ofText v.name), ("ty", v.type.toJson)]

def ofJson? : Nat → Json → Option Var
  | 0, _ => none
  | room + 1, value =>
    match value.fields? ["name", "ty"] with
    | some [some name, some type] => do return ⟨← name.text?, ← Ty.ofJson? room type⟩
    | _ => none

def list? : Nat → Json → Option (List Var)
  | 0, _ => none
  | room + 1, value =>
    match value.array? with
    | none => none
    | some elements => elements.mapM (ofJson? room)

end Var

namespace Coercion

def toJson (c : Coercion) : Json :=
  .ofMembers [("from", c.source.toJson), ("to", c.target.toJson)]

def ofJson? : Nat → Json → Option Coercion
  | 0, _ => none
  | room + 1, value =>
    match value.fields? ["from", "to"] with
    | some [some source, some target] => do
      return ⟨← Ty.ofJson? room source, ← Ty.ofJson? room target⟩
    | _ => none

end Coercion

namespace Literal

def toJson : Literal → Json
  | .int value => .ofVariant "int" (.ofInt value.val)
  | .char value => .ofVariant "char" (.ofText (String.ofList [value]))
  | .string value => .ofVariant "string" (.ofText value)
  | .double value => .ofVariant "double" (.ofDouble value)

/-- The only character of a text. -/
def single? (s : String) : Option Char :=
  match s.toList with
  | [c] => some c
  | _ => none

def ofJson? : Nat → Json → Option Literal
  | 0, _ => none
  | _ + 1, value =>
    match value.variant? with
    | none => none
    | some (name, data) =>
      match name with
      | "int" => (data.int?.bind Int128.ofInt?).map .int
      | "char" => (data.text?.bind single?).map .char
      | "string" => data.text?.map .string
      | "double" => data.double?.map .double
      | _ => none

end Literal

namespace Pattern

def toJson : Pattern → Json
  | .anything => .ofText "default"
  | .literal value => .ofVariant "lit" value.toJson
  | .constructor name => .ofVariant "data_con" (.ofText name)

/-- Read a pattern with data. -/
def ofVariant? : Nat → Json → Option Pattern
  | 0, _ => none
  | room + 1, value =>
    match value.variant? with
    | none => none
    | some (name, data) =>
      match name with
      | "lit" => (Literal.ofJson? room data).map .literal
      | "data_con" => data.text?.map .constructor
      | _ => none

def ofJson? (room : Nat) (value : Json) : Option Pattern :=
  if value.plainVariant? room = some "default" then some .anything else ofVariant? room value

end Pattern

namespace Expr

mutual

def toJson : Expr → Json
  | .var v => .ofVariant "var" v.toJson
  | .lit value => .ofVariant "lit" value.toJson
  | .app function argument => .ofVariant "app" (.array [function.toJson, argument.toJson])
  | .lam binder body => .ofVariant "lam" (.array [binder.toJson, body.toJson])
  | .letIn binder bound body =>
    .ofVariant "let" (.ofMembers
      [("bind", .ofVariant "non_rec" (.array [binder.toJson, bound.toJson])),
        ("body", body.toJson)])
  | .letRec group body =>
    .ofVariant "let" (.ofMembers
      [("bind", .ofVariant "rec" (.array (groupToJson group))), ("body", body.toJson)])
  | .cases scrutinee binder ty alternatives =>
    .ofVariant "case" (.ofMembers
      [("scrutinee", scrutinee.toJson), ("binder", binder.toJson), ("ty", ty.toJson),
        ("alts", .array (alternativesToJson alternatives))])
  | .cast body c => .ofVariant "cast" (.array [body.toJson, c.toJson])
  | .tick location body => .ofVariant "tick" (.array [location.toJson, body.toJson])
  | .type t => .ofVariant "type" t.toJson
  | .coercion c => .ofVariant "coercion" c.toJson

def groupToJson : List (Var × Expr) → List Json
  | [] => []
  | (binder, bound) :: group => .array [binder.toJson, bound.toJson] :: groupToJson group

def alternativesToJson : List Alternative → List Json
  | [] => []
  | .mk pattern binders body :: alternatives =>
    .ofMembers [("con", pattern.toJson), ("binders", .array (binders.map Var.toJson)),
      ("rhs", body.toJson)] :: alternativesToJson alternatives

end

/-- What a `let` binds: one variable, or a recursive group. -/
inductive Bound where
  | one (binder : Var) (bound : Expr)
  | group (definitions : List (Var × Expr))

/-- The `let` expression with this body. -/
def Bound.within (body : Expr) : Bound → Expr
  | .one binder bound => .letIn binder bound body
  | .group definitions => .letRec definitions body

mutual

def ofJson? : Nat → Json → Option Expr
  | 0, _ => none
  | room + 1, value =>
    match value.variant? with
    | none => none
    | some (name, data) =>
      match name with
      | "var" => (Var.ofJson? room data).map .var
      | "lit" => (Literal.ofJson? room data).map .lit
      | "app" => (two? room data).map fun (function, argument) => .app function argument
      | "lam" => (definition? room data).map fun (binder, body) => .lam binder body
      | "let" => letExpr? room data
      | "case" => caseExpr? room data
      | "cast" => castExpr? room data
      | "tick" => tickExpr? room data
      | "type" => (Ty.ofJson? room data).map .type
      | "coercion" => (Coercion.ofJson? room data).map .coercion
      | _ => none

def two? : Nat → Json → Option (Expr × Expr)
  | 0, _ => none
  | room + 1, value =>
    match value.pair? with
    | some (a, b) => do return (← ofJson? room a, ← ofJson? room b)
    | none => none

/-- Read a variable and an expression. -/
def definition? : Nat → Json → Option (Var × Expr)
  | 0, _ => none
  | room + 1, value =>
    match value.pair? with
    | some (binder, body) => do return (← Var.ofJson? room binder, ← ofJson? room body)
    | none => none

def definitions? : Nat → Json → Option (List (Var × Expr))
  | 0, _ => none
  | room + 1, value =>
    match value.array? with
    | none => none
    | some elements => elements.mapM (definition? room)

/-- Read what a `let` binds. -/
def bound? : Nat → Json → Option Bound
  | 0, _ => none
  | room + 1, value =>
    match value.variant? with
    | none => none
    | some (name, data) =>
      match name with
      | "non_rec" => (definition? room data).map fun (binder, bound) => .one binder bound
      | "rec" => (definitions? room data).map .group
      | _ => none

/-- Read the data of a `let` expression. -/
def letExpr? : Nat → Json → Option Expr
  | 0, _ => none
  | room + 1, value =>
    match value.fields? ["bind", "body"] with
    | some [some bound, some body] => do
      let bound ← bound? room bound
      let body ← ofJson? room body
      return bound.within body
    | _ => none

/-- Read the data of a case distinction. -/
def caseExpr? : Nat → Json → Option Expr
  | 0, _ => none
  | room + 1, value =>
    match value.fields? ["scrutinee", "binder", "ty", "alts"] with
    | some [some scrutinee, some binder, some ty, some alternatives] => do
      return .cases (← ofJson? room scrutinee) (← Var.ofJson? room binder)
        (← Ty.ofJson? room ty) (← alternatives? room alternatives)
    | _ => none

def alternatives? : Nat → Json → Option (List Alternative)
  | 0, _ => none
  | room + 1, value =>
    match value.array? with
    | none => none
    | some elements => elements.mapM (alternative? room)

/-- Read an alternative; its binders may be left out. -/
def alternative? : Nat → Json → Option Alternative
  | 0, _ => none
  | room + 1, value =>
    match value.fields? ["con", "binders", "rhs"] with
    | some [some pattern, none, some body] => do
      return .mk (← Pattern.ofJson? room pattern) [] (← ofJson? room body)
    | some [some pattern, some binders, some body] => do
      return .mk (← Pattern.ofJson? room pattern) (← Var.list? room binders) (← ofJson? room body)
    | _ => none

def castExpr? : Nat → Json → Option Expr
  | 0, _ => none
  | room + 1, value =>
    match value.pair? with
    | some (body, c) => do return .cast (← ofJson? room body) (← Coercion.ofJson? room c)
    | none => none

def tickExpr? : Nat → Json → Option Expr
  | 0, _ => none
  | room + 1, value =>
    match value.pair? with
    | some (location, body) => do
      return .tick (← Location.ofJson? room location) (← ofJson? room body)
    | none => none

end

end Expr

namespace Engine

def ofJson? (room : Nat) (value : Json) : Option Engine :=
  (value.plainVariant? room).bind named?

end Engine

namespace Selector

def toJson : Selector → Json
  | .engine e => .ofVariant "engine" (.ofText e.name)
  | .allInstalled => .ofText "all_installed"

end Selector

namespace ProofOption

def toJson : ProofOption → Json
  | .warnIfFails => .ofText "warn_if_fails"
  | .verbose => .ofText "verbose"
  | .debug => .ofText "debug"
  | .safety => .ofText "safety"
  | .uninterpret => .ofText "uninterpret"
  | .skip reason => .ofVariant "skip" (.ofText reason)
  | .solver engine => .ofVariant "solver" (.ofText engine.name)
  | .anySolver => .ofText "any_solver"

/-- An option without data, by its name. -/
def plain? : String → Option ProofOption
  | "warn_if_fails" => some .warnIfFails
  | "verbose" => some .verbose
  | "debug" => some .debug
  | "safety" => some .safety
  | "uninterpret" => some .uninterpret
  | "any_solver" => some .anySolver
  | _ => none

/-- Read an option with data. -/
def ofVariant? : Nat → Json → Option ProofOption
  | 0, _ => none
  | room + 1, value =>
    match value.variant? with
    | none => none
    | some (name, data) =>
      match name with
      | "skip" => data.text?.map .skip
      | "solver" => (Engine.ofJson? room data).map .solver
      | _ => none

def ofJson? (room : Nat) (value : Json) : Option ProofOption :=
  match (value.plainVariant? room).bind plain? with
  | some o => some o
  | none => ofVariant? room value

/-- Read the options of a request. -/
def list? : Nat → Json → Option ProofOptions
  | 0, _ => none
  | room + 1, value =>
    match value.array? with
    | none => none
    | some elements => elements.mapM (ofJson? room)

end ProofOption

namespace Request

def toJson : Request → Json
  | .prove options => .ofVariant "theorem" (.array (options.map ProofOption.toJson))
  | .checkSafety options => .ofVariant "safety" (.array (options.map ProofOption.toJson))
  | .uninterpret => .ofText "uninterpret"

/-- Read a request with options. -/
def ofVariant? : Nat → Json → Option Request
  | 0, _ => none
  | room + 1, value =>
    match value.variant? with
    | none => none
    | some (name, data) =>
      match name with
      | "theorem" => (ProofOption.list? room data).map .prove
      | "safety" => (ProofOption.list? room data).map .checkSafety
      | _ => none

def ofJson? (room : Nat) (value : Json) : Option Request :=
  if value.plainVariant? room = some "uninterpret" then some .uninterpret
  else ofVariant? room value

/-- Read the requests about a binding. -/
def list? : Nat → Json → Option (List Request)
  | 0, _ => none
  | room + 1, value =>
    match value.array? with
    | none => none
    | some elements => elements.mapM (ofJson? room)

end Request

namespace Binding

def toJson (b : Binding) : Json :=
  .ofMembers [("name", .ofText b.name), ("loc", b.location.toJson), ("ty", b.type.toJson),
    ("body", b.body.toJson), ("annotations", .array (b.requests.map Request.toJson))]

/-- Read a binding; its requests may be left out. -/
def ofJson? : Nat → Json → Option Binding
  | 0, _ => none
  | room + 1, value =>
    match value.fields? ["name", "loc", "ty", "body", "annotations"] with
    | some [some name, some location, some type, some body, requests] => do
      let requests ←
        match requests with
        | none => some []
        | some value => Request.list? room value
      return ⟨← name.text?, ← Location.ofJson? room location, ← Ty.ofJson? room type,
        ← Expr.ofJson? room body, requests⟩
    | _ => none

def list? : Nat → Json → Option (List Binding)
  | 0, _ => none
  | room + 1, value =>
    match value.array? with
    | none => none
    | some elements => elements.mapM (ofJson? room)

end Binding

/-- Why a text could not be read. -/
inductive ReadError where
  | malformedProgram
  | unknownEngine (e : UnknownEngine)
  deriving Repr, DecidableEq

def ReadError.message : ReadError → String
  | .malformedProgram => "IR input error: malformed program"
  | .unknownEngine e => "IR input error: " ++ e.message

def ReadError.diagnostic (e : ReadError) : Diagnostic := ⟨e.message, "sprove::ir", none⟩

namespace Program

def toJson (p : Program) : Json :=
  .ofMembers [("module", (p.moduleName.map Json.ofText).getD .null),
    ("bindings", .array (p.bindings.map Binding.toJson))]

/-- Read the name of a module, which may be missing or `null`. -/
def moduleName? : Option Json → Option (Option String)
  | none => some none
  | some .null => some none
  | some value => value.text?.map some

def ofJson? : Nat → Json → Option Program
  | 0, _ => none
  | room + 1, value =>
    match value.fields? ["module", "bindings"] with
    | some [moduleName, some bindings] => do
      return ⟨← moduleName? moduleName, ← Binding.list? room bindings⟩
    | _ => none

/-- The program that a text describes, or why there is none. -/
def read (text : String) : Except ReadError Program :=
  match (Json.parse? text).bind (ofJson? Json.nestingLimit) with
  | some p => .ok p
  | none => .error .malformedProgram

def write (p : Program) : String := p.toJson.pretty

end Program

end CoreProver
