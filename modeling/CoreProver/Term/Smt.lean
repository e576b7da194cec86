import CoreProver.Term.Basic
import CoreProver.Text.Numeral

/-!
# Terms in the solver's language

Every operator has one function symbol at each kind. Symbols of variables start with a letter for
their origin and with their number, so that the name behind it is only decoration.
-/

namespace CoreProver

/-- Characters that may stand in a symbol; any other is written as an underscore. -/
def symbolChar (c : Char) : Char := if c.isAlphanum || c = '_' then c else '_'

/-- The symbol of a variable: a letter for its origin, its number, and what is left of its name. -/
def SymVar.symbol (v : SymVar) : String :=
  let letter := match v.origin with
    | .parameter => "l"
    | .constant => "u"
  letter ++ Nat.repr v.id ++ "_" ++ String.ofList (v.name.toList.map symbolChar)

/-- The function symbol of an operator on operands of a kind. -/
def BinaryOp.symbol : BinaryOp → Kind → String
  | .eq, _ => "="
  | .ne, _ => "distinct"
  | .and, _ => "and"
  | .or, _ => "or"
  | .implies, _ => "=>"
  | .add, .signed _ | .add, .unsigned _ => "bvadd"
  | .sub, .signed _ | .sub, .unsigned _ => "bvsub"
  | .mul, .signed _ | .mul, .unsigned _ => "bvmul"
  | .add, _ => "+"
  | .sub, _ => "-"
  | .mul, _ => "*"
  | .div, .signed _ => "bvsdiv"
  | .div, .unsigned _ => "bvudiv"
  | .div, _ => "div"
  | .rem, .signed _ => "bvsrem"
  | .rem, .unsigned _ | .smod, .unsigned _ => "bvurem"
  | .smod, .signed _ => "bvsmod"
  | .rem, _ | .smod, _ => "mod"
  | .lt, .signed _ => "bvslt"
  | .le, .signed _ => "bvsle"
  | .gt, .signed _ => "bvsgt"
  | .ge, .signed _ => "bvsge"
  | .lt, .unsigned _ => "bvult"
  | .le, .unsigned _ => "bvule"
  | .gt, .unsigned _ => "bvugt"
  | .ge, .unsigned _ => "bvuge"
  | .lt, _ => "<"
  | .le, _ => "<="
  | .gt, _ => ">"
  | .ge, _ => ">="

/-- The function symbol of an operator on an operand of a kind. -/
def UnaryOp.symbol : UnaryOp → Kind → String
  | .not, _ => "not"
  | .neg, kind => if kind.isBitVector then "bvneg" else "-"

/-- An integer literal: modulo the number of vectors of its width, in hexadecimal digits where they
fit and in binary ones otherwise. Without a width, a negative number is a negated numeral. -/
def intLiteral (value : Int) (kind : Kind) : String :=
  match kind.width? with
  | none =>
    if value < 0 then "(- " ++ Nat.repr value.natAbs ++ ")" else Nat.repr value.natAbs
  | some width =>
    let bits := (value % Int.pow 2 width).toNat
    if width % 4 = 0 then "#x" ++ String.ofList (Text.padded 16 (width / 4) bits)
    else "#b" ++ String.ofList (Text.padded 2 width bits)

def Term.text : Term → String
  | .var v => v.symbol
  | .bool true => "true"
  | .bool false => "false"
  | .int value kind => intLiteral value kind
  | .unary op operand => "(" ++ op.symbol operand.kind ++ " " ++ operand.text ++ ")"
  | .binary op left right =>
    "(" ++ op.symbol left.kind ++ " " ++ left.text ++ " " ++ right.text ++ ")"
  | .ite condition yes no =>
    "(ite " ++ condition.text ++ " " ++ yes.text ++ " " ++ no.text ++ ")"

end CoreProver
