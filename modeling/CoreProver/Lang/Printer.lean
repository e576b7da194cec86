import CoreProver.Decimal.Layout
import CoreProver.Lang.Expr
import CoreProver.Text.Numeral
import CoreProver.Text.Quoted

/-!
# Compact rendering of types and expressions

Used in messages. Parentheses stand only where the position of a part asks for them, and location
markers are not shown.
-/

namespace CoreProver

/-- Where a part stands: by itself, at the side of an operator, or as an argument. -/
inductive Position where
  | top
  | side
  | argument
  deriving Repr, DecidableEq

namespace Position

/-- Arrows, quantifiers, binders and casts are bracketed anywhere but at the top. -/
def bracketsOperators : Position → Bool
  | top => false
  | side | argument => true

/-- Applications are bracketed as arguments. -/
def bracketsApplications : Position → Bool
  | argument => true
  | top | side => false

end Position

/-- Put parentheses around a text, or not. -/
def parenthesized (brackets : Bool) (s : String) : String :=
  if brackets then "(" ++ s ++ ")" else s

namespace Ty

mutual

/-- A type at a position. -/
def render (position : Position) : Ty → String
  | .con name [] => name
  | .con name (arg :: args) =>
    parenthesized position.bracketsApplications (name ++ renderArgs (arg :: args))
  | .dict name [] => name
  | .dict name (arg :: args) =>
    parenthesized position.bracketsApplications (name ++ renderArgs (arg :: args))
  | .var name => name
  | .arrow argument result =>
    parenthesized position.bracketsOperators
      (argument.render .side ++ " -> " ++ result.render .top)
  | .forAll name body =>
    parenthesized position.bracketsOperators ("forall " ++ name ++ ". " ++ body.render .top)
  | .equality left right =>
    parenthesized position.bracketsOperators
      (left.render .argument ++ " ~ " ++ right.render .argument)
  | .tuple [] => "()"
  | .tuple (item :: items) => "(" ++ item.render .top ++ renderItems items

def renderArgs : List Ty → String
  | [] => ""
  | arg :: args => " " ++ arg.render .argument ++ renderArgs args

/-- Further components of a tuple and the closing parenthesis. -/
def renderItems : List Ty → String
  | [] => ")"
  | item :: items => ", " ++ item.render .top ++ renderItems items

end

def text (t : Ty) : String := t.render .top

end Ty

/-- Doubles in messages never have an exponent, and the larger of two equally near decimals is
taken. -/
def Literal.doubleLayout : Decimal.Layout where
  tie := .up
  positional := none
  keepsPoint := false

def Literal.text : Literal → String
  | .int value => String.ofList (Text.decimal value.val)
  | .char value => String.ofList (Text.quotedWith '\'' [value])
  | .string value => String.ofList (Text.quotedWith '"' value.toList)
  | .double value => String.ofList (doubleLayout.chars value)

/-- The two types of a coercion. -/
def Coercion.text (c : Coercion) : String :=
  c.source.render .argument ++ " ~> " ++ c.target.render .argument

/-- What an alternative matches. -/
def Pattern.text : Pattern → String
  | .anything => "_"
  | .literal value => value.text
  | .constructor name => name

namespace Expr

mutual

/-- An expression at a position. -/
def render (position : Position) : Expr → String
  | .var v => v.name
  | .lit value => value.text
  | .app function (.type t) =>
    parenthesized position.bracketsApplications
      (function.render .side ++ " @" ++ t.render .argument)
  | .app function argument =>
    parenthesized position.bracketsApplications
      (function.render .side ++ " " ++ argument.render .argument)
  | .lam binder body =>
    parenthesized position.bracketsOperators
      ("\\(" ++ binder.name ++ " :: " ++ binder.type.text ++ ") -> " ++ body.render .top)
  | .letIn binder bound body =>
    parenthesized position.bracketsOperators
      ("let " ++ binder.name ++ " = " ++ bound.render .top ++ " in " ++ body.render .top)
  | .letRec [] body => parenthesized position.bracketsOperators ("letrec  in " ++ body.render .top)
  | .letRec ((binder, bound) :: group) body =>
    parenthesized position.bracketsOperators
      ("letrec " ++ binder.name ++ " = " ++ bound.render .top ++ renderGroup group ++ " in " ++
        body.render .top)
  | .cases scrutinee binder _ [] =>
    parenthesized position.bracketsOperators
      ("case " ++ scrutinee.render .top ++ " of " ++ binder.name ++ " \x7b  \x7d")
  | .cases scrutinee binder _ (first :: alternatives) =>
    parenthesized position.bracketsOperators
      ("case " ++ scrutinee.render .top ++ " of " ++ binder.name ++ " \x7b " ++
        renderAlternative first ++ renderAlternatives alternatives ++ " \x7d")
  | .cast body c =>
    parenthesized position.bracketsOperators (body.render .side ++ " |> " ++ c.text)
  | .tick _ body => body.render position
  | .type t => "@" ++ t.render .argument
  | .coercion c => "<co " ++ c.text ++ ">"

def renderGroup : List (Var × Expr) → String
  | [] => ""
  | (binder, bound) :: group =>
    "; " ++ binder.name ++ " = " ++ bound.render .top ++ renderGroup group

def renderAlternatives : List Alternative → String
  | [] => ""
  | alternative :: alternatives =>
    "; " ++ renderAlternative alternative ++ renderAlternatives alternatives

/-- An alternative: what it matches, its binders and its body. -/
def renderAlternative : Alternative → String
  | .mk pattern binders body =>
    pattern.text ++ String.join (binders.map fun v => " " ++ v.name) ++ " -> " ++ body.render .top

end

def text (e : Expr) : String := e.render .top

end Expr

end CoreProver
