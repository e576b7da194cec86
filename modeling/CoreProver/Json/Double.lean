import CoreProver.Decimal.Layout
import CoreProver.Json.Literal

/-!
# Doubles in JSON

A number literal is read in double arithmetic: its leading digits, as many as fit into sixty-four
bits, are converted, and the result is multiplied or divided once by a power of ten. Long literals
can therefore come out one place off the nearest double. A literal without fraction and exponent
that fits into sixty-four bits is converted directly. A value beyond the doubles is refused.
-/

namespace CoreProver.Json

def wordMax : Nat := Nat.pow 2 64 - 1

/-- Add digits to a number while it fits into sixty-four bits; also the digits that are left. -/
def takeDigits (start : Nat) : List Char → Nat × List Char
  | [] => (start, [])
  | c :: rest =>
    let next := start * 10 + (c.toNat - '0'.toNat)
    if next ≤ wordMax then takeDigits next rest else (start, c :: rest)

/-- The parts of a number literal. An exponent comes with whether it is negative. -/
structure NumberParts where
  negative : Bool
  whole : List Char
  fraction : Option (List Char)
  exponent : Option (Bool × List Char)
  deriving Repr

/-- Split a literal of the JSON grammar into its parts. -/
def NumberParts.ofLiteral (literal : List Char) : NumberParts :=
  let (negative, unsigned) :=
    match literal with
    | '-' :: rest => (true, rest)
    | rest => (false, rest)
  let (whole, rest) := unsigned.span Char.isDigit
  let (fraction, rest) :=
    match rest with
    | '.' :: rest => (some (rest.takeWhile Char.isDigit), rest.dropWhile Char.isDigit)
    | rest => (none, rest)
  let exponent :=
    match rest with
    | _ :: '-' :: digits => some (true, digits)
    | _ :: '+' :: digits => some (false, digits)
    | _ :: digits => some (false, digits)
    | [] => none
  ⟨negative, whole, fraction, exponent⟩

def tenPower (n : Nat) : Float := Float.ofScientific 1 false n

/-- Scale a double by a power of ten, in steps of at most `10 ^ 308` downwards. `none` when the
result leaves the doubles. Three steps down leave nothing of a number of sixty-four bits. -/
def scale? : Nat → Float → Int → Option Float
  | 0, f, _ => some f
  | fuel + 1, f, exponent =>
    if exponent.natAbs ≤ 308 then
      if exponent ≥ 0 then
        let product := f * tenPower exponent.toNat
        if product.isInf then none else some product
      else some (f / tenPower exponent.natAbs)
    else if f == 0.0 then some f
    else if exponent ≥ 0 then none
    else scale? fuel (f / tenPower 308) (exponent + 308)

/-- Exponents beyond this bound are not added up. -/
def exponentMax : Nat := Nat.pow 2 31 - 1

/-- The double with these leading digits and decimal exponent, and the literal's own exponent. -/
def scaleBy? (significand : Nat) (start : Int) (exponent : Option (Bool × List Char)) :
    Option Float :=
  let f := (UInt64.ofNat significand).toFloat
  match exponent with
  | none => scale? 8 f start
  | some (negative, digits) =>
    let e := Text.ofDigits digits
    if e > exponentMax then
      if significand ≠ 0 ∧ !negative then none else some 0.0
    else
      let total := if negative then start - e else start + e
      scale? 8 f total

def literalDouble? (literal : List Char) : Option Float :=
  let parts := NumberParts.ofLiteral literal
  let (significand, left) := takeDigits 0 parts.whole
  let magnitude :=
    match parts.fraction with
    | none => scaleBy? significand left.length parts.exponent
    | some fraction =>
      let (significand, leftAfter) := takeDigits significand fraction
      let used := fraction.length - leftAfter.length
      scaleBy? significand ((left.length : Int) - used) parts.exponent
  magnitude.map fun f => if parts.negative then -f else f

/-- The double of a JSON number. -/
def double? : Json → Option Float
  | .number literal => literalDouble? literal.toList
  | _ => none

/-- Doubles in JSON text: positional from `0.00001` up to sixteen digits, always with a point, and
of two equally near decimals the even one. -/
def doubleLayout : Decimal.Layout where
  tie := .toEven
  positional := some (-5, 15)
  keepsPoint := true

/-- The JSON number of a double. -/
def ofDouble (d : Float) : Json := .number (String.ofList (doubleLayout.chars d))

end CoreProver.Json
