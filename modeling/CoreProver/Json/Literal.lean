import CoreProver.Json.Basic
import CoreProver.Text.Numeral

/-!
# The meaning of JSON literals

Texts are written with the short escapes where there are any, and by number for the other controls.
A text is read from any literal of the grammar in which every escaped surrogate has its partner.
Integers are read exactly; doubles are read as `Json.Double` says.
-/

namespace CoreProver.Json

/-- One character inside a string literal. -/
def escapeChar (c : Char) : List Char :=
  if c = '"' then ['\\', '"']
  else if c = '\\' then ['\\', '\\']
  else if c = '\n' then ['\\', 'n']
  else if c = '\r' then ['\\', 'r']
  else if c = '\t' then ['\\', 't']
  else if c.toNat = 0x08 then ['\\', 'b']
  else if c.toNat = 0x0C then ['\\', 'f']
  else if c.toNat < 0x20 then '\\' :: 'u' :: Text.padded 16 4 c.toNat
  else [c]

def escape (s : List Char) : List Char := s.flatMap escapeChar

/-- The character that a short escape stands for. -/
def shortEscape? (c : Char) : Option Char :=
  if c = '"' then some '"'
  else if c = '\\' then some '\\'
  else if c = '/' then some '/'
  else if c = 'b' then some (Char.ofNat 0x08)
  else if c = 'f' then some (Char.ofNat 0x0C)
  else if c = 'n' then some '\n'
  else if c = 'r' then some '\r'
  else if c = 't' then some '\t'
  else none

/-- Whether `n` is the first half of a surrogate pair. -/
def isHighSurrogate (n : Nat) : Bool := 0xD800 ≤ n && n < 0xDC00

/-- Whether `n` is the second half of a surrogate pair. -/
def isLowSurrogate (n : Nat) : Bool := 0xDC00 ≤ n && n < 0xE000

/-- The code point of a surrogate pair. -/
def joinSurrogates (high low : Nat) : Nat := (high - 0xD800) * 0x400 + (low - 0xDC00) + 0x10000

/-- The text that a string literal denotes. -/
def unescape? : List Char → Option (List Char)
  | [] => some []
  | '\\' :: 'u' :: a :: b :: c :: d :: rest =>
    match Text.ofHex? [a, b, c, d] with
    | none => none
    | some n =>
      if isHighSurrogate n then
        match rest with
        | '\\' :: 'u' :: e :: f :: g :: h :: rest =>
          match Text.ofHex? [e, f, g, h] with
          | none => none
          | some low =>
            if isLowSurrogate low then
              (unescape? rest).map (Char.ofNat (joinSurrogates n low) :: ·)
            else none
        | _ => none
      else if isLowSurrogate n then none
      else (unescape? rest).map (Char.ofNat n :: ·)
  | '\\' :: c :: rest =>
    match shortEscape? c with
    | none => none
    | some d => (unescape? rest).map (d :: ·)
  | c :: rest => if c = '\\' then none else (unescape? rest).map (c :: ·)

def ofText (s : String) : Json := .string (String.ofList (escape s.toList))

def literalText? (literal : String) : Option String :=
  (unescape? literal.toList).map String.ofList

def text? : Json → Option String
  | .string literal => literalText? literal
  | _ => none

def ofInt (n : Int) : Json := .number (String.ofList (Text.decimal n))

/-- The integer of a number literal without fraction and exponent. -/
def literalInt? (literal : List Char) : Option Int :=
  match literal with
  | '-' :: digits =>
    if digits.isEmpty || !digits.all Char.isDigit then none
    else some (-(Text.ofDigits digits : Int))
  | digits =>
    if digits.isEmpty || !digits.all Char.isDigit then none else some (Text.ofDigits digits)

/-- The integer of a JSON number without fraction and exponent. -/
def int? : Json → Option Int
  | .number literal => literalInt? literal.toList
  | _ => none

/-- The natural number of a JSON number without sign, fraction and exponent. -/
def nat? : Json → Option Nat
  | .number literal =>
    let digits := literal.toList
    if digits.isEmpty || !digits.all Char.isDigit then none else some (Text.ofDigits digits)
  | _ => none

def bool? : Json → Option Bool
  | .bool b => some b
  | _ => none

def array? : Json → Option (List Json)
  | .array elements => some elements
  | _ => none

end CoreProver.Json
