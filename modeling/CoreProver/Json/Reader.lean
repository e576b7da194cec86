import CoreProver.Json.Literal

/-!
# Reading JSON text

The grammar of JSON without extensions: no comments, no trailing commas, no raw controls in strings,
and nothing but white space around the value. Nesting is not limited here. The recursive functions
take a budget; `Json.parse?` gives them one that the length of the text cannot exhaust.
-/

namespace CoreProver.Json

def isSpace (c : Char) : Bool := c == ' ' || c == '\n' || c == '\t' || c == '\r'

def skipSpace (s : List Char) : List Char := s.dropWhile isSpace

/-- The literal of a string up to its closing quote, and what follows the quote. -/
def stringLiteral? : List Char → Option (List Char × List Char)
  | [] => none
  | '"' :: rest => some ([], rest)
  | '\\' :: 'u' :: a :: b :: c :: d :: rest =>
    if (Text.ofHex? [a, b, c, d]).isSome then
      (stringLiteral? rest).map fun (body, rest) => ('\\' :: 'u' :: a :: b :: c :: d :: body, rest)
    else none
  | '\\' :: c :: rest =>
    if (shortEscape? c).isSome then
      (stringLiteral? rest).map fun (body, rest) => ('\\' :: c :: body, rest)
    else none
  | c :: rest =>
    if c = '\\' ∨ c.toNat < 0x20 then none
    else (stringLiteral? rest).map fun (body, rest) => (c :: body, rest)

/-- One digit at least, and what follows the digits. -/
def digits? (s : List Char) : Option (List Char × List Char) :=
  let digits := s.takeWhile Char.isDigit
  if digits.isEmpty then none else some (digits, s.dropWhile Char.isDigit)

/-- The digits before the point: a zero alone, or digits that start with another one. -/
def wholePart? : List Char → Option (List Char × List Char)
  | '0' :: rest => some (['0'], rest)
  | s => digits? s

def fractionPart? : List Char → Option (List Char × List Char)
  | '.' :: rest => (digits? rest).map fun (digits, rest) => ('.' :: digits, rest)
  | s => some ([], s)

/-- The digits of an exponent with their sign. -/
def signedDigits? : List Char → Option (List Char × List Char)
  | '+' :: rest => (digits? rest).map fun (digits, rest) => ('+' :: digits, rest)
  | '-' :: rest => (digits? rest).map fun (digits, rest) => ('-' :: digits, rest)
  | s => digits? s

def exponentPart? : List Char → Option (List Char × List Char)
  | 'e' :: rest => (signedDigits? rest).map fun (digits, rest) => ('e' :: digits, rest)
  | 'E' :: rest => (signedDigits? rest).map fun (digits, rest) => ('E' :: digits, rest)
  | s => some ([], s)

/-- A number without its sign. -/
def unsignedNumber? (s : List Char) : Option (List Char × List Char) := do
  let (whole, rest) ← wholePart? s
  let (fraction, rest) ← fractionPart? rest
  let (exponent, rest) ← exponentPart? rest
  return (whole ++ fraction ++ exponent, rest)

/-- The literal of a number, kept as it is written, and what follows it. -/
def numberLiteral? : List Char → Option (List Char × List Char)
  | '-' :: rest => (unsignedNumber? rest).map fun (literal, rest) => ('-' :: literal, rest)
  | s => unsignedNumber? s

/-- A value that is no array, object or string. -/
def atom? : List Char → Option (Json × List Char)
  | 'n' :: 'u' :: 'l' :: 'l' :: rest => some (.null, rest)
  | 't' :: 'r' :: 'u' :: 'e' :: rest => some (.bool true, rest)
  | 'f' :: 'a' :: 'l' :: 's' :: 'e' :: rest => some (.bool false, rest)
  | s => (numberLiteral? s).map fun (literal, rest) => (.number (String.ofList literal), rest)

mutual

/-- A value, after white space. -/
def value? : Nat → List Char → Option (Json × List Char)
  | 0, _ => none
  | budget + 1, s =>
    match skipSpace s with
    | '"' :: rest =>
      (stringLiteral? rest).map fun (literal, rest) => (.string (String.ofList literal), rest)
    | '[' :: rest =>
      match skipSpace rest with
      | ']' :: rest => some (.array [], rest)
      | rest => (elements? budget rest).map fun (elements, rest) => (.array elements, rest)
    | '\x7b' :: rest =>
      match skipSpace rest with
      | '\x7d' :: rest => some (.object [], rest)
      | rest => (members? budget rest).map fun (members, rest) => (.object members, rest)
    | rest => atom? rest

/-- The elements of an array, one at least, up to its closing bracket. -/
def elements? : Nat → List Char → Option (List Json × List Char)
  | 0, _ => none
  | budget + 1, s =>
    match value? budget s with
    | none => none
    | some (value, rest) =>
      match skipSpace rest with
      | ']' :: rest => some ([value], rest)
      | ',' :: rest =>
        (elements? budget rest).map fun (elements, rest) => (value :: elements, rest)
      | _ => none

/-- The members of an object, one at least, up to its closing brace. -/
def members? : Nat → List Char → Option (List (String × Json) × List Char)
  | 0, _ => none
  | budget + 1, s =>
    match skipSpace s with
    | '"' :: rest =>
      match stringLiteral? rest with
      | none => none
      | some (key, rest) =>
        match skipSpace rest with
        | ':' :: rest =>
          match value? budget rest with
          | none => none
          | some (value, rest) =>
            match skipSpace rest with
            | '\x7d' :: rest => some ([(String.ofList key, value)], rest)
            | ',' :: rest =>
              (members? budget rest).map fun (members, rest) =>
                ((String.ofList key, value) :: members, rest)
            | _ => none
        | _ => none
    | _ => none

end

def parseChars? (s : List Char) : Option Json :=
  match value? (2 * s.length + 1) s with
  | some (value, rest) => if (skipSpace rest).isEmpty then some value else none
  | none => none

def parse? (text : String) : Option Json := parseChars? text.toList

end CoreProver.Json
