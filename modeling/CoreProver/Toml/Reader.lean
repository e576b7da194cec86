import CoreProver.Toml.Quoted
import CoreProver.Toml.Scalar

/-!
# Reading TOML

A reader takes characters from the front and returns what follows. Line ends matter: they end
statements, may stand anywhere in an array, and nowhere in an inline table. Arrays of tables are not
read, since no document of this program has any.
-/

namespace CoreProver.Toml

def skipBlanks (s : List Char) : List Char := s.dropWhile isInlineBlank

def skipComment : List Char → List Char
  | '#' :: s => s.dropWhile isPlain
  | s => s

/-- What follows the end of a statement: blanks, a comment, and the line end or the end. -/
def afterStatement? (s : List Char) : Option (List Char) :=
  match skipComment (skipBlanks s) with
  | [] => some []
  | s => afterLineEnd? s

/-- Drop blanks, comments and line ends. -/
def skipLayout : Nat → List Char → List Char
  | 0, s => s
  | fuel + 1, s =>
    let s := skipComment (skipBlanks s)
    match afterLineEnd? s with
    | some s => skipLayout fuel s
    | none => s

/-- Whether a character can stand in a key without quotes. -/
def isKeyChar (c : Char) : Bool := c.isAlphanum || c = '_' || c = '-'

def keyPart? (s : List Char) : Option (String × List Char) :=
  match lineText? s with
  | some (text, s) => some (String.ofList text, s)
  | none =>
    let word := s.takeWhile isKeyChar
    if word.isEmpty then none else some (String.ofList word, s.drop word.length)

/-- Read a key of at most `count` parts, with blanks around its dots and after it. -/
def keyParts? : (count : Nat) → List Char → Option (List String × List Char)
  | 0, _ => none
  | count + 1, s =>
    (keyPart? (skipBlanks s)).bind fun (part, s) =>
      match skipBlanks s with
      | '.' :: s => (keyParts? count s).map fun (parts, s) => (part :: parts, s)
      | s => some ([part], s)

/-- How deep tables and arrays may stand inside each other, by keys of many parts or by brackets. -/
def depthLimit : Nat := 79

def key? (s : List Char) : Option (List String × List Char) := keyParts? depthLimit s

/-- A reader of values. -/
abbrev ValueReader := List Char → Option (Value × List Char)

/-- Read a key and its value. -/
def pair? (value? : ValueReader) (s : List Char) : Option (List String × Value × List Char) :=
  (key? s).bind fun (key, s) =>
    match s with
    | '=' :: s => (value? (skipBlanks s)).map fun (value, s) => (key, value, s)
    | _ => none

/-- Read the items of an array up to the closing bracket. -/
def items? (value? : ValueReader) : Nat → List Char → Option (List Value × List Char)
  | 0, _ => none
  | fuel + 1, s =>
    match skipLayout (s.length + 1) s with
    | ']' :: s => some ([], s)
    | s =>
      (value? s).bind fun (item, s) =>
        match skipLayout (s.length + 1) s with
        | ']' :: s => some ([item], s)
        | ',' :: s => (items? value? fuel s).map fun (items, s) => (item :: items, s)
        | _ => none

/-- Read the entries of an inline table up to the closing brace; there is at least one. -/
def entries? (value? : ValueReader) : Nat → List Char → Table → Option (Table × List Char)
  | 0, _, _ => none
  | fuel + 1, s, table =>
    (pair? value? s).bind fun (key, value, s) =>
      (table.assign key value).bind fun table =>
        match skipBlanks s with
        | '\x7d' :: s => some (table, s)
        | ',' :: s => entries? value? fuel s table
        | _ => none

def leaf? : ValueReader
  | [] => none
  | c :: s =>
    if c = '"' || c = apostrophe then
      (quotedText? (c :: s)).map fun (text, s) => (.string (String.ofList text), s)
    else readScalar? (c :: s)

/-- Read a value with at most `depth` arrays and inline tables around each other. -/
def value? : (depth : Nat) → ValueReader
  | 0, s => leaf? s
  | depth + 1, '[' :: s =>
    (items? (value? depth) (s.length + 1) s).map fun (items, s) => (.array items, s)
  | depth + 1, '\x7b' :: s =>
    match skipBlanks s with
    | '\x7d' :: s => some (.table .inline [], s)
    | s => (entries? (value? depth) (s.length + 1) s []).map fun (t, s) => (.table .inline t, s)
  | _ + 1, s => leaf? s

/-- Read a header, after its opening bracket. -/
def header? (s : List Char) : Option (List String × List Char) :=
  (key? s).bind fun (key, s) =>
    match s with
    | ']' :: s => (afterStatement? s).map fun s => (key, s)
    | _ => none

/-- Read statements; pairs go to the table at `place`. -/
def statements? : Nat → List Char → (place : List String) → Table → Option Table
  | 0, _, _, _ => none
  | fuel + 1, s, place, table =>
    match skipBlanks s with
    | [] => some table
    | c :: s =>
      if c = '[' then
        (header? s).bind fun (key, s) =>
          (table.define key).bind fun table => statements? fuel s key table
      else if c = '#' || c = '\n' || c = '\r' then
        (afterStatement? (c :: s)).bind fun s => statements? fuel s place table
      else
        (pair? (value? depthLimit) (c :: s)).bind fun (key, value, s) =>
          (afterStatement? s).bind fun s =>
            (table.change place fun t => t.assign key value).bind fun table =>
              statements? fuel s place table

/-- Read a document; a byte order mark at the front is dropped. -/
def parse? (text : String) : Option Table :=
  let s := match text.toList with
    | c :: s => if c = Char.ofNat 0xFEFF then s else c :: s
    | [] => []
  statements? (s.length + 1) s [] []

end CoreProver.Toml
