import CoreProver.Text.Numeral

/-!
# Quoted texts

Texts in double quotes have escapes, texts in single quotes have none. Three quotes start a text of
several lines: its first line end is dropped, every other one counts as a line feed, and up to two
quotes may stand right before the closing ones.
-/

namespace CoreProver.Toml

def apostrophe : Char := Char.ofNat 39

/-- Characters that stand for themselves in comments and texts. -/
def isPlain (c : Char) : Bool := c = '\t' || (0x20 ≤ c.toNat && c.toNat ≠ 0x7F)

/-- Blanks inside a line. -/
def isInlineBlank (c : Char) : Bool := c = ' ' || c = '\t'

/-- What follows a line end at the front. -/
def afterLineEnd? : List Char → Option (List Char)
  | '\n' :: s => some s
  | '\r' :: '\n' :: s => some s
  | _ => none

/-- The character of a number written in hexadecimal digits. -/
def scalarChar? (digits : List Char) : Option Char :=
  (Text.ofHex? digits).bind fun n => if n.isValidChar then some (Char.ofNat n) else none

/-- The character of an escape and what follows it; the text starts after the backslash. -/
def escape? : List Char → Option (Char × List Char)
  | 'b' :: s => some (Char.ofNat 8, s)
  | 't' :: s => some ('\t', s)
  | 'n' :: s => some ('\n', s)
  | 'f' :: s => some (Char.ofNat 12, s)
  | 'r' :: s => some ('\r', s)
  | '"' :: s => some ('"', s)
  | '\\' :: s => some ('\\', s)
  | 'u' :: s => if s.length < 4 then none else (scalarChar? (s.take 4)).map fun c => (c, s.drop 4)
  | 'U' :: s => if s.length < 8 then none else (scalarChar? (s.take 8)).map fun c => (c, s.drop 8)
  | _ => none

/-- The rest of a text in double quotes, after the opening one. -/
def basicText? : Nat → List Char → Option (List Char × List Char)
  | 0, _ => none
  | _ + 1, [] => none
  | fuel + 1, c :: s =>
    if c = '"' then some ([], s)
    else if c = '\\' then
      (escape? s).bind fun (e, s) => (basicText? fuel s).map fun (text, s) => (e :: text, s)
    else if isPlain c then (basicText? fuel s).map fun (text, s) => (c :: text, s)
    else none

/-- The rest of a text in single quotes, after the opening one. -/
def literalText? : List Char → Option (List Char × List Char)
  | [] => none
  | c :: s =>
    if c = apostrophe then some ([], s)
    else if isPlain c then (literalText? s).map fun (text, s) => (c :: text, s)
    else none

/-- What an escaped line end removes: all blanks and line ends up to the next other character. -/
def skipLineEnds : Nat → List Char → List Char
  | 0, s => s
  | fuel + 1, s =>
    let s := s.dropWhile isInlineBlank
    match afterLineEnd? s with
    | some s => skipLineEnds fuel s
    | none => s

/-- The rest of a text of several lines, after the opening quotes. -/
def longText? (quote : Char) : Nat → List Char → Option (List Char × List Char)
  | 0, _ => none
  | fuel + 1, s =>
    let quotes := s.takeWhile (· = quote)
    let rest := s.drop quotes.length
    if 3 ≤ quotes.length then
      if quotes.length ≤ 5 then some (quotes.drop 3, rest) else none
    else
      let continued : Option (List Char × List Char) :=
        match afterLineEnd? rest with
        | some s => (longText? quote fuel s).map fun (text, s) => ('\n' :: text, s)
        | none =>
          match rest with
          | [] => none
          | c :: s =>
            if c = '\\' && quote = '"' then
              match afterLineEnd? (s.dropWhile isInlineBlank) with
              | some s => longText? quote fuel (skipLineEnds s.length s)
              | none => (escape? s).bind fun (e, s) =>
                  (longText? quote fuel s).map fun (text, s) => (e :: text, s)
            else if isPlain c then (longText? quote fuel s).map fun (text, s) => (c :: text, s)
            else none
      continued.map fun (text, s) => (quotes ++ text, s)

/-- A text of several lines, whose first line end is dropped. -/
def blockText? (quote : Char) (s : List Char) : Option (List Char × List Char) :=
  let s := (afterLineEnd? s).getD s
  longText? quote (s.length + 1) s

def lineText? : List Char → Option (List Char × List Char)
  | [] => none
  | c :: s =>
    if c = '"' then basicText? (s.length + 1) s
    else if c = apostrophe then literalText? s
    else none

def quotedText? : List Char → Option (List Char × List Char)
  | a :: b :: c :: s =>
    if a = b ∧ b = c ∧ (c = '"' ∨ c = apostrophe) then blockText? c s
    else lineText? (a :: b :: c :: s)
  | s => lineText? s

end CoreProver.Toml
