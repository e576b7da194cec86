import CoreProver.Json.Basic

/-!
# Writing JSON text

Two forms: on one line without spaces, and with every element and member on a line of its own,
indented by two spaces for each level. Empty arrays and objects stay on their line in both.
-/

namespace CoreProver.Json

def quoted (literal : String) : List Char := '"' :: (literal.toList ++ ['"'])

mutual

/-- A value on one line. -/
def compactChars : Json → List Char
  | .null => ['n', 'u', 'l', 'l']
  | .bool true => ['t', 'r', 'u', 'e']
  | .bool false => ['f', 'a', 'l', 's', 'e']
  | .number literal => literal.toList
  | .string literal => quoted literal
  | .array [] => ['[', ']']
  | .array (value :: rest) => '[' :: (value.compactChars ++ compactElements rest)
  | .object [] => ['\x7b', '\x7d']
  | .object ((key, value) :: rest) =>
    '\x7b' :: (quoted key ++ ':' :: (value.compactChars ++ compactMembers rest))

def compactElements : List Json → List Char
  | [] => [']']
  | value :: rest => ',' :: (value.compactChars ++ compactElements rest)

def compactMembers : List (String × Json) → List Char
  | [] => ['\x7d']
  | (key, value) :: rest =>
    ',' :: (quoted key ++ ':' :: (value.compactChars ++ compactMembers rest))

end

def compact (value : Json) : String := String.ofList value.compactChars

/-- A new line at a level of nesting. -/
def newline (level : Nat) : List Char := '\n' :: List.replicate (2 * level) ' '

mutual

/-- A value whose first line starts at the given level. -/
def prettyChars (level : Nat) : Json → List Char
  | .null => ['n', 'u', 'l', 'l']
  | .bool true => ['t', 'r', 'u', 'e']
  | .bool false => ['f', 'a', 'l', 's', 'e']
  | .number literal => literal.toList
  | .string literal => quoted literal
  | .array [] => ['[', ']']
  | .array (value :: rest) =>
    '[' :: (newline (level + 1) ++ (value.prettyChars (level + 1) ++ prettyElements level rest))
  | .object [] => ['\x7b', '\x7d']
  | .object ((key, value) :: rest) =>
    '\x7b' :: (newline (level + 1) ++ (quoted key ++ ':' :: ' ' ::
      (value.prettyChars (level + 1) ++ prettyMembers level rest)))

def prettyElements (level : Nat) : List Json → List Char
  | [] => newline level ++ [']']
  | value :: rest =>
    ',' :: (newline (level + 1) ++ (value.prettyChars (level + 1) ++ prettyElements level rest))

def prettyMembers (level : Nat) : List (String × Json) → List Char
  | [] => newline level ++ ['\x7d']
  | (key, value) :: rest =>
    ',' :: (newline (level + 1) ++ (quoted key ++ ':' :: ' ' ::
      (value.prettyChars (level + 1) ++ prettyMembers level rest)))

end

/-- A value over several lines. -/
def pretty (value : Json) : String := String.ofList (value.prettyChars 0)

end CoreProver.Json
