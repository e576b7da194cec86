/-!
# Searching and stripping fixed texts

Occurrence of one text in another, removal of repeated heads and tails, and the letter case of
ASCII. Letters outside ASCII keep their case.
-/

namespace CoreProver.Text

def contains (word : List Char) : List Char → Bool
  | [] => word.isEmpty
  | c :: rest => word.isPrefixOf (c :: rest) || contains word rest

/-- What follows `word` at the front of the text, if the text starts with it. -/
def after? : (word : List Char) → List Char → Option (List Char)
  | [], s => some s
  | _ :: _, [] => none
  | w :: word, c :: s => if w = c then after? word s else none

/-- Remove `word` from the front as often as it stands there, at most `fuel` times. -/
def dropRepeatedFuel (word : List Char) : Nat → List Char → List Char
  | 0, s => s
  | fuel + 1, s =>
    match after? word s with
    | some rest => dropRepeatedFuel word fuel rest
    | none => s

/-- Remove `word` from the front as often as it stands there. An empty `word` removes nothing. -/
def dropRepeated (word s : List Char) : List Char :=
  if word.isEmpty then s else dropRepeatedFuel word s.length s

/-- The text with the letters `A` to `Z` in lower case. -/
def lowerAscii (s : List Char) : List Char := s.map Char.toLower

@[simp] theorem after?_nil (s : List Char) : after? [] s = some s := by
  cases s <;> rfl

@[simp] theorem after?_append (word s : List Char) : after? word (word ++ s) = some s := by
  induction word with
  | nil => simp
  | cons w word ih => simp [after?, ih]

end CoreProver.Text
