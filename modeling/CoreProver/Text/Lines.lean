/-!
# Lines of a text

A line ends at a line feed, and a carriage return right before the line feed belongs to the line
end. What follows the last line feed is a line of its own unless it is empty; it keeps a carriage
return, since no line feed follows.
-/

namespace CoreProver.Text

/-- The pieces between line feeds; there is always at least one. -/
def splitFeeds : List Char → List (List Char)
  | [] => [[]]
  | c :: rest =>
    if c = '\n' then [] :: splitFeeds rest
    else
      match splitFeeds rest with
      | [] => [[c]]
      | piece :: pieces => (c :: piece) :: pieces

/-- A terminated line without the carriage return of its line end. -/
def dropReturn (line : List Char) : List Char :=
  if line.getLast? = some '\r' then line.dropLast else line

def lines (s : List Char) : List (List Char) :=
  let pieces := splitFeeds s
  let last := pieces.getLast?.getD []
  pieces.dropLast.map dropReturn ++ (if last.isEmpty then [] else [last])

/-- Put `separator` between consecutive texts. -/
def joinWith (separator : List Char) : List (List Char) → List Char
  | [] => []
  | [piece] => piece
  | piece :: pieces => piece ++ separator ++ joinWith separator pieces

@[simp] theorem lines_nil : lines [] = [] := rfl

end CoreProver.Text
