/-!
# JSON values as written

A `Json` value keeps the literals of its numbers and strings as they stand in the text. What a
literal means is decided where it is read: an integer, a double, or a text. So a value that nobody
reads only has to obey the grammar.
-/

namespace CoreProver

/-- A JSON value. The literal of a string is what stands between its quotes. -/
inductive Json where
  | null
  | bool (value : Bool)
  | number (literal : String)
  | string (literal : String)
  | array (elements : List Json)
  | object (members : List (String × Json))
  deriving Repr, Inhabited

namespace Json

mutual

/-- How deeply brackets and braces nest in a value. -/
def depth : Json → Nat
  | .array elements => depthElements elements + 1
  | .object members => depthMembers members + 1
  | _ => 0

def depthElements : List Json → Nat
  | [] => 0
  | value :: rest => max value.depth (depthElements rest)

def depthMembers : List (String × Json) → Nat
  | [] => 0
  | (_, value) :: rest => max value.depth (depthMembers rest)

end

end Json

end CoreProver
