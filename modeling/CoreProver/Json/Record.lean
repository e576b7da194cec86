import CoreProver.Json.Literal

/-!
# Records and variants in JSON

A record with named fields is an object in which every known field stands at most once and unknown
ones are ignored, or the array of its fields in their order, from which fields at the end may be
missing. A variant is an object with one member, whose key is the variant's name, or, when it has no
data, that name as a string.

Reading is bounded by `room`, the number of nested brackets and braces that may still be opened.
-/

namespace CoreProver.Json

/-- Nesting allowed in a text that is read into records and variants. -/
def nestingLimit : Nat := 127

/-- The value of a field that stands once; `none` is an error, `some none` a missing field. -/
def field? (name : String) (members : List (String × Json)) : Option (Option Json) :=
  match members.filter (fun m => m.1 = name) with
  | [] => some none
  | [(_, value)] => some (some value)
  | _ => none

/-- Members with the texts of their keys. -/
def namedMembers? (members : List (String × Json)) : Option (List (String × Json)) :=
  members.mapM fun (key, value) => (literalText? key).map (·, value)

/-- The fields of a record, in the order of `names`. -/
def fields? (names : List String) : Json → Option (List (Option Json))
  | .object members => do
    let members ← namedMembers? members
    names.mapM (field? · members)
  | .array elements =>
    if elements.length ≤ names.length then
      some (elements.map some ++ List.replicate (names.length - elements.length) none)
    else none
  | _ => none

/-- The name of a variant written as an object, and its data. -/
def variant? : Json → Option (String × Json)
  | .object [(key, value)] => (literalText? key).map (·, value)
  | _ => none

/-- The elements of an array of exactly two. -/
def pair? : Json → Option (Json × Json)
  | .array [a, b] => some (a, b)
  | _ => none

def isNull : Json → Bool
  | .null => true
  | _ => false

/-- The name of a variant without data: a string, or an object with `null` for its data. -/
def plainVariant? (room : Nat) : Json → Option String
  | .string literal => literalText? literal
  | value =>
    match room, value.variant? with
    | _ + 1, some (name, data) => if data.isNull then some name else none
    | _, _ => none

/-- A record or variant from the members of an object, keys given as texts. -/
def ofMembers (members : List (String × Json)) : Json :=
  .object (members.map fun (key, value) => (String.ofList (escape key.toList), value))

/-- A member that is left out when there is no text for it. -/
def optionalText (name : String) (value : Option String) : List (String × Json) :=
  value.toList.map fun s => (name, ofText s)

def ofVariant (name : String) (data : Json) : Json := ofMembers [(name, data)]

end CoreProver.Json
