/-!
# TOML documents

A document is a table of values by key. A table remembers how it was written, which decides what
may still be added to it: one that has a header takes no second header, one made by dotted keys
takes only further dotted keys and subtables, and an inline table is closed.
-/

namespace CoreProver.Toml

/-- How a table came into being. -/
inductive Origin where
  | header
  /-- Named on the way to another table's header. -/
  | implied
  | dotted
  | inline
  deriving Repr, DecidableEq

/-- A value. Floating-point numbers and dates are kept as they are written. -/
inductive Value where
  | string (text : String)
  | integer (n : Int)
  | float (literal : String)
  | boolean (b : Bool)
  | date (literal : String)
  | array (items : List Value)
  | table (origin : Origin) (entries : List (String × Value))
  deriving Repr, Inhabited

/-- Values by key; no key stands twice. -/
abbrev Table := List (String × Value)

namespace Table

def get? (t : Table) (key : String) : Option Value := List.lookup key t

def put (t : Table) (key : String) (value : Value) : Table :=
  match t with
  | [] => [(key, value)]
  | (k, old) :: rest =>
    if k = key then (key, value) :: rest else (k, old) :: put rest key value

/-- Give a dotted key a value. Every table on the way has to be made by dotted keys, and the last
key has to be new. -/
def assign (t : Table) (path : List String) (value : Value) : Option Table :=
  match path with
  | [] => none
  | [key] => if (get? t key).isSome then none else some (put t key value)
  | key :: rest =>
    match get? t key with
    | none => (assign [] rest value).map fun inner => put t key (.table .dotted inner)
    | some (.table .dotted inner) =>
      (assign inner rest value).map fun inner => put t key (.table .dotted inner)
    | some _ => none

/-- Define the table of a header. It may have been implied before, but not defined. -/
def define (t : Table) (path : List String) : Option Table :=
  match path with
  | [] => none
  | [key] =>
    match get? t key with
    | none => some (put t key (.table .header []))
    | some (.table .implied inner) => some (put t key (.table .header inner))
    | some _ => none
  | key :: rest =>
    match get? t key with
    | none => (define [] rest).map fun inner => put t key (.table .implied inner)
    | some (.table .inline _) => none
    | some (.table origin inner) =>
      (define inner rest).map fun inner => put t key (.table origin inner)
    | some _ => none

/-- Change the table at the end of a path. -/
def change (t : Table) (path : List String) (f : Table → Option Table) : Option Table :=
  match path with
  | [] => f t
  | key :: rest =>
    match get? t key with
    | some (.table origin inner) =>
      (change inner rest f).map fun inner => put t key (.table origin inner)
    | _ => none

end Table

end CoreProver.Toml
