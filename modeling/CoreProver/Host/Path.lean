import CoreProver.Text.Lines

/-!
# Paths

A path is a text with slashes. Its components are the parts between slashes; empty parts and single
dots are none, except for a dot at the very front. The root counts as a component too.
-/

namespace CoreProver.Path

/-- The parts between slashes; there is always at least one. -/
def split : List Char → List (List Char)
  | [] => [[]]
  | c :: rest =>
    if c = '/' then [] :: split rest
    else
      match split rest with
      | [] => [[c]]
      | part :: parts => (c :: part) :: parts

def isAbsolute (path : String) : Bool := path.toList.head? = some '/'

/-- Whether a part after the first one is a component. -/
def isComponent (part : List Char) : Bool := !part.isEmpty && part ≠ ['.']

/-- The first part of a relative path, if it is a component. -/
def frontComponent (part : List Char) : List (List Char) := if part.isEmpty then [] else [part]

/-- The parts below the root or the starting directory: the first one of a relative path apart,
since a dot counts there. -/
def parts (path : String) : List (List Char) × List (List Char) :=
  match split path.toList with
  | [] => ([], [])
  | first :: rest => if isAbsolute path then ([], rest) else (frontComponent first, rest)

def componentCount (path : String) : Nat :=
  let (front, rest) := parts path
  (if isAbsolute path then 1 else front.length) + rest.countP isComponent

/-- Parts without those at the end that are no components. -/
def trimParts (parts : List (List Char)) : List (List Char) :=
  (parts.reverse.dropWhile fun part => !isComponent part).reverse

/-- Put parts together again. -/
def assemble (path : String) (front rest : List (List Char)) : String :=
  let body := String.ofList (Text.joinWith ['/'] (front ++ rest))
  if isAbsolute path then "/" ++ body else body

/-- The path without its last component; the root and the empty path have none. -/
def parent? (path : String) : Option String :=
  let (front, rest) := parts path
  match (trimParts rest).reverse with
  | _ :: before => some (assemble path front (trimParts before.reverse))
  | [] => if isAbsolute path then none else if front.isEmpty then none else some ""

def join (base path : String) : String :=
  if isAbsolute path || base.isEmpty then path
  else if base.toList.getLast? = some '/' then base ++ path
  else base ++ "/" ++ path

/-- A path and its parents, at most `fuel` of them. -/
def ancestorsUpTo : Nat → String → List String
  | 0, path => [path]
  | fuel + 1, path =>
    match parent? path with
    | some parent => path :: ancestorsUpTo fuel parent
    | none => [path]

/-- A path and all its parents, the nearest first. -/
def ancestors (path : String) : List String := ancestorsUpTo (path.length + 1) path

end CoreProver.Path
