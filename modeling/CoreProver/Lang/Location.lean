/-!
# Source locations

Positions that bindings and markers inside expressions carry.
-/

namespace CoreProver

/-- A position in a source file; lines and columns are counted from one. -/
structure Location where
  file : String
  line : UInt32
  column : UInt32
  deriving Repr, DecidableEq, Inhabited

namespace Location

/-- How a location is shown: file, line and column. -/
def text (l : Location) : String :=
  l.file ++ ":" ++ Nat.repr l.line.toNat ++ ":" ++ Nat.repr l.column.toNat

/-- How a location that may be missing is shown. -/
def describe : Option Location → String
  | some l => l.text
  | none => "<unknown location>"

end Location

end CoreProver
