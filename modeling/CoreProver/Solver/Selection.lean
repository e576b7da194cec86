import CoreProver.Solver.Backend

/-!
# Selection of backends

Selectors stand for backends; a pool says for which ones.
-/

namespace CoreProver

/-- Why selectors stand for no backends. -/
inductive SelectionError where
  | empty
  | noneInstalled
  deriving Repr, DecidableEq

namespace SelectionError

def message : SelectionError → String
  | empty => "no solver selected"
  | noneInstalled =>
    "`any solver` was requested but none of the supported engines is installed"

def diagnostic (e : SelectionError) : Diagnostic where
  message := e.message
  code := match e with
    | empty => "sprove::solvers::empty"
    | noneInstalled => "sprove::solvers::none_installed"
  help := some (match e with
    | empty => "pass --solver <engine> or set `solvers` under [defaults]"
    | noneInstalled => "install one of: " ++ Engine.listing)

end SelectionError

/-- The backends that selectors stand for, in the order in which they finish. Verbose backends keep
the script in what they print. -/
abbrev Pool := List Selector → (verbose : Bool) → Except SelectionError (List Backend)

end CoreProver
