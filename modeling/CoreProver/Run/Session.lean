import CoreProver.Run.Constants
import CoreProver.Run.Examination

/-!
# Runs

The requests of a program are examined in order, each in the scope of the constants bound before it.
The first examination that aborts is the last one.
-/

namespace CoreProver

/-- What holds for every request of a run. -/
structure RunSettings where
  /-- The selectors of a request that names none. -/
  defaultSolvers : List Selector
  /-- Failed proofs are only warnings. -/
  warnIfFails : Bool
  verbose : Bool
  deriving Repr, DecidableEq

/-- Everything a run needs besides the program. -/
structure Session (F : Type) where
  prelude : Prelude F
  pool : Pool
  /-- Whether the type of a binding can be handled at all. -/
  provable : Binding → Bool
  settings : RunSettings

variable {F : Type}

/-- The scope in which a binding is evaluated. -/
def Prelude.scope (p : Prelude F) (constants : Constants) (b : Binding) : Scope F :=
  ((Scope.root p.globals).extendAll constants.frame).moveTo b.location

/-- What has to be shown about a binding: its safety conditions, or the property that it is. -/
def Prelude.obligation [Foreign F] (p : Prelude F) (constants : Constants) (b : Binding)
    (mode : Mode) : Outcome Obligation :=
  match mode with
  | .safety => evalSafety p.types b.body (p.scope constants b) .initial
  | _ => evalProperty p.types b.body (p.scope constants b) .initial

/-- The kind of the constant that a binding stands for. -/
def Prelude.constantKind (p : Prelude F) (b : Binding) : Except EvalError Kind :=
  match p.types.resolve? b.type with
  | some kind => .ok kind
  | none => .error ⟨.unresolvableType ⟨b.name, b.type⟩, some b.location⟩

namespace Session

/-- Whether backends for a request show what they print. -/
def isVerbose (s : Session F) (r : Request) : Bool := r.options.verbose || s.settings.verbose

/-- The selectors of a request: its own, or else the default ones. -/
def selectorsFor (s : Session F) (r : Request) : List Selector :=
  if r.options.selectors.isEmpty then s.settings.defaultSolvers else r.options.selectors

/-- Hand an obligation to the backends. -/
def solve (s : Session F) (r : Request) (o : Obligation) : Ending :=
  let selectors := s.selectorsFor r
  match s.pool selectors (s.isVerbose r) with
  | .error e => .unselected o selectors e
  | .ok backends =>
    match prove? o backends with
    | none => .unasked o selectors
    | some verdict => .judged o selectors verdict

/-- What a binding's evaluation leads to. A safety check without conditions needs no backend. -/
def settle (s : Session F) (r : Request) : Except Stop Obligation → Ending
  | .error (.failed e) => .uncovered e
  | .error (.crashed c) => .crashed c
  | .ok o => if r.mode = .safety ∧ o.goal = .bool true then .trivial o else s.solve r o

/-- The method calls and the ending of a request. -/
def conclude [Foreign F] (s : Session F) (constants : Constants) (b : Binding) (r : Request) :
    List Expr × Ending :=
  match r.options.skipReason? with
  | some reason => ([], .skipped reason)
  | none =>
    if !s.provable b then ([], .unprovable)
    else if r.mode = .constant then
      match s.prelude.constantKind b with
      | .ok kind => ([], .bound kind)
      | .error e => ([], .uncovered e)
    else
      let (result, state) := s.prelude.obligation constants b r.mode
      (state.calls, s.settle r result)

def examine [Foreign F] (s : Session F) (constants : Constants) (b : Binding) (r : Request) :
    Examination :=
  let (calls, ending) := s.conclude constants b r
  { binding := b
    mode := r.mode
    verbose := s.isVerbose r
    debug := r.options.debug
    lenient := r.options.warnIfFails || s.settings.warnIfFails
    calls := calls
    ending := ending }

end Session

/-- The constants after an examination. -/
def Examination.constants (x : Examination) (before : Constants) : Constants :=
  match x.ending with
  | .bound kind => before.bind x.binding.name kind
  | _ => before

/-- The requests of a program with their bindings, in order. -/
def Program.requests (p : Program) : List (Binding × Request) :=
  p.bindings.flatMap fun b => b.requests.map fun r => (b, r)

namespace Session

/-- Examine requests one after the other. -/
def examineAll [Foreign F] (s : Session F) : List (Binding × Request) → Constants → List Examination
  | [], _ => []
  | (b, r) :: rest, constants =>
    let x := s.examine constants b r
    if x.abort?.isSome then [x] else x :: s.examineAll rest (x.constants constants)

end Session

/-- The examinations of a program's requests, in order. -/
abbrev Run := List Examination

/-- Examine all requests of a program, starting without constants. -/
def Session.run [Foreign F] (s : Session F) (p : Program) : Run := s.examineAll p.requests .empty

/-- Why a binding has no obligation. -/
inductive ObligationStop where
  | failed (e : RunError)
  | crashed (c : Crash)

/-- The obligation of the first request on the first binding with this name that is not for a
constant, with the constants of the bindings before it in scope. Nothing is skipped or rejected. -/
def Prelude.obligationNamed [Foreign F] (p : Prelude F) (name : String) :
    List Binding → Constants → Except ObligationStop (Option Obligation)
  | [], _ => .ok none
  | b :: rest, constants =>
    let modes := b.requests.map Request.mode
    if b.name = name then
      match modes.find? (· ≠ .constant) with
      | none => .ok none
      | some mode =>
        match (p.obligation constants b mode).1 with
        | .ok o => .ok (some o)
        | .error (.failed e) => .error (.failed (.coverage b.name e))
        | .error (.crashed c) => .error (.crashed c)
    else if modes.contains .constant then
      match p.constantKind b with
      | .ok kind => p.obligationNamed name rest (constants.bind b.name kind)
      | .error e => .error (.failed (.coverage b.name e))
    else p.obligationNamed name rest constants

/-- The obligation of the binding with this name in a program. -/
def Prelude.obligationOf [Foreign F] (p : Prelude F) (program : Program) (name : String) :
    Except ObligationStop (Option Obligation) :=
  p.obligationNamed name program.bindings .empty

end CoreProver
