import CoreProver.Distinct
import CoreProver.Host.Basic
import CoreProver.Solver.Selection
import CoreProver.Solver.Transcript
import CoreProver.Text.Utf8

/-!
# Installed engines

Engines run as programs: the obligation is written to their standard input and the answer is read
from what they print. An engine runs from the path in its settings, or else from the program found
under its usual name. The solver that builds with the feature `z3` have in process is left out: here
`z3` is a program like the others.
-/

namespace CoreProver

/-- What is set for one engine. -/
structure EngineSettings where
  path : Option String
  /-- Milliseconds. -/
  timeout : Option Nat
  args : List String
  deriving Repr, DecidableEq

def EngineSettings.unset : EngineSettings := ⟨none, none, []⟩

namespace Engine

/-- Arguments that make an engine read a script from its standard input. -/
def scriptArgs : Engine → List String
  | z3 => ["-in", "-smt2"]
  | cvc4 | cvc5 => ["--lang=smt2", "--produce-models"]
  | boolector => ["--smt2", "--model-gen"]
  | bitwuzla => ["--lang", "smt2", "--produce-models"]
  | yices | mathsat => []

/-- The argument that limits the time of an engine. Seconds are rounded up and at least one. -/
def timeoutArg? (e : Engine) (milliseconds : Nat) : Option String :=
  let seconds := Nat.repr (max 1 ((milliseconds + 999) / 1000))
  match e with
  | z3 => some ("-T:" ++ seconds)
  | cvc4 | cvc5 => some ("--tlimit=" ++ Nat.repr milliseconds)
  | yices => some ("--timeout=" ++ seconds)
  | boolector => some ("--time=" ++ seconds)
  | bitwuzla => some ("--time-limit=" ++ Nat.repr milliseconds)
  | mathsat => none

end Engine

/-- The settings of engines; an engine that is not listed has none. -/
structure Registry where
  engines : List (Engine × EngineSettings)
  deriving Repr

namespace Registry

def empty : Registry := ⟨[]⟩

/-- Set an engine, whatever was set before. -/
def configure (r : Registry) (e : Engine) (settings : EngineSettings) : Registry :=
  ⟨(e, settings) :: r.engines.filter fun entry => entry.1 ≠ e⟩

/-- What is set for an engine, or nothing. -/
def settings (r : Registry) (e : Engine) : EngineSettings :=
  (r.engines.lookup e).getD .unset

/-- The program that runs an engine. -/
def program? (r : Registry) (host : Host) (e : Engine) : Option String :=
  match (r.settings e).path with
  | some path => some path
  | none => host.findProgram e.executable

/-- Whether an engine is there. -/
def isInstalled (r : Registry) (host : Host) (e : Engine) : Bool :=
  match (r.settings e).path with
  | some path => host.exists? path
  | none => (host.findProgram e.executable).isSome

def installed (r : Registry) (host : Host) : List Engine :=
  Engine.all.filter (r.isInstalled host)

/-- The arguments of an engine: those for scripts, the time limit, and the ones in its settings. -/
def args (r : Registry) (e : Engine) : List String :=
  let settings := r.settings e
  e.scriptArgs ++ (settings.timeout.bind e.timeoutArg?).toList ++ settings.args

/-- The command that gives an obligation to an engine. -/
def command? (r : Registry) (host : Host) (e : Engine) (o : Obligation) : Option Command :=
  (r.program? host e).map fun program => ⟨program, r.args e, o.script true⟩

/-- What an engine answered. All that it printed is kept, behind the script if that is wanted. -/
def response (verbose : Bool) (script : String) (out : Output) : Response :=
  let stdout := Text.decodeLossy out.stdout
  let stderr := Text.decodeLossy out.stderr
  { answer := Transcript.classify stdout stderr
    raw := (if verbose then script ++ "; ---- response ----\n" else "") ++ String.ofList stdout ++
      (if (Text.trim stderr).isEmpty then "" else String.ofList stderr) }

/-- An engine as a backend. -/
def backend (r : Registry) (host : Host) (verbose : Bool) (e : Engine) : Backend where
  name := e.name
  check o :=
    match r.command? host e o with
    | none => .faulted (.notFound e e.executable)
    | some command =>
      match host.run command with
      | .error why => .faulted (.notRun e.name why.text)
      | .ok out => .answered (response verbose command.input out)

/-- The engines that a selector stands for. -/
def expand (r : Registry) (host : Host) : Selector → Except SelectionError (List Engine)
  | .engine e => .ok [e]
  | .allInstalled =>
    let engines := r.installed host
    if engines.isEmpty then .error .noneInstalled else .ok engines

/-- The engines that selectors stand for, in order of first occurrence. -/
def select (r : Registry) (host : Host) (selectors : List Selector) :
    Except SelectionError (List Engine) :=
  if selectors.isEmpty then .error .empty
  else (selectors.mapM (r.expand host)).map fun engines => distinct engines.flatten

/-- The backends that selectors stand for, in the order of the engines. -/
def backendsFor (r : Registry) (host : Host) (selectors : List Selector) (verbose : Bool) :
    Except SelectionError (List Backend) :=
  (r.select host selectors).map fun engines => engines.map (r.backend host verbose)

end Registry

end CoreProver
