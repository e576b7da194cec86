import CoreProver.Host.Path
import CoreProver.Solver.Registry
import CoreProver.Toml.Reader

/-!
# The settings file

A file in the working directory or above it sets default solvers, whether failed proofs are only
warnings, and how each engine is run. Relative paths of programs start at the directory of the file;
a bare name is left to the search for programs.
-/

namespace CoreProver

/-- Why settings cannot be had. -/
inductive SettingsError where
  | unreadable (path : String) (why : OsError)
  | malformed
  | unknownDefault (origin : String) (e : UnknownEngine)
  | unknownSection (origin name : String) (e : UnknownEngine)
  | unknownSelector (e : UnknownEngine)
  deriving Repr, DecidableEq

namespace SettingsError

def message (e : SettingsError) : String :=
  "config error: " ++ match e with
    | unreadable path why => "failed to read " ++ path ++ ": " ++ why.text
    | malformed => "failed to parse"
    | unknownDefault origin e => origin ++ ": [defaults] solvers: " ++ e.message
    | unknownSection origin name e => origin ++ ": [solvers." ++ name ++ "]: " ++ e.message
    | unknownSelector e => e.message

def diagnostic (e : SettingsError) : Diagnostic := ⟨e.message, "sprove::config", none⟩

end SettingsError

/-- The section of one engine, as written. -/
structure EngineSection where
  path : Option String
  timeout : Option Nat
  args : List String
  deriving Repr, DecidableEq

/-- The settings file, as written. -/
structure SettingsFile where
  solvers : List String
  warnIfFails : Bool
  engines : List (String × EngineSection)
  deriving Repr

namespace Toml.Value

/-- The text that a value is. -/
def text? : Value → Option String
  | string text => some text
  | _ => none

/-- The texts of an array of texts. -/
def texts? : Value → Option (List String)
  | array items => items.mapM text?
  | _ => none

def nat? : Value → Option Nat
  | integer n => if 0 ≤ n then some n.toNat else none
  | _ => none

def bool? : Value → Option Bool
  | boolean b => some b
  | _ => none

/-- The fields of a record: a table with no other keys, or an array of values in the order of the
fields, which may be shorter or longer. -/
def fields? (names : List String) : Value → Option (List (Option Value))
  | table _ entries =>
    if entries.all fun entry => names.contains entry.1 then some (names.map (Table.get? entries))
    else none
  | array items => some ((items.map some ++ names.map fun _ => none).take names.length)
  | _ => none

end Toml.Value

namespace SettingsFile

/-- Read a field that may be missing. -/
def optional? {α : Type} (read : Toml.Value → Option α) : Option Toml.Value → Option (Option α)
  | none => some none
  | some value => (read value).map some

def section? (value : Toml.Value) : Option EngineSection :=
  match value.fields? ["path", "timeout_ms", "args"] with
  | some [path, timeout, args] => do
    let path ← optional? Toml.Value.text? path
    let timeout ← optional? Toml.Value.nat? timeout
    let args ← optional? Toml.Value.texts? args
    return ⟨path, timeout, args.getD []⟩
  | _ => none

def defaults? (value : Toml.Value) : Option (List String × Bool) :=
  match value.fields? ["solvers", "warn_if_fails"] with
  | some [solvers, warn] => do
    let solvers ← optional? Toml.Value.texts? solvers
    let warn ← optional? Toml.Value.bool? warn
    return (solvers.getD [], warn.getD false)
  | _ => none

def sections? : Toml.Value → Option (List (String × EngineSection))
  | .table _ entries => entries.mapM fun entry => (section? entry.2).map fun s => (entry.1, s)
  | _ => none

/-- Read a document; other keys than those of settings are refused. -/
def ofTable? (t : Toml.Table) : Option SettingsFile :=
  match (Toml.Value.table .header t).fields? ["defaults", "solvers"] with
  | some [defaults, solvers] => do
    let defaults ← optional? defaults? defaults
    let engines ← optional? sections? solvers
    let (names, warn) := defaults.getD ([], false)
    return ⟨names, warn, engines.getD []⟩
  | _ => none

end SettingsFile

/-- Settings that can be used: names are looked up and paths are seen from the settings file. -/
structure Settings where
  /-- The file that they come from. -/
  source : Option String
  /-- Empty when nothing is set. -/
  defaultSolvers : List Selector
  warnIfFails : Bool
  registry : Registry
  deriving Repr

namespace Settings

def fileName : String := "sprove.toml"

def default : Settings := ⟨none, [], false, .empty⟩

/-- The program path that is meant by one in a file in directory `base`. -/
def resolvePath (base path : String) : String :=
  if Path.isAbsolute path || Path.componentCount path = 1 then path else Path.join base path

/-- The directory of a file; a path without parent is taken to be in the working directory. -/
def directory (origin : String) : String := (Path.parent? origin).getD "."

def selectors (origin : String) (names : List String) : Except SettingsError (List Selector) :=
  match names.mapM Selector.parse with
  | .ok selectors => .ok (distinct selectors)
  | .error e => .error (.unknownDefault origin e)

/-- Set the engines of named sections, one after the other. -/
def configureAll (origin : String) :
    Registry → List (String × EngineSection) → Except SettingsError Registry
  | registry, [] => .ok registry
  | registry, (name, s) :: rest =>
    match Engine.parse name with
    | .error e => .error (.unknownSection origin name e)
    | .ok engine =>
      let path := s.path.map (resolvePath (directory origin))
      configureAll origin (registry.configure engine ⟨path, s.timeout, s.args⟩) rest

/-- The settings of a file. Sections are taken in the order of their names, so the last name of an
engine in that order wins. -/
def ofFile (origin : String) (file : SettingsFile) : Except SettingsError Settings := do
  let solvers ← selectors origin file.solvers
  let sections := file.engines.mergeSort fun a b => a.1 ≤ b.1
  let registry ← configureAll origin .empty sections
  return ⟨some origin, solvers, file.warnIfFails, registry⟩

/-- Read the text of a settings file that was found at `origin`. -/
def parse (text origin : String) : Except SettingsError Settings :=
  match (Toml.parse? text).bind SettingsFile.ofTable? with
  | some file => ofFile origin file
  | none => .error .malformed

/-- The nearest settings file at or above a place. -/
def find? (host : Host) (start : String) : Option String :=
  let place := if host.isFile start then Path.parent? start else some start
  place.bind fun place =>
    ((Path.ancestors place).map (Path.join · fileName)).find? host.exists?

/-- Load a settings file, or the nearest one. Without a file there are no settings. -/
def load (host : Host) (explicit : Option String) (start : String) :
    Except SettingsError Settings :=
  match explicit.or (find? host start) with
  | none => .ok default
  | some path =>
    match host.read path with
    | .error why => .error (.unreadable path why)
    | .ok text => parse text path

end Settings

end CoreProver
