import CoreProver.CommandLine.Execute

/-!
# The program

The outer layer: it looks at the files that a command can ask for, carries the command out on what
it saw, and prints and writes the result. Other programs are not started from here, so every engine
counts as one that may not be run.
-/

namespace CoreProver.Main

open CommandLine

/-- What was seen at paths. -/
abbrev Sighting := List (String × Except OsError String)

/-- Look at a path. What can be read but not decoded is no text. -/
def look (path : String) : IO (Except OsError String) := do
  match ← (IO.FS.readFile path).toBaseIO with
  | .ok text => return .ok text
  | .error (.noFileOrDirectory ..) => return .error .notFound
  | .error (.permissionDenied ..) => return .error .permissionDenied
  | .error (.inappropriateType ..) => return .error .isADirectory
  | .error _ => return .error .notText

def lookAll (paths : List String) : IO Sighting :=
  paths.mapM fun path => return (path, ← look path)

/-- Whether something was seen at a path. -/
def seen (s : Sighting) (path : String) : Bool :=
  match s.lookup path with
  | none | some (.error .notFound) => false
  | _ => true

/-- The machine as far as it was seen. -/
def hostOf (workingDirectory : String) (directories : List String) (s : Sighting) : Host where
  workingDirectory := workingDirectory
  isFile _ := false
  exists? := seen s
  read path := (s.lookup path).getD (.error .notFound)
  findProgram name := (directories.map (Path.join · name)).find? (seen s)
  run _ := .error .permissionDenied
  write _ := .ok ()

def settingsPaths (workingDirectory : String) (options : GlobalOptions) : List String :=
  match options.config with
  | some path => [path]
  | none => (Path.ancestors workingDirectory).map (Path.join · Settings.fileName)

/-- The program file of a task. -/
def programPaths : Task → List String
  | .check options => [options.path]
  | .solvers => []
  | .script path _ => [path]

/-- The places of engines. -/
def enginePaths (directories : List String) (settings : Settings) : List String :=
  settings.registry.engines.filterMap (fun entry => entry.2.path) ++
    Engine.all.flatMap fun e => directories.map (Path.join · e.executable)

/-- Whether an entry is shown. -/
def isShown (debug : Bool) : Level → Bool
  | .error | .warn | .info => true
  | .debug => debug
  | .trace => false

def writeReport (path text : String) : IO Unit := do
  match Path.parent? path with
  | some parent => if !parent.isEmpty then IO.FS.createDirAll parent
  | none => pure ()
  IO.FS.writeFile path text

def performHere (options : GlobalOptions) (task : Task) : IO UInt32 := do
  let workingDirectory := toString (← IO.currentDir)
  let directories := ((← IO.getEnv "PATH").getD "").splitOn ":"
  let files ← lookAll (settingsPaths workingDirectory options ++ programPaths task)
  let early := hostOf workingDirectory directories files
  let programs ← match Settings.load early options.config workingDirectory with
    | .ok settings => lookAll (enginePaths directories settings)
    | .error _ => pure []
  let result := perform (hostOf workingDirectory directories (files ++ programs)) options task
  for entry in result.journal do
    if isShown options.debug entry.level then
      IO.eprintln (entry.level.text ++ " " ++ entry.message)
  if let some (path, text) := result.report then
    writeReport path text
  IO.print result.stdout
  if let some failure := result.failure then
    IO.eprintln failure.message
  return result.exitCode.toUInt32

end CoreProver.Main

open CoreProver CommandLine in
/-- Read the arguments and do what they ask for. -/
def main (args : List String) : IO UInt32 := do
  match CommandLine.read args with
  | .version => IO.print version; return 0
  | .help => IO.print usage; return 0
  | .misuse => IO.eprint usage; return 2
  | .task options task => CoreProver.Main.performHere options task
