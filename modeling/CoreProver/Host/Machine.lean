import CoreProver.Host.Basic
import CoreProver.Host.Path

/-!
# A machine in memory

A file system of directories, texts and programs with fixed output, and the rules by which an
operating system finds files and starts programs. It serves as a `Host` without touching a disk.
-/

namespace CoreProver

/-- A program that prints the same on every run. -/
structure StubProgram where
  stdout : List UInt8
  stderr : List UInt8
  /-- Whether it may be started. -/
  executable : Bool
  /-- Whether it reads its input before it ends. -/
  readsInput : Bool
  deriving Repr, DecidableEq

/-- What a path can lead to. -/
inductive Node where
  | directory
  | file (text : String)
  | program (p : StubProgram)
  deriving Repr, DecidableEq

/-- A machine: nodes by their place below the root, the working directory, and the directories in
which programs are looked up. -/
structure Machine where
  nodes : List (List String × Node)
  workingDirectory : String
  programDirectories : List String
  deriving Repr

namespace Machine

/-- The number of bytes that a program can be given before it reads any. -/
def pipeCapacity : Nat := 65536

def pathParts (path : String) : List String := (Path.split path.toList).map String.ofList

def node? (m : Machine) (place : List String) : Option Node :=
  if place.isEmpty then some .directory else m.nodes.lookup place

/-- Put a node at a place, whatever was there before. -/
def insert (m : Machine) (place : List String) (node : Node) : Machine :=
  { m with nodes := (place, node) :: m.nodes.filter fun entry => entry.1 ≠ place }

def nameLimit : Nat := 255

def pathLimit : Nat := 4095

/-- Why there is nothing with a name in a directory that could have it. -/
def absence (name : String) : OsError :=
  if nameLimit < name.utf8ByteSize then .nameTooLong else .notFound

/-- Follow the parts of a path from a place. Only a directory can be followed, also by an empty part
or a dot. -/
def walk (m : Machine) : List String → List String → Except OsError (List String)
  | [], place => .ok place
  | part :: rest, place =>
    match m.node? place with
    | none => .error .notFound
    | some .directory =>
      if part = "" ∨ part = "." then m.walk rest place
      else if part = ".." then m.walk rest place.dropLast
      else if (m.node? (place ++ [part])).isNone then .error (absence part)
      else m.walk rest (place ++ [part])
    | some _ => .error .notADirectory

def names (path : String) : List String := (pathParts path).filter (· ≠ "")

def start (m : Machine) (path : String) : List String :=
  if Path.isAbsolute path then [] else names m.workingDirectory

def hasNull (s : String) : Bool := s.toList.contains (Char.ofNat 0)

/-- Why a text cannot be a path. -/
def pathFault? (path : String) : Option OsError :=
  if hasNull path then some .nullInPath
  else if path.isEmpty then some .notFound
  else if pathLimit < path.utf8ByteSize then some .nameTooLong
  else none

/-- The place of a path that leads somewhere. -/
def locate (m : Machine) (path : String) : Except OsError (List String) :=
  match pathFault? path with
  | some e => .error e
  | none => m.walk (pathParts path) (m.start path)

def find (m : Machine) (path : String) : Except OsError Node :=
  match m.locate path with
  | .error e => .error e
  | .ok place =>
    match m.node? place with
    | some node => .ok node
    | none => .error .notFound

/-- Whether a path leads to something that is no directory. -/
def isFile (m : Machine) (path : String) : Bool :=
  match m.find path with
  | .ok .directory => false
  | .ok _ => true
  | .error _ => false

/-- The text of a file. Programs are not text. -/
def read (m : Machine) (path : String) : Except OsError String :=
  match m.find path with
  | .ok (.file text) => .ok text
  | .ok .directory => .error .isADirectory
  | .ok (.program _) => .ok "\x7fELF"
  | .error e => .error e

/-- The program at a path, if it can be started. -/
def startable (m : Machine) (path : String) : Except OsError StubProgram :=
  match m.find path with
  | .ok (.program p) => if p.executable then .ok p else .error .permissionDenied
  | .ok _ => .error .permissionDenied
  | .error e => .error e

/-- Look a program up in directories. -/
def findProgram (m : Machine) (name : String) : Option String :=
  (m.programDirectories.map (Path.join · name)).find? fun path => (m.startable path).isOk

/-- The path of the program that a name or a path stands for. A name that can be started nowhere is
refused if it was found somewhere; otherwise the last directory decides what is wrong. -/
def programPath (m : Machine) (program : String) : Except OsError String :=
  if program.toList.contains '/' then (m.startable program).map fun _ => program
  else if program.isEmpty then .error .notFound
  else
    match m.findProgram program with
    | some path => .ok path
    | none =>
      let faults := m.programDirectories.filterMap fun directory =>
        match m.startable (Path.join directory program) with
        | .error e => some e
        | .ok _ => none
      .error (if faults.contains .permissionDenied then .permissionDenied
        else faults.getLast?.getD .notFound)

/-- Run a program. One that does not read its input breaks the pipe if the input is large. -/
def run (m : Machine) (c : Command) : Except OsError Output :=
  if (c.program :: c.args).any hasNull then .error .nullInCommand
  else
    match (m.programPath c.program).bind m.startable with
    | .error e => .error e
    | .ok p =>
      if !p.readsInput && pipeCapacity < c.input.utf8ByteSize then .error .brokenPipe
      else .ok ⟨p.stdout, p.stderr⟩

/-- Follow parts from a place and make the directories that are missing. Those that were made stay,
also when a later part cannot be followed; so a way back up is taken from a new directory too. -/
def makeWay (m : Machine) : List String → List String → Machine × Except OsError (List String)
  | [], place => (m, .ok place)
  | part :: rest, place =>
    if part = "" ∨ part = "." then m.makeWay rest place
    else if part = ".." then m.makeWay rest place.dropLast
    else
      let next := place ++ [part]
      match m.node? next with
      | some .directory => m.makeWay rest next
      | some _ => (m, .error (if rest.isEmpty then .alreadyExists else .notADirectory))
      | none =>
        if nameLimit < part.utf8ByteSize then (m, .error .nameTooLong)
        else (m.insert next .directory).makeWay rest next

/-- Make the directory at a path and those above it, where they are missing. -/
def makeDirectories (m : Machine) (path : String) : Machine × Except OsError (List String) :=
  match pathFault? path with
  | some e => (m, .error e)
  | none => m.makeWay (pathParts path) (m.start path)

/-- Make the directory in which a path is. A path without parent is in one that exists. -/
def makeParent (m : Machine) (path : String) : Machine × Except OsError (List String) :=
  match Path.parent? path with
  | some parent => if parent.isEmpty then (m, .ok (m.start path)) else m.makeDirectories parent
  | none => (m, .ok (m.start path))

/-- The place of a file that can be written, new or old. Slashes at the end ask for a directory. -/
def writablePlace (m : Machine) (path : String) : Except OsError (List String) :=
  let parts := (pathParts path).reverse
  match pathFault? path, parts.dropWhile (· = "") with
  | some e, _ => .error e
  | none, [] => .error .isADirectory
  | none, name :: before =>
    (m.walk (before.reverse ++ ["."]) (m.start path)).bind fun place =>
      if parts.head? = some "" ∨ name = "." ∨ name = ".." then .error .isADirectory
      else
        match m.node? (place ++ [name]) with
        | some .directory => .error .isADirectory
        | some _ => .ok (place ++ [name])
        | none =>
          if nameLimit < name.utf8ByteSize then .error .nameTooLong else .ok (place ++ [name])

/-- Put a node that is no directory at a path, and make the directories above it. -/
def put (m : Machine) (path : String) (node : Node) : Machine × Except OsError Unit :=
  let (m, made) := m.makeParent path
  match made.bind fun _ => m.writablePlace path with
  | .ok place => (m.insert place node, .ok ())
  | .error e => (m, .error e)

/-- Write a file, and make the directories above it. -/
def write (m : Machine) (path text : String) : Machine × Except OsError Unit :=
  m.put path (.file text)

def host (m : Machine) : Host where
  workingDirectory := m.workingDirectory
  isFile := m.isFile
  exists? path := (m.find path).isOk
  read := m.read
  findProgram := m.findProgram
  run := m.run
  write path := (m.write path "").2

/-- The last of the commands that a program at a path was started with. -/
def lastCommand? (m : Machine) (commands : List Command) (path : String) : Option Command :=
  let started (c : Command) : Bool :=
    match m.run c, (m.programPath c.program).bind m.locate, m.locate path with
    | .ok _, .ok place, .ok other => place = other
    | _, _, _ => false
  commands.reverse.find? started

end Machine

end CoreProver
