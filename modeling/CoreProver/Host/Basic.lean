/-!
# The host

What the program needs from the machine it runs on: files to read and programs to start. Everything
is a function of one fixed state of the machine.
-/

namespace CoreProver

/-- Why the machine refuses something. -/
inductive OsError where
  | notFound
  | permissionDenied
  | notADirectory
  | isADirectory
  | alreadyExists
  | nameTooLong
  | brokenPipe
  /-- The bytes of a file are no text. -/
  | notText
  /-- A path has a null character. -/
  | nullInPath
  /-- A program or an argument of it has a null character. -/
  | nullInCommand
  deriving Repr, DecidableEq

/-- The words of the operating system. -/
def OsError.text : OsError → String
  | .notFound => "No such file or directory (os error 2)"
  | .permissionDenied => "Permission denied (os error 13)"
  | .notADirectory => "Not a directory (os error 20)"
  | .isADirectory => "Is a directory (os error 21)"
  | .alreadyExists => "File exists (os error 17)"
  | .nameTooLong => "File name too long (os error 36)"
  | .brokenPipe => "Broken pipe (os error 32)"
  | .notText => "stream did not contain valid UTF-8"
  | .nullInPath => "file name contained an unexpected NUL byte"
  | .nullInCommand => "nul byte found in provided data"

/-- A program to start, with its arguments and the text on its standard input. -/
structure Command where
  program : String
  args : List String
  input : String
  deriving Repr, DecidableEq

structure Output where
  stdout : List UInt8
  stderr : List UInt8
  deriving Repr, DecidableEq

/-- The machine that a command runs on, as far as the command can tell. -/
structure Host where
  /-- The working directory. -/
  workingDirectory : String
  isFile : (path : String) → Bool
  exists? : (path : String) → Bool
  read : (path : String) → Except OsError String
  /-- Look a program up in the directories for programs. -/
  findProgram : (name : String) → Option String
  /-- Run a program to its end. -/
  run : Command → Except OsError Output
  /-- Whether a file can be written, with new directories where they are missing. -/
  write : (path : String) → Except OsError Unit

end CoreProver
