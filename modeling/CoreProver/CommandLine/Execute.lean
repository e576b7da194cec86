import CoreProver.CommandLine.Arguments
import CoreProver.Json.Printer
import CoreProver.Lang.Json
import CoreProver.Run.Journal
import CoreProver.Run.Report
import CoreProver.Settings

/-!
# Carrying out a command

Settings are loaded first, then the arguments are looked at more closely, then the program is read.
The first thing that goes wrong ends the command. A report is written before the counts are printed.
-/

namespace CoreProver.CommandLine

/-- Why a command fails. -/
inductive Failure where
  | settings (e : SettingsError)
  | unreadable (path : String) (why : OsError)
  | malformed (e : ReadError)
  | unwritable (why : OsError)
  | aborted (e : RunError)
  /-- Some examinations failed, but none of them aborted the run. -/
  | bindings (failures : Nat)
  | noObligation (binding : String)
  | crashed (c : Crash)

namespace Failure

def message : Failure → String
  | settings e => e.message
  | unreadable path why => "failed to read " ++ path ++ ": " ++ why.text
  | malformed e => e.message
  | unwritable why => why.text
  | aborted e => e.message
  | bindings failures => Nat.repr failures ++ " binding(s) failed"
  | noObligation binding => "no theorem or safety annotation on `" ++ binding ++ "`"
  | crashed c => c.text

end Failure

/-- What a command leaves behind. -/
structure Result where
  stdout : String
  /-- The report, if one was to be written: its file and its text. -/
  report : Option (String × String)
  /-- The commands that were given to engines, in order. -/
  commands : List Command
  journal : List Entry
  failure : Option Failure

namespace Result

/-- A command that fails before it does anything. -/
def failed (f : Failure) : Result := ⟨"", none, [], [], some f⟩

/-- A command that only prints. -/
def printed (text : String) : Result := ⟨text, none, [], [], none⟩

def exitCode (r : Result) : Nat := if r.failure.isSome then 1 else 0

end Result

def readProgram (host : Host) (path : String) : Except Failure Program :=
  match host.read path with
  | .error why => .error (.unreadable path why)
  | .ok text =>
    match Program.read text with
    | .ok program => .ok program
    | .error e => .error (.malformed e)

/-- The solvers that are asked unless a request names its own: those of the flags, else those of the
settings, else one engine. -/
def defaultSolvers (flags : List String) (settings : Settings) :
    Except Failure (List Selector) :=
  match flags.mapM Selector.parse with
  | .error e => .error (.settings (.unknownSelector e))
  | .ok [] =>
    .ok (if settings.defaultSolvers.isEmpty then [.engine .z3] else settings.defaultSolvers)
  | .ok selectors => .ok (distinct selectors)

/-- The session of a `check`. All backends of a request are started, and the order in which they
finish is open; here the one that was selected last finishes first. -/
def checkSession (host : Host) (settings : Settings) (options : CheckOptions)
    (solvers : List Selector) : Session Empty where
  prelude := .standard
  pool selectors verbose := (settings.registry.backendsFor host selectors verbose).map List.reverse
  provable _ := true
  settings := ⟨solvers, options.warnIfFails || settings.warnIfFails, options.verbose⟩

/-- The commands that an examination gave to engines. -/
def examinationCommands (host : Host) (registry : Registry) (x : Examination) : List Command :=
  match x.ending with
  | .judged o _ verdict => verdict.attempts.filterMap fun a =>
      (Engine.named? a.backend).bind fun e => registry.command? host e o
  | _ => []

/-- Why a check fails after its run. -/
def runFailure? (run : Run) : Option Failure :=
  match run.aborted? with
  | some e => some (.aborted e)
  | none => if run.isOk then none else some (.bindings run.failures)

/-- What a check leaves behind after its run. -/
def checkResult (host : Host) (settings : Settings) (options : CheckOptions) (program : Program)
    (run : Run) : Result :=
  let commands := run.flatMap (examinationCommands host settings.registry)
  let journal := run.flatMap Examination.journal
  let report := (Run.report options.path program.moduleName run).pretty
  let finished (report : Option (String × String)) : Result :=
    ⟨Run.tally run ++ "\n", report, commands, journal, runFailure? run⟩
  match options.report with
  | none => finished none
  | some path =>
    match host.write path with
    | .error why => ⟨"", some (path, report), commands, journal, some (.unwritable why)⟩
    | .ok () => finished (some (path, report))

/-- Check a program: flags first, then the program file, then the run. -/
def check (host : Host) (settings : Settings) (options : CheckOptions) : Result :=
  match defaultSolvers options.solvers settings with
  | .error f => .failed f
  | .ok solvers =>
    match readProgram host options.path with
    | .error f => .failed f
    | .ok program =>
      checkResult host settings options program
        ((checkSession host settings options solvers).run program)

/-- A name with blanks behind it, as wide as a column of the list of engines. -/
def column (name : String) : String := name.pushn ' ' (10 - name.length)

def listSolvers (host : Host) (settings : Settings) : Result :=
  let line (e : Engine) : String :=
    let status := if settings.registry.isInstalled host e then "installed" else "not found"
    column e.name ++ " " ++ status ++ "\n"
  .printed (String.join (Engine.all.map line))

/-- Print the script of a binding. -/
def printScript (host : Host) (path binding : String) : Result :=
  match readProgram host path with
  | .error f => .failed f
  | .ok program =>
    match (Prelude.standard : Prelude Empty).obligationOf program binding with
    | .error (.failed e) => .failed (.aborted e)
    | .error (.crashed c) => .failed (.crashed c)
    | .ok none => .failed (.noObligation binding)
    | .ok (some o) => .printed (o.script true)

def perform (host : Host) (options : GlobalOptions) (task : Task) : Result :=
  match Settings.load host options.config host.workingDirectory with
  | .error e => .failed (.settings e)
  | .ok settings =>
    match task with
    | .check options => check host settings options
    | .solvers => listSolvers host settings
    | .script path binding => printScript host path binding

def version : String := "sprove 0.1.0\n"

def usage : String :=
  "Prove annotated bindings of a typed functional IR with SMT solvers\n\n" ++
    "Usage: sprove [OPTIONS] <COMMAND>\n\n" ++
    "Commands:\n" ++
    "  check    Analyse every annotated binding of a program\n" ++
    "  solvers  List supported solvers and whether they are installed\n" ++
    "  smtlib   Print the SMT-LIB script for one binding\n"

/-- Carry out a command line: the exit code and what it leaves behind. -/
def execute (host : Host) (args : List String) : Nat × Result :=
  match read args with
  | .version => (0, .printed version)
  | .help => (0, .printed usage)
  | .misuse => (2, .printed "")
  | .task options task =>
    let result := perform host options task
    (result.exitCode, result)

end CoreProver.CommandLine
