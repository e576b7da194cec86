/-!
# Arguments of the command line

Arguments are read from left to right, and the first one that is wrong, or that asks for the version
or for help, decides. Options with a value take it after an equals sign or as the next argument;
after two dashes everything is a plain argument. An argument of only a dash is plain too.
-/

namespace CoreProver.CommandLine

/-- Options of every command. -/
structure GlobalOptions where
  config : Option String
  debug : Bool
  deriving Repr, DecidableEq

/-- What the arguments of a `check` say. -/
structure CheckOptions where
  path : String
  solvers : List String
  warnIfFails : Bool
  verbose : Bool
  report : Option String
  deriving Repr, DecidableEq

/-- What the user wants to be done. -/
inductive Task where
  | check (options : CheckOptions)
  | solvers
  | script (path binding : String)
  deriving Repr, DecidableEq

/-- What arguments ask for. -/
inductive Wish where
  | version
  | help
  | task (options : GlobalOptions) (task : Task)
  /-- The arguments are not understood. -/
  | misuse
  deriving Repr, DecidableEq

/-- An option that an argument can name. -/
structure OptionForm where
  name : String
  takesValue : Bool
  repeatable : Bool
  /-- Whether the value may be empty. -/
  emptyValue : Bool
  deriving Repr, DecidableEq

/-- An argument that was understood. -/
inductive Item where
  | plain (text : String)
  | option (name value : String)
  deriving Repr, DecidableEq

/-- The form of one command's arguments. -/
structure CommandForm where
  options : List OptionForm
  /-- For each plain argument, whether it may be empty. -/
  plain : List Bool
  deriving Repr

def globalForms : List OptionForm :=
  [⟨"config", true, false, false⟩, ⟨"debug", false, false, false⟩]

def checkForm : CommandForm where
  options := globalForms ++
    [⟨"solver", true, true, true⟩, ⟨"warn-if-fails", false, false, false⟩,
      ⟨"verbose", false, false, false⟩, ⟨"report", true, false, false⟩]
  plain := [false]

def solversForm : CommandForm := ⟨globalForms, []⟩

def scriptForm : CommandForm := ⟨globalForms, [false, true]⟩

/-- Split the name of an option from its value. -/
def splitValue (s : List Char) : List Char × Option (List Char) :=
  match s.dropWhile (· ≠ '=') with
  | [] => (s, none)
  | _ :: value => (s.takeWhile (· ≠ '='), some value)

/-- How an argument looks. -/
inductive Shape where
  | separator
  | long (name : String) (value : Option String)
  /-- Letters behind a single dash. -/
  | short (letters : List Char)
  | plain (text : String)
  deriving Repr, DecidableEq

def Shape.of (arg : String) : Shape :=
  match arg.toList with
  | ['-', '-'] => .separator
  | '-' :: '-' :: s =>
    let (name, value) := splitValue s
    .long (String.ofList name) (value.map String.ofList)
  | '-' :: c :: s => .short (c :: s)
  | _ => .plain arg

/-- Whether an argument can be the value of the option before it. -/
def isValue (arg : String) : Bool :=
  match Shape.of arg with
  | .plain _ => true
  | _ => false

/-- Whether an option may be given again. -/
def mayAdd (form : OptionForm) (items : List Item) : Bool :=
  form.repeatable || items.all fun
    | .option name _ => name ≠ form.name
    | .plain _ => true

/-- Add a plain argument, if one more is allowed and it may be empty when it is. -/
def addPlain? (form : CommandForm) (items : List Item) (text : String) : Option (List Item) :=
  let count := items.countP fun
    | .plain _ => true
    | .option .. => false
  match form.plain[count]? with
  | some mayBeEmpty => if text.isEmpty && !mayBeEmpty then none else some (items ++ [.plain text])
  | none => none

/-- Add an option with its value, if it may be given. -/
def addOption? (form : OptionForm) (items : List Item) (value : String) : Option (List Item) :=
  if mayAdd form items && !(form.takesValue && value.isEmpty && !form.emptyValue) then
    some (items ++ [.option form.name value])
  else none

/-- Take a long option, with `next` as its value if it needs one and has none of its own. The result
also says whether `next` was taken. -/
def takeOption (forms : List OptionForm) (items : List Item) (name : String)
    (value next : Option String) : Except Wish (List Item × Bool) :=
  let added (items : Option (List Item)) (taken : Bool) : Except Wish (List Item × Bool) :=
    match items with
    | some items => .ok (items, taken)
    | none => .error .misuse
  match forms.find? (fun form => form.name = name) with
  | none => .error (if name = "help" ∧ value = none then .help else .misuse)
  | some form =>
    match form.takesValue, value with
    | true, some value => added (addOption? form items value) false
    | true, none =>
      match next.filter isValue with
      | some value => added (addOption? form items value) true
      | none => .error .misuse
    | false, some _ => .error .misuse
    | false, none => added (addOption? form items "") false

/-- Read the arguments of a command, or find the wish that ends the reading. -/
def scan (form : CommandForm) : List String → List Item → Except Wish (List Item)
  | [], items => .ok items
  | arg :: rest, items =>
    match Shape.of arg with
    | .plain text =>
      match addPlain? form items text with
      | some items => scan form rest items
      | none => .error .misuse
    | .separator =>
      match rest.foldlM (addPlain? form) items with
      | some items => .ok items
      | none => .error .misuse
    | .short letters => .error (if letters.head? = some 'h' then .help else .misuse)
    | .long name value =>
      match takeOption form.options items name value rest.head?, rest with
      | .error wish, _ => .error wish
      | .ok (items, true), _ :: rest => scan form rest items
      | .ok (items, _), rest => scan form rest items

def values (items : List Item) (name : String) : List String :=
  items.filterMap fun
    | .option n value => if n = name then some value else none
    | .plain _ => none

/-- The plain arguments, in order. -/
def plains (items : List Item) : List String :=
  items.filterMap fun
    | .plain text => some text
    | .option .. => none

def given (items : List Item) (name : String) : Bool := !(values items name).isEmpty

/-- Options of every command; what stands behind the command wins. -/
def globalOptions (before behind : List Item) : GlobalOptions where
  config := (values behind "config").head?.or (values before "config").head?
  debug := given before "debug" || given behind "debug"

def defaultProgram : String := "program.json"

/-- The commands, with the one that explains them. -/
def commandNames : List String := ["check", "solvers", "smtlib", "help"]

/-- What the arguments behind `help` ask for: they may name one command, and nothing else. -/
def readHelp : List String → Wish
  | [] => .help
  | [name] => if commandNames.contains name then .help else .misuse
  | _ => .misuse

def readCommand (command : String) (args : List String) (before : List Item) : Wish :=
  match command with
  | "check" =>
    match scan checkForm args [] with
    | .error wish => wish
    | .ok items => .task (globalOptions before items) (.check
        { path := (plains items).head?.getD defaultProgram
          solvers := values items "solver"
          warnIfFails := given items "warn-if-fails"
          verbose := given items "verbose"
          report := (values items "report").head? })
  | "solvers" =>
    match scan solversForm args [] with
    | .error wish => wish
    | .ok items => .task (globalOptions before items) .solvers
  | "smtlib" =>
    match scan scriptForm args [] with
    | .error wish => wish
    | .ok items =>
      match plains items with
      | [path, binding] => .task (globalOptions before items) (.script path binding)
      | _ => .misuse
  | "help" => readHelp args
  | _ => .misuse

/-- What arguments ask for, after some options of every command. -/
def readFrom : List String → List Item → Wish
  | [], _ => .misuse
  | arg :: rest, before =>
    match Shape.of arg with
    | .plain command => readCommand command rest before
    | .separator => .misuse
    | .short letters =>
      match letters.head? with
      | some 'V' => .version
      | some 'h' => .help
      | _ => .misuse
    | .long "version" none => .version
    | .long name value =>
      match takeOption globalForms before name value rest.head?, rest with
      | .error wish, _ => wish
      | .ok (before, true), _ :: rest => readFrom rest before
      | .ok (before, _), rest => readFrom rest before

/-- What the user asks for with these arguments. -/
def read (args : List String) : Wish := readFrom args []

end CoreProver.CommandLine
