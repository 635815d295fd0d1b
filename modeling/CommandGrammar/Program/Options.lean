import CommandGrammar.Text.Pieces

/-!
# Options of the program

How the arguments of the program are read. The arguments are first taken apart into what occurs in
them, one after the other, and then the occurrences are collected from the left: the first of them
that asks for help, asks for the version, or is an error decides, whatever follows.
-/

set_option autoImplicit false

namespace CommandGrammar.Program

/-- What the arguments ask for. The settings are those at the usual place where no path is given. -/
structure Options where
  settingsPath : Option String := none
  sender : String := "console"
  operator : Bool := false
  lines : List String := []
  deriving DecidableEq

/-- The options that have a value. -/
inductive ValueOption where
  | settings
  | sender
  | line
  deriving DecidableEq

/-- How an option with a value is written. -/
def ValueOption.name : ValueOption → String
  | .settings => "--config"
  | .sender => "--sender"
  | .line => "--command"

/-- The options that have no value. -/
inductive Flag where
  | operator
  | help
  | version
  deriving DecidableEq

/-- What can be wrong with the arguments. -/
inductive OptionsError where
  | unknown (argument : String)
  | missingValue (option : ValueOption)
  | unexpectedValue (argument : String)
  | emptyPath
  | repeated (option : String)

/-- What is said about an error. -/
def OptionsError.message : OptionsError → String
  | .unknown argument => "unexpected argument '" ++ argument ++ "'"
  | .missingValue option => "a value is required for '" ++ option.name ++ "'"
  | .unexpectedValue argument => "unexpected value in '" ++ argument ++ "'"
  | .emptyPath => "a path is required for '" ++ ValueOption.settings.name ++ "'"
  | .repeated option => "'" ++ option ++ "' cannot be used multiple times"

/-- What occurs in the arguments. -/
inductive Occurrence where
  | given (option : ValueOption) (value : String)
  | flag (flag : Flag)
  | error (error : OptionsError)

/-- An argument taken apart: what occurs in it, and the option at its end that awaits its value. -/
structure Reading where
  found : List Occurrence
  awaiting : Option ValueOption := none

/-- The option with a value of a long name. -/
def longOption? (name : List Char) : Option ValueOption :=
  [ValueOption.settings, .sender, .line].find? fun option => option.name.toList.drop 2 = name

/-- The option without a value of a long name. -/
def longFlag? (name : List Char) : Option Flag :=
  if name = "op".toList then some .operator
  else if name = "help".toList then some .help
  else if name = "version".toList then some .version
  else none

/-- Takes a long option apart, given what follows its dashes. The value may stand behind an equals
sign. -/
def readLong (body : List Char) : Reading :=
  let argument := String.ofList ('-' :: '-' :: body)
  match Text.cutAt? '=' body with
  | some (name, value) =>
    match longOption? name, longFlag? name with
    | some option, _ => ⟨[.given option (String.ofList value)], none⟩
    | none, some _ => ⟨[.error (.unexpectedValue argument)], none⟩
    | none, none => ⟨[.error (.unknown argument)], none⟩
  | none =>
    match longOption? body, longFlag? body with
    | some option, _ => ⟨[], some option⟩
    | none, some flag => ⟨[.flag flag], none⟩
    | none, none => ⟨[.error (.unknown argument)], none⟩

/-- Takes the letters behind one dash apart. What follows the letter of an option with a value is
its value, less an equals sign in front. -/
def readShort : List Char → Reading
  | [] => ⟨[], none⟩
  | 'c' :: [] => ⟨[], some .line⟩
  | 'c' :: '=' :: value => ⟨[.given .line (String.ofList value)], none⟩
  | 'c' :: value => ⟨[.given .line (String.ofList value)], none⟩
  | 'h' :: rest =>
    let reading := readShort rest
    { reading with found := .flag .help :: reading.found }
  | 'V' :: rest =>
    let reading := readShort rest
    { reading with found := .flag .version :: reading.found }
  | c :: _ => ⟨[.error (.unknown (String.ofList ['-', c]))], none⟩

/-- Takes an argument apart. -/
def readArgument (argument : String) : Reading :=
  match argument.toList with
  | '-' :: '-' :: body => readLong body
  | '-' :: c :: cluster => readShort (c :: cluster)
  | _ => ⟨[.error (.unknown argument)], none⟩

/-- Whether an argument can be the value of the option before it: it does not look like an option.
-/
def isValue (argument : String) : Bool :=
  match argument.toList with
  | '-' :: _ :: _ => false
  | _ => true

/-- What occurs in the arguments, in order. Behind two dashes alone no argument is allowed. -/
def occurrences : List String → List Occurrence
  | [] => []
  | argument :: rest =>
    if argument = "--" then rest.map fun extra => .error (.unknown extra)
    else
      let reading := readArgument argument
      match reading.awaiting, rest with
      | none, rest => reading.found ++ occurrences rest
      | some option, [] => reading.found ++ [.error (.missingValue option)]
      | some option, value :: rest =>
        if isValue value then reading.found ++ .given option value :: occurrences rest
        else reading.found ++ [.error (.missingValue option)]

/-- What the program is to do. -/
inductive Order where
  | run (options : Options)
  | help
  | version
  | refuse (error : OptionsError)

/-- The options as they are collected. -/
structure Collected where
  settingsPath : Option String := none
  sender : Option String := none
  operator : Bool := false
  linesReversed : List String := []

/-- The options once all is collected. -/
def Collected.options (collected : Collected) : Options where
  settingsPath := collected.settingsPath
  sender := collected.sender.getD "console"
  operator := collected.operator
  lines := collected.linesReversed.reverse

/-- Collects what occurs. Only lines may be given more than once. -/
def collect (collected : Collected) : List Occurrence → Order
  | [] => .run collected.options
  | .error error :: _ => .refuse error
  | .flag .help :: _ => .help
  | .flag .version :: _ => .version
  | .flag .operator :: rest =>
    if collected.operator then .refuse (.repeated "--op")
    else collect { collected with operator := true } rest
  | .given .settings path :: rest =>
    if path.isEmpty then .refuse .emptyPath
    else if collected.settingsPath.isSome then .refuse (.repeated ValueOption.settings.name)
    else collect { collected with settingsPath := some path } rest
  | .given .sender name :: rest =>
    if collected.sender.isSome then .refuse (.repeated ValueOption.sender.name)
    else collect { collected with sender := some name } rest
  | .given .line line :: rest =>
    collect { collected with linesReversed := line :: collected.linesReversed } rest

/-- What the arguments order. -/
def Order.ofArguments (arguments : List String) : Order :=
  collect {} (occurrences arguments)

/-- The text that help prints. -/
def helpText : String :=
  String.join ([
    "Declarative builder for hierarchical command grammars",
    "",
    "Usage: kommand [OPTIONS]",
    "",
    "Options:",
    "      --config <CONFIG>     Config file (defaults to <config_dir>/kommand/config.toml)",
    "      --sender <SENDER>     Issue commands as this participant; \"console\" for the console"
      ++ " [default: console]",
    "      --op                  Grant the participant every permission",
    "  -c, --command <COMMANDS>  Run these lines and exit instead of reading stdin",
    "  -h, --help                Print help",
    "  -V, --version             Print version"].map (· ++ "\n"))

/-- The text that the version prints. -/
def versionText : String :=
  "kommand 0.1.0\n"

end CommandGrammar.Program
