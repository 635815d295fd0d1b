import CommandGrammar.Program.Input
import CommandGrammar.Program.Options
import CommandGrammar.Settings
import CommandGrammar.Shell

/-!
# The program

The program opens a terminal for the sender that its options name, and gives it either the lines of
its options or those of its input. With the input it converses: it prints the prompt before it reads
the first line, and again after each line that does not leave the shell. A line of the input that is
no text ends the program with an error.

What makes options of the arguments and settings of a file is a parameter of a run (`Program.Readers`).
-/

set_option autoImplicit false

namespace CommandGrammar.Program

open Shell (Roster Terminal)

/-- What is left of a run: the status it ends with, and what it printed. -/
structure Result where
  status : Nat
  printed : String
  deriving DecidableEq

/-- The status of a run that ends as it should. -/
def success : Nat := 0

/-- The status of a run that cannot go on. -/
def failure : Nat := 1

/-- The status of a run whose arguments cannot be used. -/
def misuse : Nat := 2

/-- The result with a text printed before. -/
def Result.after (printed : String) (result : Result) : Result :=
  { result with printed := printed ++ result.printed }

/-- Lines as they are printed. -/
def printedLines (lines : List String) : String :=
  String.join (lines.map (· ++ "\n"))

/-- The usual place of the settings file, given the folder of settings and the home folder. Only an
absolute folder of settings counts, and where both are missing the file is looked for at hand. -/
def usualPath (configFolder home : Option String) : String :=
  let folder := (configFolder.filter (·.startsWith "/")).or
    ((home.filter (!·.isEmpty)).map (· ++ "/.config"))
  folder.getD "." ++ "/kommand/config.toml"

/-- The terminal that the options and the settings ask for. -/
def openTerminal (options : Options) (settings : Settings) (showIdentity : Nat → String) :
    Terminal :=
  let roster := Roster.ofNames settings.shell.participants
  let sender :=
    if options.sender = "console" then Shell.console
    else ((roster.user options.sender).withOperator options.operator).sender
  .start (Shell.grammar roster showIdentity) sender

/-- What a line prints, and the terminal after it, unless the line leaves the shell. -/
def exchange (terminal : Terminal) (line : String) : String × Option Terminal :=
  let ((outcome, terminal), told) := (terminal.enter line).run []
  match outcome with
  | .proceed lines => (printedLines (told ++ lines), some terminal)
  | .leave => (printedLines told, none)

/-- What the passing of time prints, and the terminal after it. -/
def passTime (terminal : Terminal) (milliseconds : Nat) : String × Terminal :=
  let (terminal, told) := (terminal.advance milliseconds).run []
  (printedLines told, terminal)

/-- What lines print, up to one that leaves the shell. -/
def runLines : Terminal → List String → String
  | _, [] => ""
  | terminal, line :: rest =>
    match exchange terminal line with
    | (printed, none) => printed
    | (printed, some terminal) => printed ++ runLines terminal rest

/-- How a conversation goes on after a line of the input. -/
inductive Turn where
  | goOn (printed : String) (terminal : Terminal)
  | stop (result : Result)

/-- Takes a line of the input, which may be no text. -/
def takeTurn (prompt : String) (terminal : Terminal) : Option String → Turn
  | none => .stop ⟨failure, ""⟩
  | some line =>
    match exchange terminal line with
    | (printed, none) => .stop ⟨success, printed⟩
    | (printed, some terminal) => .goOn (printed ++ prompt) terminal

/-- A conversation after its first prompt. -/
def converse (prompt : String) : Terminal → List (Option String) → Result
  | _, [] => ⟨success, ""⟩
  | terminal, line :: rest =>
    match takeTurn prompt terminal line with
    | .stop result => result
    | .goOn printed terminal => (converse prompt terminal rest).after printed

/-- A run with its options and settings. -/
def runWith (options : Options) (settings : Settings) (showIdentity : Nat → String)
    (input : List UInt8) : Result :=
  let terminal := openTerminal options settings showIdentity
  if options.lines.isEmpty then
    (converse settings.shell.prompt terminal (inputLines input)).after settings.shell.prompt
  else ⟨success, runLines terminal options.lines⟩

/-- What reads the arguments of the program, and the settings at the path that its options give. -/
structure Readers where
  order : List String → Order
  settings : Option String → Except SettingsError Settings

/-- The readers of this program, given the file that stands where the settings are looked for. -/
def Readers.standard (fileAt : Option String → SettingsFile) : Readers where
  order := Order.ofArguments
  settings path := Settings.load (fileAt path)

/-- A run of the program, given its readers, its arguments and its input. -/
def run (readers : Readers) (arguments : List String) (showIdentity : Nat → String)
    (input : List UInt8) : Result :=
  match readers.order arguments with
  | .help => ⟨success, helpText⟩
  | .version => ⟨success, versionText⟩
  | .refuse _ => ⟨misuse, ""⟩
  | .run options =>
    match readers.settings options.settingsPath with
    | .error _ => ⟨failure, ""⟩
    | .ok settings => runWith options settings showIdentity input

end CommandGrammar.Program
