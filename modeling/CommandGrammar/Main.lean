import CommandGrammar.Program
import CommandGrammar.Program.Identity

/-!
# The command line

The outer layer of the program: it finds the settings file, reads the input line by line, and
prints. What is printed, and when the program ends, is decided by the library.
-/

set_option autoImplicit false

namespace CommandGrammar.Main

open Program

/-- What stands at a path. -/
def readFile (path : String) : IO SettingsFile := do
  try
    return .ofBytes (← IO.FS.readBinFile path)
  catch
    | .noFileOrDirectory .. => return .absent
    | _ => return .unreadable

/-- As many random identities as there are participants, and one for a stranger. -/
def identities (settings : Settings) : IO (Array String) := do
  let mut shown := #[]
  for _ in [0:settings.shell.participants.length + 1] do
    shown := shown.push (showUuid (← IO.getRandomBytes 16).toList)
  return shown

/-- Prints a text at once. -/
def say (output : IO.FS.Stream) (text : String) : IO Unit := do
  output.putStr text
  output.flush

/-- The bytes of the next line, empty at the end of the input. -/
partial def nextLine (input : IO.FS.Stream) (line : List UInt8) : IO (List UInt8) := do
  match (← input.read 1).toList with
  | [] => return line.reverse
  | bytes =>
    if bytes.contains lineFeed then return (bytes ++ line).reverse
    else nextLine input (bytes ++ line)

/-- Converses until the end. -/
partial def conversation (input output : IO.FS.Stream) (prompt : String)
    (terminal : Shell.Terminal) (seen : Nat) : IO UInt32 := do
  let line ← nextLine input []
  if line.isEmpty then return 0
  let now ← IO.monoMsNow
  let (woken, terminal) := passTime terminal (now - seen)
  say output woken
  match takeTurn prompt terminal (lineText? line) with
  | .stop result =>
    say output result.printed
    if result.status ≠ success then IO.eprintln "Error: Failed to read stdin"
    return result.status.toUInt32
  | .goOn printed terminal =>
    say output printed
    conversation input output prompt terminal now

/-- Runs with options. -/
def runOptions (options : Options) : IO UInt32 := do
  let output ← IO.getStdout
  let path ← match options.settingsPath with
    | some path => pure path
    | none => pure (usualPath (← IO.getEnv "XDG_CONFIG_HOME") (← IO.getEnv "HOME"))
  match Settings.load (← readFile path) with
  | .error error =>
    IO.eprintln "Error: Failed to load configuration"
    IO.eprintln (error.message path)
    return failure.toUInt32
  | .ok settings =>
    let shown ← identities settings
    let terminal := openTerminal options settings fun identity => shown.getD identity ""
    if options.lines.isEmpty then
      say output settings.shell.prompt
      conversation (← IO.getStdin) output settings.shell.prompt terminal (← IO.monoMsNow)
    else
      say output (runLines terminal options.lines)
      return success.toUInt32

/-- Does what the arguments order. -/
def start (arguments : List String) : IO UInt32 := do
  match Order.ofArguments arguments with
  | .help =>
    say (← IO.getStdout) helpText
    return success.toUInt32
  | .version =>
    say (← IO.getStdout) versionText
    return success.toUInt32
  | .refuse error =>
    IO.eprintln ("error: " ++ error.message)
    return misuse.toUInt32
  | .run options => runOptions options

end CommandGrammar.Main

/-- The program. -/
def main (arguments : List String) : IO UInt32 :=
  CommandGrammar.Main.start arguments
