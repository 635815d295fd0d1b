import CommandGrammar.Shell.Commands

/-!
# The shell

A line of the shell asks for completions when it starts with a question mark, leaves the shell when
it is `exit` or `quit`, and is a command line otherwise. Blanks in front of a line never count;
blanks behind it count only where completions are asked for.

Work that a command leaves for later is the business of a runtime. A terminal is a shell with the simplest
runtime there is, which does one thing at a time: work sleeps in a queue until the clock reaches its time,
and is done in the order of these times; work that is due at once is done before the next line. What other
runtimes may do is said in `CommandGrammar.Shell.Schedule`.
-/

set_option autoImplicit false

namespace CommandGrammar.Shell

open Text

/-- What a line asks for. -/
inductive Request where
  | complete (start : String)
  | nothing
  | leave
  | run (line : String)

/-- Whether a character ends a line. -/
def isLineEnd (c : Char) : Bool :=
  c = '\r' || c = '\n'

/-- What a line asks for. -/
def Request.ofLine (line : String) : Request :=
  let entered := dropEndWhile isLineEnd (trimStart line.toList)
  match entered with
  | '?' :: start => .complete (String.ofList start)
  | _ =>
    let command := String.ofList (trimEnd entered)
    if command = "" then .nothing
    else if command = "exit" || command = "quit" then .leave
    else .run command

/-- What the shell should do after a line. -/
inductive LineOutcome where
  /-- Show these lines and go on. -/
  | proceed (lines : List String)
  | leave

/-- What a line tells its sender once it was run, and the work it leaves. -/
def outcomeOfRun (sender : ShellSender) (line : String) :
    Except DispatchError (Outcome Printing) → LineOutcome × Option (Job Printing Unit)
  | .ok (.handled work) => (.proceed [], work)
  | .ok .exhausted => (.proceed ["'" ++ line ++ "' cannot be run by " ++ sender.name], none)
  | .error error => (.proceed [error.message], none)

/-- Handles one line. -/
def processLine (grammar : Grammar Printing Kind Extra) (sender : ShellSender) (line : String) :
    Printing (LineOutcome × Option (Job Printing Unit)) :=
  match Request.ofLine line with
  | .complete start => do
    let answers ← grammar.complete start sender
    return (.proceed (← Completion.collect answers), none)
  | .nothing => pure (.proceed [], none)
  | .leave => pure (.leave, none)
  | .run command => do
    return outcomeOfRun sender command (← grammar.execute command sender)

/-- Work that sleeps until its time. -/
structure Sleeper where
  wakes : Nat
  work : Printing Unit

/-- Puts a sleeper behind those that wake no later. -/
def addSleeper (sleeper : Sleeper) : List Sleeper → List Sleeper
  | [] => [sleeper]
  | first :: rest =>
    if first.wakes ≤ sleeper.wakes then first :: addSleeper sleeper rest
    else sleeper :: first :: rest

/-- A terminal at work: who issues the lines, what the clock says in milliseconds, and who sleeps,
in the order of waking. -/
structure Terminal where
  grammar : Grammar Printing Kind Extra
  sender : ShellSender
  now : Nat
  sleepers : List Sleeper

namespace Terminal

/-- A terminal at the start of the clock. -/
def start (grammar : Grammar Printing Kind Extra) (sender : ShellSender) : Terminal :=
  ⟨grammar, sender, 0, []⟩

/-- Does the work that is due. -/
def wake (terminal : Terminal) : Printing Terminal := do
  (terminal.sleepers.takeWhile (·.wakes ≤ terminal.now)).forM Sleeper.work
  return { terminal with sleepers := terminal.sleepers.dropWhile (·.wakes ≤ terminal.now) }

/-- Sends work to sleep for as long as it waits. -/
def sleep (terminal : Terminal) (work : Option (Job Printing Unit)) : Terminal :=
  match work with
  | none => terminal
  | some job =>
    { terminal with sleepers := addSleeper ⟨terminal.now + job.delay, job.run⟩ terminal.sleepers }

/-- Handles one line and the work that is due after it. -/
def enter (terminal : Terminal) (line : String) : Printing (LineOutcome × Terminal) := do
  let (outcome, work) ← processLine terminal.grammar terminal.sender line
  return (outcome, ← (terminal.sleep work).wake)

/-- Moves the clock and does the work that has become due. -/
def advance (terminal : Terminal) (milliseconds : Nat) : Printing Terminal :=
  { terminal with now := terminal.now + milliseconds }.wake

end Terminal

end CommandGrammar.Shell
