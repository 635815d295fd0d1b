import CommandGrammar.Settings.LogFilter
import CommandGrammar.Settings.Section
import CommandGrammar.Toml.Document

/-!
# Settings

What can be set in a settings file: a TOML document with three sections, each of which may be left
out. A file that is missing leaves all settings at their defaults. Of what is wrong with a file only
the first problem is reported: it cannot be read, it is no document of this form, or a setting has a
value of no use.
-/

set_option autoImplicit false

namespace CommandGrammar

/-- The threads of work in the background. -/
structure SchedulerSettings where
  workerThreads : Nat := 2
  threadName : String := "kommand-worker"
  deriving DecidableEq

/-- What is logged, and where to. -/
structure LoggingSettings where
  filter : String := "warn"
  file : Option String := none
  deriving DecidableEq

/-- The prompt of the shell, and the participants it knows. -/
structure ShellSettings where
  prompt : String := "> "
  participants : List String := ["alice", "bob"]
  deriving DecidableEq

/-- All settings. -/
structure Settings where
  scheduler : SchedulerSettings := {}
  logging : LoggingSettings := {}
  shell : ShellSettings := {}
  deriving DecidableEq

/-- What can be wrong with the value of a setting. -/
inductive SettingProblem where
  | noWorkerThread
  | emptyThreadName
  | unusableFilter (filter : String) (fault : LogFilter.Fault)

/-- What is said about a problem. -/
def SettingProblem.message : SettingProblem → String
  | .noWorkerThread => "scheduler.worker_threads must be at least 1"
  | .emptyThreadName => "scheduler.thread_name must not be empty"
  | .unusableFilter filter fault => "Invalid logging.filter '" ++ filter ++ "': " ++ fault.message

/-- What can be wrong with a settings file. -/
inductive SettingsError where
  /-- It is there, but cannot be read as a text. -/
  | unreadable
  /-- It is no TOML document, or a setting has a value of another kind than its own. -/
  | malformed
  /-- A setting has a value of no use. -/
  | invalid (problem : SettingProblem)

/-- What is said about an error in the file at a path. -/
def SettingsError.message (path : String) : SettingsError → String
  | .unreadable => "Failed to read config file '" ++ path ++ "'"
  | .malformed => "Failed to parse config file '" ++ path ++ "'"
  | .invalid problem => "Config validation failed: " ++ problem.message

/-- What is found in the place of a settings file. -/
inductive SettingsFile where
  | absent
  | unreadable
  | text (content : String)

/-- The file of some bytes, which have to be the UTF-8 encoding of a text. -/
def SettingsFile.ofBytes (bytes : ByteArray) : SettingsFile :=
  match String.fromUTF8? bytes with
  | some content => .text content
  | none => .unreadable

/-- The scheduler of a section. -/
def SchedulerSettings.ofSection? (written : Option Toml.Value) : Option SchedulerSettings := do
  let standard : SchedulerSettings := {}
  let (workerThreads, threadName) ← Section.settings? "worker_threads" "thread_name" written
  return {
    workerThreads := ← Section.valueOr Section.number? standard.workerThreads workerThreads
    threadName := ← Section.valueOr Section.text? standard.threadName threadName }

/-- The logging of a section. -/
def LoggingSettings.ofSection? (written : Option Toml.Value) : Option LoggingSettings := do
  let standard : LoggingSettings := {}
  let (filter, file) ← Section.settings? "filter" "file" written
  return {
    filter := ← Section.valueOr Section.text? standard.filter filter
    file := ← file.mapM Section.text? }

/-- The shell of a section. -/
def ShellSettings.ofSection? (written : Option Toml.Value) : Option ShellSettings := do
  let standard : ShellSettings := {}
  let (prompt, participants) ← Section.settings? "prompt" "participants" written
  return {
    prompt := ← Section.valueOr Section.text? standard.prompt prompt
    participants := ← Section.valueOr Section.texts? standard.participants participants }

namespace Settings

/-- The names of the sections. -/
def sectionNames : List String :=
  ["scheduler", "logging", "shell"]

/-- The settings of the entries of a document. What is no section is only read to its end. -/
def ofEntries? (entries : List (String × Toml.Value)) : Option Settings := do
  let others := entries.filter fun entry => !sectionNames.contains entry.1
  if Toml.areEntriesReadable others then
    return {
      scheduler := ← SchedulerSettings.ofSection? (entries.lookup "scheduler")
      logging := ← LoggingSettings.ofSection? (entries.lookup "logging")
      shell := ← ShellSettings.ofSection? (entries.lookup "shell") }
  else none

/-- The first problem of the settings, if they have one. -/
def check (settings : Settings) : Except SettingProblem Unit :=
  if settings.scheduler.workerThreads = 0 then .error .noWorkerThread
  else if (Text.trim settings.scheduler.threadName.toList).isEmpty then .error .emptyThreadName
  else
    (LogFilter.check settings.logging.filter.toList).mapError
      (.unusableFilter settings.logging.filter)

/-- The settings of a file. -/
def load : SettingsFile → Except SettingsError Settings
  | .absent => .ok {}
  | .unreadable => .error .unreadable
  | .text content =>
    match (Toml.parse? content.toList).bind ofEntries? with
    | none => .error .malformed
    | some settings => (settings.check.mapError .invalid).map fun _ => settings

end Settings

end CommandGrammar
