import CommandGrammar.Decimal.Places
import CommandGrammar.Grammar
import CommandGrammar.Shell.Roster

/-!
# The commands of the shell

The demonstration grammar: travelling, opening crates, spawning, clearing, messages, sleeping and
administration. Where a command has a handler of its own beside its children, the children are
declared first, so that they do not inherit it.
-/

set_option autoImplicit false

namespace CommandGrammar.Shell

/-- What a callback of the shell does: it prints lines. -/
abbrev Printing : Type → Type :=
  StateM (List String)

/-- The kinds of senders in the shell. -/
inductive Kind where
  | user
  | console
  deriving DecidableEq

/-- The tiers of crates. -/
inductive Tier where
  | common
  | rare
  | legendary
  deriving DecidableEq

/-- All tiers, in the order they are offered. -/
def Tier.all : List Tier :=
  [.common, .rare, .legendary]

/-- The name of a tier. -/
def Tier.label : Tier → String
  | .common => "common"
  | .rare => "rare"
  | .legendary => "legendary"

/-- The values that only the shell knows. -/
inductive Extra where
  | tier (tier : Tier)
  | participant (participant : Participant)

/-- A sender of the shell. -/
abbrev ShellSender : Type :=
  Sender Printing Kind

/-- An invocation in the shell. -/
abbrev Context : Type :=
  Invocation Printing Kind Extra

/-- A step of a declaration in the shell; nothing is ever handed out of one. -/
abbrev Step : Type :=
  Declaration Printing Kind Extra Empty

/-- Prints a line. -/
def printLine (line : String) : Printing Unit :=
  modify fun printed => printed ++ [line]

/-- A user as a sender. -/
def User.sender (user : User) : ShellSender where
  kind := .user
  name := user.name
  permits := user.permits
  identity := some user.identity
  tell := printLine

/-- The console: every permission, no identity. -/
def console : ShellSender where
  kind := .console
  name := "console"
  permits _ := true
  identity := none
  tell text := printLine ("[console] " ++ text)

/-- The participant, if the value is one. -/
def participant? (value : Value Extra) : Option Participant :=
  match value.host? with
  | some (.participant participant) => some participant
  | _ => none

/-- The tier, if the value is one. -/
def tier? (value : Value Extra) : Option Tier :=
  match value.host? with
  | some (.tier tier) => some tier
  | _ => none

/-- The participants of a roster as entities. -/
def Roster.entities (roster : Roster) : Entities Printing Kind Extra where
  resolve token _ := pure ((roster.resolve token).map (·.map .participant))
  candidates _ := pure (roster.participants.map .participant)
  displayName
    | .tier tier => tier.label
    | .participant participant => participant.name
  identity
    | .tier _ => none
    | .participant participant => some participant.identity

/-- Tells the sender something, and claims the invocation. -/
def reply (context : Context) (text : String) : Printing (Except CommandError Bool) := do
  context.sender.tell text
  return .ok true

/-- The permission that administration needs. -/
def adminPermission : String :=
  "kommand.admin"

/-- Opening a crate of a tier. -/
def crateSteps : List Step :=
  Declaration.listArgument "tier" (fun _ => pure Tier.all) Tier.label
      (fun tier => .host (.tier tier))
      [.onExecute .anyone fun context => do
        match ← context.getOptional tier? "tier" with
        | none => reply context "No such crate"
        | some tier =>
          reply context (context.sender.name ++ " opened a " ++ tier.label ++ " crate")]
    ++ [.onExecute .anyone fun context => reply context "Usage: crate <common|rare|legendary>"]

/-- Travelling to another participant, or to the start. -/
def teleportSteps (roster : Roster) : List Step :=
  let travel (before after : String) (context : Context) :
      Printing (Except CommandError Bool) := do
    match ← context.get participant? "target" with
    | .error error => return .error error
    | .ok target => reply context (before ++ target.name ++ after)
  Declaration.selectorArgumentWithSelf "target" roster.entities false
      [.onExecute (.only .user) (travel "Teleported to " ""),
        .onExecute (.only .console) (travel "Consoles cannot travel, but " " is out there")]
    ++ [.onExecute (.only .user) fun context => reply context "Teleported to spawn"]

/-- Spawning a number of things in a radius. -/
def spawnSteps : List Step :=
  Declaration.namedArguments "options"
    [("amount", .integer 1 64), ("radius", .floatFrom (Float.ofBits 0)), ("name", .word)]
    [.onExecute .anyone fun context => do
      let amount ← context.namedOr Raw.int? "options" "amount" 1
      let radius ← context.namedOr Raw.float? "options" "radius" (Float.ofBits 0)
      let name ← context.namedOr Raw.text? "options" "name" "mob"
      reply context ("Spawned " ++ showInt amount ++ " x " ++ name ++ " within "
        ++ Decimal.showPlaces 1 radius ++ " blocks")]

/-- Clearing the inventory, or everything. -/
def clearSteps : List Step :=
  Declaration.flagsArgument "flags" ["-a", "--all", "-s", "--silent"]
      [.onExecute .anyone fun context => do
        let flags ← context.flags "flags"
        let everything := flags.contains "-a" || flags.contains "--all"
        let silent := flags.contains "-s" || flags.contains "--silent"
        if silent then return .ok true
        else reply context ("Cleared " ++ if everything then "everything" else "your inventory")]
    ++ [.onExecute .anyone fun context => reply context "Cleared your inventory"]

/-- A message to a participant. -/
def messageSteps (roster : Roster) : List Step :=
  Declaration.selectorArgument "target" roster.entities .everyone
    [.argument "message" .greedy
      [.onExecute .anyone fun context => do
        match ← context.getOptional participant? "target" with
        | none => reply context "Nobody by that name is here"
        | some target =>
          match context.text "message" with
          | .error error => return .error error
          | .ok text =>
            reply context ("[" ++ context.sender.name ++ " -> " ++ target.name ++ "] " ++ text)]]

/-- What a sleeper does: it wakes after the given number of seconds and says so. -/
def sleepJob (context : Context) : Job Printing Unit :=
  match context.int "seconds" with
  | .error _ => ⟨0, pure ()⟩
  | .ok seconds =>
    ⟨1000 * seconds.toInt.toNat, context.sender.tell
      (context.sender.name ++ " woke up after " ++ showInt seconds ++ "s")⟩

/-- Sleeping for a number of seconds, in the background. -/
def sleepSteps : List Step :=
  [.argument "seconds" (.integer 0 60)
    [.offer (.deferred .running fun _ => ⟨0, pure (some ["1", "5", "10"])⟩),
      .onExecuteLater .user sleepJob]]

/-- Administration, for those who have the permission. -/
def adminSteps (showIdentity : Nat → String) : List Step :=
  [.requirePermission adminPermission,
    .literal "reload"
      [.onExecute .anyone fun context => reply context "Configuration reloaded"],
    .literal "whoami"
      [.onExecute (.only .user) fun context =>
          reply context (context.sender.name ++ " ("
            ++ (context.sender.identity.map showIdentity).getD "" ++ ")"),
        .onExecute .anyone fun context => reply context context.sender.name]]

/-- The grammar of the shell. Identities are shown as the host shows them. -/
def grammar (roster : Roster) (showIdentity : Nat → String) : Grammar Printing Kind Extra :=
  let commands : List (String × List Step) :=
    [("crate", crateSteps), ("spawn", spawnSteps), ("clear", clearSteps),
      ("msg", messageSteps roster), ("sleep", sleepSteps), ("admin", adminSteps showIdentity)]
  commands.foldl (fun grammar command => grammar.declare command.1 command.2)
    (Grammar.empty.command "teleport" ["tp"] (teleportSteps roster))

end CommandGrammar.Shell
