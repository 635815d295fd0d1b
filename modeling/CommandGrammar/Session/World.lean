import CommandGrammar.Builder.Composite

/-!
# The world of a session

A session drives grammars whose callbacks keep a journal: every callback notes that it was asked, so
the journal tells which callbacks ran and in which order. The world is the journal together with the
named lists of candidates, which may change while the session goes on.
-/

set_option autoImplicit false

namespace CommandGrammar.Session

/-- The kinds of senders in a session. -/
inductive Kind where
  | player
  | console
  | guest
  deriving DecidableEq

/-- The name of a kind. -/
def Kind.name : Kind → String
  | .player => "player"
  | .console => "console"
  | .guest => "guest"

/-- The name of a kind where the structure of a node is shown. -/
def Kind.typeName : Kind → String
  | .player => "driver::session::Player"
  | .console => "driver::session::Console"
  | .guest => "driver::session::Guest"

/-- A candidate of a list argument. -/
structure Candidate where
  id : String
  label : String

/-- A member of a group. -/
structure Member where
  name : String
  identity : Option Nat

/-- The values that only a session knows. -/
inductive Extra where
  | candidate (candidate : Candidate)
  | entity (member : Member)

/-- What a question about an invocation was answered with. -/
inductive Answer where
  | value (value : Option (Value Extra))
  | texts (texts : List String)
  | text (text : Option String)
  | flag (flag : Bool)
  | range (range : Option (Nat × Nat))
  | failed (error : CommandError)
  | nothing

/-- The audiences of the handlers of a chain, and the names of its mapped arguments. -/
structure ChainSummary where
  audiences : List (Audience Kind)
  mapperIds : List String

/-- What a callback notes in the journal. -/
inductive Entry where
  | check (label : String) (passed : Bool)
  | resolve (group token : String)
  | candidates (source : Option String)
  | mapper (id : String)
  | handler (label : String) (results : List Answer)
  | background (contextSender invocationSender input : String)
  | say (sender text : String)
  | builder (name : String) (chain : Option ChainSummary) (mapperIds : List String)

/-- The journal, and the named lists of candidates. -/
structure World where
  journal : List Entry
  sources : List (String × List Candidate)

/-- What a callback does in a session. -/
abbrev Effect : Type → Type :=
  StateM World

/-- Writes an entry into the journal. -/
def note (entry : Entry) : Effect Unit :=
  modify fun world => { world with journal := world.journal ++ [entry] }

/-- The candidates of a named list; an unknown list is empty. -/
def candidatesOf (source : String) : Effect (List Candidate) := do
  return ((← get).sources.lookup source).getD []

/-- A sender with a list of permissions, that may have an identity. -/
def player (name : String) (identity : Option Nat) (permissions : List String) :
    Sender Effect Kind where
  kind := .player
  name := name
  permits permission := permissions.contains permission
  identity := identity
  tell text := note (.say name text)

/-- A sender with every permission. -/
def console : Sender Effect Kind where
  kind := .console
  name := "console"
  permits _ := true
  identity := none
  tell text := note (.say "console" text)

/-- A sender without permissions that nothing can be told. -/
def guest (name : String) : Sender Effect Kind where
  kind := .guest
  name := name
  permits _ := false
  identity := none
  tell _ := pure ()

/-- The summary of a chain. -/
def ChainSummary.of (chain : Chain Effect Kind Extra) : ChainSummary where
  audiences := chain.handlers.map Handler.audience
  mapperIds := Ascending.ofList (Assoc.names chain.mappers)

end CommandGrammar.Session
