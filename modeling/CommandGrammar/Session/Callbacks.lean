import CommandGrammar.Session.ValueText

/-!
# Callbacks of a session

The requirements, mappers, groups, filters, candidate lists and completion contents that a session
can declare. Each of them that the journal knows notes itself before it does anything else, a
requirement after it has decided.
-/

set_option autoImplicit false

namespace CommandGrammar.Session

/-- An invocation in a session. -/
abbrev Context : Type :=
  Invocation Effect Kind Extra

/-- A completion query in a session. -/
abbrev Query : Type :=
  Completion.Query Effect Kind Extra

/-! ## Forms -/

/-- A form that takes no text and gives the empty one. -/
def nothingForm : Form :=
  .foreign "nothing" fun reader => (.ok (.text ""), reader)

/-- A form of two words with blanks between them, joined by a plus sign. -/
def pairForm : Form :=
  .foreign "pair" fun reader =>
    let (first, reader) := reader.takeWord
    let (second, reader) := reader.skipBlanks.takeWord
    (.ok (.text (String.ofList (first ++ '+' :: second))), reader)

/-! ## Requirements -/

/-- A condition on a sender. -/
inductive Condition where
  | nameIs (name : String)
  | nameIsNot (name : String)
  | kindIs (kind : Kind)
  | constant (holds : Bool)

/-- Whether a condition holds of a sender. -/
def Condition.holds (condition : Condition) (sender : Sender Effect Kind) : Bool :=
  match condition with
  | .nameIs name => sender.name == name
  | .nameIsNot name => sender.name != name
  | .kindIs kind => sender.kind = kind
  | .constant holds => holds

/-- A requirement that notes its verdict. -/
def requirement (label : String) (condition : Condition) (sender : Sender Effect Kind) :
    Effect Bool := do
  let passed := condition.holds sender
  note (.check label passed)
  return passed

/-! ## Candidate lists -/

/-- Where the candidates of a list argument come from. -/
inductive Origin where
  /-- A named list. -/
  | named (source : String)
  /-- The list named by the raw text of an argument. -/
  | ofArgument (id : String)
  /-- The list named like the sender. -/
  | ofSender

/-- The name of the list that an origin means in an invocation. -/
def Origin.source? (origin : Origin) (context : Context) : Option String :=
  match origin with
  | .named source => some source
  | .ofArgument id => context.rawText? id
  | .ofSender => some context.sender.name

/-- The candidates of an origin. -/
def Origin.candidates (origin : Origin) (context : Context) : Effect (List Candidate) := do
  let source := origin.source? context
  note (.candidates source)
  match source with
  | some source => candidatesOf source
  | none => return []

/-- How a candidate is typed. -/
inductive Rendering where
  | id
  | label
  | both

/-- The text of a candidate. -/
def Rendering.render : Rendering → Candidate → String
  | .id, candidate => candidate.id
  | .label, candidate => candidate.label
  | .both, candidate => candidate.id ++ "." ++ candidate.label

/-! ## Groups -/

/-- The name that a host's value is shown by. -/
def Extra.displayName : Extra → String
  | .candidate held => held.label
  | .entity held => held.name

/-- The identity of an entity. -/
def Extra.identity : Extra → Option Nat
  | .candidate _ => none
  | .entity held => held.identity

/-- The member that a token selects: `*` the only member, and any other token the first member of
that name. A token that starts with `@` and several members under `*` are errors. -/
def selectMember (members : List Member) (token : String) :
    Except ResolveError (Option Member) :=
  if token = "*" then
    if 1 < members.length then .error (.ambiguous token members.length) else .ok members.head?
  else if ['@'].isPrefixOf token.toList then .error (.invalid token "unknown selector")
  else .ok (members.find? fun member => member.name == token)

/-- The entities of a named group. -/
def group (name : String) (members : List Member) : Entities Effect Kind Extra where
  resolve token _ := do
    note (.resolve name token)
    return (selectMember members token).map (·.map .entity)
  candidates _ := return members.map .entity
  displayName := Extra.displayName
  identity := Extra.identity

/-- A condition on an entity. -/
inductive MemberFilter where
  | nameIsNot (name : String)
  | nameStarts (start : String)
  /-- The name has at most as many characters as an integer argument says. -/
  | nameFits (argument : String)
  | notSender

/-- Whether an entity passes a filter in an invocation. -/
def MemberFilter.accepts (filter : MemberFilter) : EntityFilter Effect Kind Extra :=
  fun context entity =>
    match filter with
    | .nameIsNot name => return entity.displayName != name
    | .nameStarts start => return start.toList.isPrefixOf entity.displayName.toList
    | .nameFits argument => do
      match ← context.getOptional Value.int? argument with
      | some limit => return (entity.displayName.length : Int) ≤ limit.toInt
      | none => return false
    | .notSender => return entity.displayName != context.sender.name

/-! ## Mappers -/

/-- What a mapper of a session gives. -/
inductive MapRule where
  | constant (value : Raw)
  | absent
  /-- Twice the raw integer of an argument, in 32 bits. -/
  | twice (id : String)
  /-- The raw text of an argument in ASCII upper case. -/
  | upper (id : String)
  /-- The resolved text of an argument with a mark behind it. -/
  | marked (id : String)

/-- What the rule gives in an invocation. -/
def MapRule.value? (rule : MapRule) (context : Context) : Effect (Option (Value Extra)) :=
  match rule with
  | .constant value => return some (.raw value)
  | .absent => return none
  | .twice id =>
    return ((context.raw? id).bind Raw.int?).map fun value => .raw (.int (value * 2))
  | .upper id =>
    return (context.rawText? id).map fun text =>
      .raw (.text (String.ofList (text.toList.map Char.toUpper)))
  | .marked id => do
    return (← context.getOptional Value.text? id).map fun text => .raw (.text (text ++ "!"))

/-- A mapper that notes the name of its argument. -/
def mapper (id : String) (rule : MapRule) : Mapper Effect Kind Extra :=
  fun context => do
    note (.mapper id)
    rule.value? context

/-! ## Completion -/

/-- What a completion source of a session offers. -/
inductive Content where
  | fixed (offers : List String)
  | matching (candidates : List String)
  /-- Tells what the source was asked, and the values of the named arguments. -/
  | echo (ids : List String)

/-- What an echo tells of an argument. -/
def echoArgument (context : Context) (id : String) : Effect (List String) := do
  let resolved ← context.resolve id
  return ["raw " ++ id ++ "=" ++ optionText ((context.raw? id).map .raw),
    "resolved " ++ id ++ "=" ++ optionText resolved]

/-- What the content offers for a query. -/
def Content.offers (content : Content) (query : Query) : Effect (List String) :=
  match content with
  | .fixed offers => return offers
  | .matching candidates => return Completion.matching candidates query.remaining
  | .echo ids => do
    let about := ["remaining=" ++ query.remaining,
      "lower=" ++ Text.lowercased query.remaining,
      "start=" ++ Nat.repr query.start,
      "input=" ++ query.invocation.input,
      "sender=" ++ query.invocation.sender.name]
    let values ← ids.mapM (echoArgument query.invocation)
    return about ++ values.flatten

/-- A source that answers at once. -/
def immediateSource (content : Content) : Completion.Source Effect Kind Extra :=
  .immediate content.offers

/-- A source that answers after a delay, unless its work breaks off. -/
def deferredSource (scheduler : Scheduler) (delay : Nat) (breaksOff : Bool) (content : Content) :
    Completion.Source Effect Kind Extra :=
  .deferred scheduler fun query =>
    { delay := delay
      run := if breaksOff then pure none else some <$> content.offers query }

end CommandGrammar.Session
