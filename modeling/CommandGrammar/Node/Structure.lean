import CommandGrammar.Node
import CommandGrammar.Text.Quoted

/-!
# Showing the structure of a node

A node is shown with everything that can be told of it in words: what it matches, its children,
whether it is restricted, which kind of completion source it has, and of its chain the audiences and
the names of the mapped arguments.
-/

set_option autoImplicit false

namespace CommandGrammar

/-- A record: its name, and its fields between braces. -/
def showRecord (name fields : String) : String :=
  name ++ " \x7b " ++ fields ++ " \x7d"

/-- A list between brackets. -/
def showList (items : List String) : String :=
  "[" ++ ", ".intercalate items ++ "]"

/-- A value that may be absent. -/
def showOption : Option String → String
  | some text => "Some(" ++ text ++ ")"
  | none => "None"

/-- A truth value in a word. -/
def showBool (value : Bool) : String :=
  if value then "true" else "false"

variable {m : Type → Type} {κ ε : Type}

/-- An audience, given the names of the kinds of senders. -/
def Audience.describe (kindName : κ → String) : Audience κ → String
  | .anyone => "Any"
  | .only kind => "Exact(" ++ kindName kind ++ ")"

/-- The names of mapped arguments, in ascending order. -/
def Mappers.ids (mappers : Mappers m κ ε) : List String :=
  Ascending.ofList (Assoc.names mappers)

/-- A set of mappers. -/
def Mappers.describe (mappers : Mappers m κ ε) : String :=
  showRecord "MapperSet" ("ids: " ++ showList (mappers.ids.map Text.quoted))

/-- A chain: the audiences of its handlers, and its mappers. -/
def Chain.describe (kindName : κ → String) (chain : Chain m κ ε) : String :=
  let handlers := chain.handlers.map fun handler =>
    showRecord "ExecutionHandler" ("kind: " ++ handler.audience.describe kindName ++ ", ..")
  showRecord "HandlerChain"
    ("handlers: " ++ showList handlers ++ ", mappers: " ++ chain.mappers.describe)

/-- The kind of a completion source. -/
def Completion.Source.describe (source : Completion.Source m κ ε) : String :=
  if source.isDeferred then "Deferred" else "Immediate"

/-- A clause with the shown children of its node. -/
def Clause.describe (kindName : κ → String) (clause : Clause m κ ε) (children : List String) :
    String :=
  showRecord "CommandNode"
    ("kind: " ++ clause.pattern.describe
      ++ ", children: " ++ showList children
      ++ ", restricted: " ++ showBool (!clause.requirements.isEmpty)
      ++ ", suggestions: " ++ showOption (clause.source.map Completion.Source.describe)
      ++ ", chain: " ++ showOption (clause.chain.map (Chain.describe kindName)))

mutual

/-- A node with everything below it. -/
def Node.describe (kindName : κ → String) : Node m κ ε → String
  | .mk clause children => clause.describe kindName (Node.describeAll kindName children)

/-- Nodes with everything below them. -/
def Node.describeAll (kindName : κ → String) : List (Node m κ ε) → List String
  | [] => []
  | node :: rest => Node.describe kindName node :: Node.describeAll kindName rest

end

end CommandGrammar
