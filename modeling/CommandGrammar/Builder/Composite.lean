import CommandGrammar.Builder.Declaration
import CommandGrammar.Composite.Flags

/-!
# Composite arguments

A composite argument is an argument whose value is worked out by a mapper from the text it read.
Declaring one takes two steps: its mapper is set on the builder it is declared on, and then a child
of its name is declared, with a completion source of its own that the body of the child may replace.
-/

set_option autoImplicit false

namespace CommandGrammar

variable {m : Type → Type} {κ ε ν : Type}

/-- Why a selector names no single entity. -/
inductive ResolveError where
  | ambiguous (token : String) (count : Nat)
  | invalid (token reason : String)

/-- What the error says. -/
def ResolveError.message : ResolveError → String
  | .ambiguous token count =>
    "Selector '" ++ token ++ "' matched " ++ Nat.repr count ++ " entities, expected at most one"
  | .invalid token reason => "Selector '" ++ token ++ "' is not valid here: " ++ reason

/-- The entities of a host, and how tokens select them. -/
structure Entities (m : Type → Type) (κ ε : Type) where
  resolve : String → Invocation m κ ε → m (Except ResolveError (Option ε))
  candidates : Invocation m κ ε → m (List ε)
  displayName : ε → String
  identity : ε → Option Nat

/-- Decides whether an entity counts in an invocation. -/
abbrev EntityFilter (m : Type → Type) (κ ε : Type) : Type :=
  Invocation m κ ε → ε → m Bool

namespace Mapper

variable [Monad m]

/-- Works out a value from the raw text of an argument; without one there is no value. -/
def ofText (id : String) (work : Invocation m κ ε → String → m (Option (Value ε))) :
    Mapper m κ ε :=
  fun invocation =>
    match invocation.rawText? id with
    | none => pure none
    | some text => work invocation text

/-- The named arguments in the text. -/
def named (id : String) (options : Named.Options) : Mapper m κ ε :=
  ofText id fun _ text => pure (some (.named (Named.collect options text.toList)))

/-- The allowed flags in the text. -/
def flags (id : String) (allowed : List String) : Mapper m κ ε :=
  ofText id fun _ text => pure (some (.flags (Flags.collect allowed text.toList)))

/-- The first candidate whose rendering is the text. -/
def candidate {α : Type} (id : String) (candidates : Invocation m κ ε → m (List α))
    (render : α → String) (value : α → Value ε) : Mapper m κ ε :=
  ofText id fun invocation text => do
    let found := (← candidates invocation).find? fun candidate => render candidate == text
    return found.map value

/-- The entity that the text selects, if the filter accepts it. -/
def entity (id : String) (entities : Entities m κ ε) (accepts : EntityFilter m κ ε) :
    Mapper m κ ε :=
  ofText id fun invocation text => do
    match ← entities.resolve text invocation with
    | .ok (some entity) => return if ← accepts invocation entity then some (.host entity) else none
    | .ok none => return none
    | .error _ => return none

end Mapper

/-- The entity that the raw text of an argument selects, whatever its mapper and filter make of it.
-/
def Invocation.resolveRaw [Monad m] (invocation : Invocation m κ ε) (entities : Entities m κ ε)
    (id : String) : m (Option ε) :=
  match invocation.rawText? id with
  | none => pure none
  | some text => do
    match ← entities.resolve text invocation with
    | .ok entity => return entity
    | .error _ => return none

namespace Completion.Source

variable [Monad m]

/-- Offers the keys of named arguments that are not typed yet. -/
def named (options : Named.Options) : Source m κ ε :=
  .immediate fun query => pure (Named.suggest options query.remaining.toList)

/-- Offers the flags that are not typed yet. -/
def flags (allowed : List String) : Source m κ ε :=
  .immediate fun query => pure (Flags.suggest allowed query.remaining.toList)

/-- Offers the renderings that start with the typed text. -/
def candidates {α : Type} (candidates : Invocation m κ ε → m (List α)) (render : α → String) :
    Source m κ ε :=
  .immediate fun query => do
    return matching ((← candidates query.invocation).map render) query.remaining

/-- Offers the names of accepted entities that start with the typed text. -/
def entities (entities : Entities m κ ε) (accepts : EntityFilter m κ ε) : Source m κ ε :=
  .immediate fun query => do
    let accepted ← (← entities.candidates query.invocation).filterM (accepts query.invocation)
    return matching (accepted.map entities.displayName) query.remaining

end Completion.Source

/-- Accepts every entity. -/
def EntityFilter.everyone [Monad m] : EntityFilter m κ ε :=
  fun _ _ => pure true

/-- Accepts every entity but the sender itself. Only identities are compared, and an entity or a
sender without one is never taken for the other. -/
def EntityFilter.others [Monad m] (entities : Entities m κ ε) : EntityFilter m κ ε :=
  fun invocation entity =>
    pure <|
      match invocation.sender.identity, entities.identity entity with
      | some own, some other => own != other
      | _, _ => true

/-- Accepts the sender itself or not, and every other entity. -/
def EntityFilter.includingSelf [Monad m] (entities : Entities m κ ε) : Bool → EntityFilter m κ ε
  | true => .everyone
  | false => .others entities

namespace Declaration

variable [Monad m]

/-- An argument of the given form with a mapper and a completion source. -/
def composite (id : String) (form : Form) (mapper : Mapper m κ ε)
    (source : Completion.Source m κ ε) (body : List (Declaration m κ ε ν)) :
    List (Declaration m κ ε ν) :=
  [.map id mapper, argument id form (.offer source :: body)]

/-- `-key:value` pairs in the rest of the line. -/
def namedArguments (id : String) (options : Named.Options) (body : List (Declaration m κ ε ν)) :
    List (Declaration m κ ε ν) :=
  composite id .greedy (Mapper.named id options) (.named options) body

/-- Flags in the rest of the line. -/
def flagsArgument (id : String) (allowed : List String) (body : List (Declaration m κ ε ν)) :
    List (Declaration m κ ε ν) :=
  composite id .greedy (Mapper.flags id allowed) (.flags allowed) body

/-- One word, looked up by its rendering among the candidates of the invocation. The candidates are
asked for at every look-up, so later ones are found too. -/
def listArgument {α : Type} (id : String) (candidates : Invocation m κ ε → m (List α))
    (render : α → String) (value : α → Value ε) (body : List (Declaration m κ ε ν)) :
    List (Declaration m κ ε ν) :=
  composite id .word (Mapper.candidate id candidates render value)
    (.candidates candidates render) body

/-- One word out of a fixed list. -/
def stringListArgument (id : String) (values : List String)
    (body : List (Declaration m κ ε ν)) : List (Declaration m κ ε ν) :=
  listArgument id (fun _ => pure values) (fun value => value) (fun value => .raw (.text value))
    body

/-- A token that selects one of the entities that a filter accepts. -/
def selectorArgument (id : String) (entities : Entities m κ ε) (accepts : EntityFilter m κ ε)
    (body : List (Declaration m κ ε ν)) : List (Declaration m κ ε ν) :=
  composite id .selector (Mapper.entity id entities accepts) (.entities entities accepts) body

/-- A token that selects one of the entities, where the sender itself may count or not. -/
def selectorArgumentWithSelf (id : String) (entities : Entities m κ ε) (includeSelf : Bool)
    (body : List (Declaration m κ ε ν)) : List (Declaration m κ ε ν) :=
  selectorArgument id entities (.includingSelf entities includeSelf) body

end Declaration

end CommandGrammar
