import CommandGrammar.Builder.Declaration
import CommandGrammar.Grammar.Offers
import CommandGrammar.Grammar.Search

/-!
# Grammars

A grammar is the list of its root nodes, in the order of their registration. `execute` runs the
chain of the node that a line selects, and `complete` asks every node that could take the last token
of a line.
-/

set_option autoImplicit false

namespace CommandGrammar

/-- Why a line was not run, or how its handlers failed. -/
inductive DispatchError where
  /-- No root matched, or a matching one led nowhere without a failure to tell. -/
  | unknownCommand (input : String)
  /-- The line selects a node that has no chain. -/
  | incompleteCommand (input : String)
  /-- The deepest failure of the search. -/
  | invalidSyntax (position : Nat) (reason : ParseError)
  /-- A handler failed. -/
  | execution (error : CommandError)

/-- What the error says to the person who typed the line. -/
def DispatchError.message : DispatchError → String
  | .unknownCommand input => "Unknown command: '" ++ input ++ "'"
  | .incompleteCommand input => "Incomplete command: '" ++ input ++ "'"
  | .invalidSyntax position reason =>
    "Invalid syntax at position " ++ Nat.repr position ++ ": " ++ reason.message
  | .execution error => error.message

/-- The root nodes, in the order of their registration, and the number of handlers declared so far.
-/
structure Grammar (m : Type → Type) (κ ε : Type) where
  roots : List (Node m κ ε)
  declared : Nat

namespace Grammar

variable {m : Type → Type} {κ ε : Type}

/-- The grammar without a command. -/
def empty : Grammar m κ ε :=
  ⟨[], 0⟩

/-- Carries out the declaration of a command on the builder of a new root. -/
def draft {ν : Type} (grammar : Grammar m κ ε) (name : String)
    (body : List (Declaration m κ ε ν)) : Draft m κ ε ν :=
  Declaration.applyAll body
    { builder := .root name, detached := [], declared := grammar.declared, notes := [] }

/-- Puts the finished root of a draft behind the roots that are there. -/
def register {ν : Type} (grammar : Grammar m κ ε) (draft : Draft m κ ε ν) : Grammar m κ ε :=
  ⟨grammar.roots ++ [draft.builder.build], draft.declared⟩

/-- Declares a command. -/
def declare {ν : Type} (grammar : Grammar m κ ε) (name : String)
    (body : List (Declaration m κ ε ν)) : Grammar m κ ε :=
  grammar.register (grammar.draft name body)

/-- Declares the same command under a name and under each of its aliases. -/
def command {ν : Type} (grammar : Grammar m κ ε) (name : String) (aliases : List String)
    (body : List (Declaration m κ ε ν)) : Grammar m κ ε :=
  (name :: aliases).foldl (fun grammar label => grammar.declare label body) grammar

/-- The node at a path: the position of a root, then positions of children. -/
def node? (grammar : Grammar m κ ε) : List Nat → Option (Node m κ ε)
  | [] => none
  | position :: path => do
    let root ← grammar.roots[position]?
    root.descendant? path

variable [Monad m]

/-- The node that a line selects for a sender. -/
def select (grammar : Grammar m κ ε) (line : List Char) (sender : Sender m κ) :
    m (Search m κ ε) :=
  Search.fromRoots line sender grammar.roots false .empty

/-- Runs the chain of the node that the line selects. -/
def execute [DecidableEq κ] (grammar : Grammar m κ ε) (input : String) (sender : Sender m κ) :
    m (Except DispatchError (Outcome m)) := do
  match ← grammar.select input.toList sender with
  | .missed none => return .error (.unknownCommand input)
  | .missed (some failure) => return .error (.invalidSyntax failure.position failure.reason)
  | .found node arguments =>
    match node.clause.chain with
    | none => return .error (.incompleteCommand input)
    | some chain =>
      match ← chain.run sender input arguments with
      | .error error => return .error (.execution error)
      | .ok outcome => return .ok outcome

/-- Asks for completions of the last token of a line: one answer for each node asked. -/
def complete (grammar : Grammar m κ ε) (input : String) (sender : Sender m κ) :
    m (List (Completion.Pending m)) := do
  return (← Offers.walk input.toList sender Clause.offers grammar.roots 0 []).1

/-- The completions of the last token of a line: whatever the nodes that are asked offer, now or later.
-/
def completions (grammar : Grammar m κ ε) (input : String) (sender : Sender m κ) :
    m (List String) := do
  Completion.collect (← grammar.complete input sender)

end Grammar

end CommandGrammar
