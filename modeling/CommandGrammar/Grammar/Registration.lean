import CommandGrammar.Grammar

/-!
# Registering commands

Commands are added to a grammar at any time: a finished root, several of them, or one declaration under a
name and its aliases. What is registered stands behind everything that is there, and nothing is ever
replaced or taken away.
-/

set_option autoImplicit false

namespace CommandGrammar

/-- A call that adds commands to a grammar. -/
inductive Registration (m : Type → Type) (κ ε ν : Type) where
  | register (draft : Draft m κ ε ν)
  | registerAll (drafts : List (Draft m κ ε ν))
  | command (name : String) (aliases : List String) (body : List (Declaration m κ ε ν))

namespace Grammar

variable {m : Type → Type} {κ ε ν : Type}

/-- Registers several drafts, one after the other. -/
def registerAll (grammar : Grammar m κ ε) (drafts : List (Draft m κ ε ν)) : Grammar m κ ε :=
  drafts.foldl register grammar

/-- Makes one call. -/
def perform (grammar : Grammar m κ ε) : Registration m κ ε ν → Grammar m κ ε
  | .register draft => grammar.register draft
  | .registerAll drafts => grammar.registerAll drafts
  | .command name aliases body => grammar.command name aliases body

/-- Makes calls in order. -/
def performAll (grammar : Grammar m κ ε) (calls : List (Registration m κ ε ν)) : Grammar m κ ε :=
  calls.foldl perform grammar

end Grammar

end CommandGrammar
