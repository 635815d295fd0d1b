import CommandGrammar.Node

/-!
# Builders

A builder is a node in the making. A child builder starts with a copy of the handlers and the
mappers its parent has at that moment; what the parent declares later does not reach it. The chain
of a builder is a copy as well, of its own handlers and mappers at the last moment it was bound:
declaring a handler binds the chain anew, declaring a mapper does not. Requirements, the completion
source and the chain are never inherited.
-/

set_option autoImplicit false

namespace CommandGrammar

/-- A node in the making. -/
structure Builder (m : Type → Type) (κ ε : Type) where
  pattern : Pattern
  children : List (Node m κ ε)
  requirements : List (Sender m κ → m Bool)
  source : Option (Completion.Source m κ ε)
  chain : Option (Chain m κ ε)
  /-- The inherited handlers first, then the builder's own. -/
  handlers : List (Handler m κ ε)
  mappers : Mappers m κ ε

namespace Builder

variable {m : Type → Type} {κ ε : Type}

/-- A builder with given handlers and mappers and nothing else. -/
def start (pattern : Pattern) (handlers : List (Handler m κ ε)) (mappers : Mappers m κ ε) :
    Builder m κ ε :=
  { pattern, handlers, mappers
    children := [], requirements := [], source := none, chain := none }

/-- The builder of a root. -/
def root (name : String) : Builder m κ ε :=
  start (.literal name) [] []

/-- A child builder, not yet attached: it takes over the handlers and the mappers of this moment. -/
def child (builder : Builder m κ ε) (pattern : Pattern) : Builder m κ ε :=
  start pattern builder.handlers builder.mappers

/-- The finished node. -/
def build (builder : Builder m κ ε) : Node m κ ε :=
  .mk
    { pattern := builder.pattern
      requirements := builder.requirements
      source := builder.source
      chain := builder.chain
      mappers := builder.mappers }
    builder.children

/-- Finishes a child and puts it behind the children that are there. -/
def attach (builder child : Builder m κ ε) : Builder m κ ε :=
  { builder with children := builder.children ++ [child.build] }

/-- Adds a requirement behind the ones that are there. -/
def require (builder : Builder m κ ε) (requirement : Sender m κ → m Bool) : Builder m κ ε :=
  { builder with requirements := builder.requirements ++ [requirement] }

/-- Sets the completion source, in the place of any earlier one. -/
def offer (builder : Builder m κ ε) (source : Completion.Source m κ ε) : Builder m κ ε :=
  { builder with source := some source }

/-- Binds the chain to the handlers and the mappers of this moment. -/
def rebind (builder : Builder m κ ε) : Builder m κ ε :=
  { builder with chain := some ⟨builder.handlers, builder.mappers⟩ }

/-- Adds a handler behind the ones that are there and binds the chain anew. -/
def handle (builder : Builder m κ ε) (handler : Handler m κ ε) : Builder m κ ε :=
  rebind { builder with handlers := builder.handlers ++ [handler] }

/-- Sets the mapper of an argument, in the place of any earlier one. The chain stays as it is. -/
def map (builder : Builder m κ ε) (id : String) (mapper : Mapper m κ ε) : Builder m κ ε :=
  { builder with mappers := Assoc.put id mapper builder.mappers }

end Builder

end CommandGrammar
