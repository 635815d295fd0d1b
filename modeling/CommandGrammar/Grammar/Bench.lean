import CommandGrammar.Grammar

/-!
# Making a grammar call by call

A host makes a grammar by calls on the builders that it has at hand. A call opens a builder, as a
root or as a child of another builder, makes a provision on a builder, or finishes one: its node is
put behind the children of another builder, or behind the roots of the grammar. A builder that is
finished is no longer at hand. Nothing else is asked of the calls. A child may be finished long after
it was opened, with calls on any other builder in between, and on another builder than the one that it
was opened on.

Builders and handlers are numbered in the order in which they are made. A call names what it makes by
its number, and a call that numbers it out of turn, or speaks of a builder that is not at hand, is
none that a host can make.

A declaration makes its calls in a fixed pattern: a scope opens a child, makes the calls of its body
on it, and attaches it.
-/

set_option autoImplicit false

namespace CommandGrammar

/-- What may be laid down on a builder. -/
inductive Provision (m : Type → Type) (κ ε : Type) where
  | require (requirement : Sender m κ → m Bool)
  | offer (source : Completion.Source m κ ε)
  | handle (handler : Handler m κ ε)
  | rebind
  | map (id : String) (mapper : Mapper m κ ε)

/-- One call on the builders at hand. -/
inductive Call (m : Type → Type) (κ ε : Type) where
  /-- Opens the builder of a root. -/
  | root (builder : Nat) (name : String)
  /-- Opens a child of a builder, not yet attached. -/
  | child (builder parent : Nat) (pattern : Pattern)
  | provide (builder : Nat) (provision : Provision m κ ε)
  /-- Finishes a builder as a child of another. -/
  | attach (parent child : Nat)
  /-- Finishes a builder as a root of the grammar. -/
  | register (builder : Nat)

variable {m : Type → Type} {κ ε : Type}

/-- Makes a provision on a builder. -/
def Builder.provide (builder : Builder m κ ε) : Provision m κ ε → Builder m κ ε
  | .require requirement => builder.require requirement
  | .offer source => builder.offer source
  | .handle handler => builder.handle handler
  | .rebind => builder.rebind
  | .map id mapper => builder.map id mapper

/-- How many handlers are declared after a provision, given how many were declared before it; a handler
has the next number. -/
def Provision.countFrom (declared : Nat) : Provision m κ ε → Option Nat
  | .handle handler => if handler.serial = declared then some (declared + 1) else none
  | _ => some declared

/-- The builders at hand by their numbers, how many builders were opened and handlers declared, and
the roots so far. -/
structure Bench (m : Type → Type) (κ ε : Type) where
  builders : Nat → Option (Builder m κ ε)
  opened : Nat
  declared : Nat
  roots : List (Node m κ ε)

namespace Bench

/-- The bench of a grammar, with no builder at hand. -/
def ofGrammar (grammar : Grammar m κ ε) : Bench m κ ε :=
  { builders := fun _ => none, opened := 0, declared := grammar.declared, roots := grammar.roots }

/-- The bench before the first call. -/
def empty : Bench m κ ε :=
  .ofGrammar .empty

/-- The grammar so far. -/
def grammar (bench : Bench m κ ε) : Grammar m κ ε :=
  ⟨bench.roots, bench.declared⟩

/-- Lays a builder in a place, or clears the place. -/
def lay (bench : Bench m κ ε) (id : Nat) (builder : Option (Builder m κ ε)) : Bench m κ ε :=
  { bench with builders := fun other => if other = id then builder else bench.builders other }

/-- Lays a new builder in the next place. -/
def openNext (bench : Bench m κ ε) (builder : Builder m κ ε) : Bench m κ ε :=
  { bench.lay bench.opened (some builder) with opened := bench.opened + 1 }

/-- Makes a call, if it can be made. -/
def step (bench : Bench m κ ε) : Call m κ ε → Option (Bench m κ ε)
  | .root id name =>
    if id = bench.opened then some (bench.openNext (.root name)) else none
  | .child id parent pattern => do
    let builder ← bench.builders parent
    if id = bench.opened then some (bench.openNext (builder.child pattern)) else none
  | .provide id provision => do
    let builder ← bench.builders id
    let declared ← provision.countFrom bench.declared
    return { bench.lay id (some (builder.provide provision)) with declared }
  | .attach parent child => do
    let held ← bench.builders child
    let cleared := bench.lay child none
    let builder ← cleared.builders parent
    return cleared.lay parent (some (builder.attach held))
  | .register id => do
    let held ← bench.builders id
    return { bench.lay id none with roots := bench.roots ++ [held.build] }

/-- Makes calls in order, if all of them can be made. -/
def run (bench : Bench m κ ε) (calls : List (Call m κ ε)) : Option (Bench m κ ε) :=
  calls.foldlM step bench

end Bench

end CommandGrammar
