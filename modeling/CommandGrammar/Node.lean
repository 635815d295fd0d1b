import CommandGrammar.Argument.Form
import CommandGrammar.Chain
import CommandGrammar.Completion.Source

/-!
# Nodes

A node of the grammar is a clause with child nodes. The clause says what the node matches, who may
use it, what it offers for completion, which chain it runs and which mappers its completion sources
see; the children stand in the order of their declaration, and two of them may have one name.

`Pattern.consume` matches one token at a byte offset of a line. The token must be followed by a
space or by the end of the line.
-/

set_option autoImplicit false

namespace CommandGrammar

open Text

/-- What a node matches: a fixed word, or a value that is bound to a name. -/
inductive Pattern where
  | literal (name : String)
  | argument (name : String) (form : Form)

namespace Pattern

/-- The word, or the name that the value is bound to. -/
def name : Pattern → String
  | .literal name => name
  | .argument name _ => name

/-- Whether the pattern is a fixed word. -/
def isLiteral : Pattern → Bool
  | .literal _ => true
  | .argument .. => false

/-- The pattern in a word. -/
def describe : Pattern → String
  | .literal name => "Literal(" ++ name ++ ")"
  | .argument name form => "Argument(" ++ name ++ ": " ++ form.describe ++ ")"

/-- Whether a text is at its end or at a space. -/
def atBoundary : List Char → Bool
  | [] => true
  | c :: _ => c = ' '

/-- Matches one token at a byte offset of the line: the offset behind it, and the value it binds. -/
def consume (pattern : Pattern) (line : List Char) (start : Nat) :
    Except ParseError (Nat × Option Binding) :=
  match pattern with
  | .literal name =>
    match dropStart? name.toList ((dropBytes? line start).getD []) with
    | some after =>
      if atBoundary after then .ok (start + byteLength name.toList, none)
      else .error (.expectedLiteral name)
    | none => .error (.expectedLiteral name)
  | .argument _ form =>
    match form.read (Reader.atOffset line start) with
    | (.error error, _) => .error error
    | (.ok value, after) =>
      if after.cursor = start then .error .expectedValue
      else if atBoundary after.rest then .ok (after.cursor, some ⟨start, after.cursor, value⟩)
      else .error .expectedSeparator

/-- Binds the value of a token to the name of the pattern, in the place of what the name is bound to.
A token without a value binds nothing. -/
def bind (pattern : Pattern) (parsed : Option Binding) (arguments : Bindings) : Bindings :=
  match parsed with
  | some binding => Assoc.put pattern.name binding arguments
  | none => arguments

/-- Takes back what a token bound: the name is bound to what it was bound to before, if to anything.
-/
def unbind (pattern : Pattern) (parsed shadowed : Option Binding) (arguments : Bindings) : Bindings :=
  match parsed, shadowed with
  | none, _ => arguments
  | some _, some binding => Assoc.put pattern.name binding arguments
  | some _, none => Assoc.erase pattern.name arguments

end Pattern

/-- What a node says of itself, its children aside. -/
structure Clause (m : Type → Type) (κ ε : Type) where
  pattern : Pattern
  /-- All of them must hold for a sender to use the node. -/
  requirements : List (Sender m κ → m Bool)
  source : Option (Completion.Source m κ ε)
  chain : Option (Chain m κ ε)
  mappers : Mappers m κ ε

/-- A clause with child nodes. -/
inductive Node (m : Type → Type) (κ ε : Type) where
  | mk (clause : Clause m κ ε) (children : List (Node m κ ε))

namespace Clause

variable {m : Type → Type} {κ ε : Type} [Monad m]

/-- Whether a sender may use the node. The requirements are asked in order, up to the first that
fails. -/
def allows (clause : Clause m κ ε) (sender : Sender m κ) : m Bool :=
  clause.requirements.allM fun requirement => requirement sender

/-- Asks for completions of the text that the node would take. A literal without a source of its own
offers its name; an argument without one offers nothing. -/
def offers (clause : Clause m κ ε) (query : Completion.Query m κ ε) : m (Completion.Pending m) :=
  match clause.source with
  | some source => source.ask query
  | none =>
    match clause.pattern with
    | .literal name => pure (.ready (Completion.matching [name] query.remaining))
    | .argument .. => pure (.ready [])

/-- Runs the chain of the node; a node without one handles nothing. -/
def execute [DecidableEq κ] (clause : Clause m κ ε) (sender : Sender m κ) (input : String)
    (arguments : Bindings) : m (Except CommandError (Outcome m)) :=
  match clause.chain with
  | some chain => chain.run sender input arguments
  | none => pure (.ok .exhausted)

end Clause

namespace Node

variable {m : Type → Type} {κ ε : Type}

/-- What the node says of itself. -/
def clause : Node m κ ε → Clause m κ ε
  | .mk clause _ => clause

/-- The child nodes, in the order of their declaration. -/
def children : Node m κ ε → List (Node m κ ε)
  | .mk _ children => children

/-- The word of a literal, or the name of an argument. -/
def name (node : Node m κ ε) : String :=
  node.clause.pattern.name

/-- The first child of a name. -/
def child? (node : Node m κ ε) (name : String) : Option (Node m κ ε) :=
  node.children.find? fun child => child.name == name

/-- The node at the end of a path of child positions. -/
def descendant? (node : Node m κ ε) : List Nat → Option (Node m κ ε)
  | [] => some node
  | position :: path => do
    let child ← node.children[position]?
    child.descendant? path

end Node

end CommandGrammar
