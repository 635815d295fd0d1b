import CommandGrammar.Node

/-!
# Asking for completions

The nodes that could take the last token of a line are asked for completions: those that match up to
the end of the line, and those that do not match a text without a space. The walk goes through every
branch of nodes that the sender may use, in the order of declaration, and each node is asked about
the arguments of the nodes above it, never about its own token.

The bindings are handed from node to node and from branch to branch: a token that is taken binds its
value for the nodes below, and once these are visited the binding is taken back.

`walk` visits these nodes and collects what the visits give; what a visit does is left open, so that
the nodes and the questions put to them can be looked at without asking anybody.
-/

set_option autoImplicit false

namespace CommandGrammar.Offers

open Text

variable {m : Type → Type} {κ ε α : Type} [Monad m]

/-- The text of the line from a byte offset on. -/
def remaining (line : List Char) (start : Nat) : List Char :=
  (dropBytes? line start).getD []

/-- The question put to a node: about the line, the arguments above the node, and the text it would
take. -/
def query (line : List Char) (sender : Sender m κ) (clause : Clause m κ ε) (start : Nat)
    (arguments : Bindings) : Completion.Query m κ ε :=
  { invocation := Invocation.of sender (String.ofList line) arguments clause.mappers
    remaining := String.ofList (remaining line start)
    start := start }

mutual

/-- Visits the nodes below a node whose token ends before the line does; their tokens start at
`start`. -/
def walkBelow (line : List Char) (sender : Sender m κ)
    (visit : Clause m κ ε → Completion.Query m κ ε → m α) :
    Node m κ ε → (start : Nat) → Bindings → m (List α × Bindings)
  | .mk _ children, start, arguments => walk line sender visit children start arguments

/-- Visits the nodes that could take the last token of the line, in order. -/
def walk (line : List Char) (sender : Sender m κ)
    (visit : Clause m κ ε → Completion.Query m κ ε → m α) :
    List (Node m κ ε) → (start : Nat) → Bindings → m (List α × Bindings)
  | [], _, arguments => pure ([], arguments)
  | .mk clause children :: rest, start, arguments => do
    if ← clause.allows sender then
      match clause.pattern.consume line start with
      | .ok (stop, parsed) =>
        if stop < byteLength line then
          let shadowed := arguments.lookup clause.pattern.name
          let (below, arguments) ← walkBelow line sender visit (.mk clause children) (stop + 1)
            (clause.pattern.bind parsed arguments)
          let (after, arguments) ← walk line sender visit rest start
            (clause.pattern.unbind parsed shadowed arguments)
          return (below ++ after, arguments)
        else
          let here ← visit clause (query line sender clause start arguments)
          let (after, arguments) ← walk line sender visit rest start arguments
          return (here :: after, arguments)
      | .error _ =>
        if (remaining line start).contains ' ' then walk line sender visit rest start arguments
        else
          let here ← visit clause (query line sender clause start arguments)
          let (after, arguments) ← walk line sender visit rest start arguments
          return (here :: after, arguments)
    else walk line sender visit rest start arguments

end

end CommandGrammar.Offers
