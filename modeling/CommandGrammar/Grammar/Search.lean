import CommandGrammar.Node

/-!
# Searching for the node of a line

A line selects a node by a full path: a root that matches at the start of the line, then child after
child, each one byte behind the end of its parent's token, the last of them ending where the line
ends. Nodes that the sender may not use are passed over as if they were not there. The search takes
the first full path in the order of declaration and goes back where a branch ends in nothing.

One trail is handed from node to node and from branch to branch. A token that is taken binds its
value on the trail, and when its branch has ended in nothing the binding is taken back: a name that
was bound further up is bound to that value again. The token of a root binds nothing.

When there is no full path, the search tells the failure that lies deepest in the line. Of failures
at one position the first in the order of the search counts, and a root that does not match is no
failure.
-/

set_option autoImplicit false

namespace CommandGrammar

open Text

/-- A position of the line and the reason why nothing matched there. -/
structure Failure where
  position : Nat
  reason : ParseError

/-- The deepest failure after one more: the later one counts only if it lies deeper in the line. -/
def Failure.deeper : Option Failure → Failure → Option Failure
  | none, later => some later
  | some earlier, later => if earlier.position < later.position then some later else some earlier

/-- What a search has in hand: the arguments bound on the way to the node at hand, and the deepest
failure so far. -/
structure Trail where
  arguments : Bindings
  deepest : Option Failure

namespace Trail

/-- The trail at the start of a line. -/
def empty : Trail :=
  ⟨[], none⟩

/-- Binds the value of a token. -/
def bind (trail : Trail) (pattern : Pattern) (parsed : Option Binding) : Trail :=
  { trail with arguments := pattern.bind parsed trail.arguments }

/-- Takes back what a token bound, given what its name was bound to before. -/
def unbind (trail : Trail) (pattern : Pattern) (parsed shadowed : Option Binding) : Trail :=
  { trail with arguments := pattern.unbind parsed shadowed trail.arguments }

/-- Notes a failure. -/
def fail (trail : Trail) (failure : Failure) : Trail :=
  { trail with deepest := Failure.deeper trail.deepest failure }

end Trail

/-- What a search comes to. -/
inductive Search (m : Type → Type) (κ ε : Type) where
  /-- The node at the end of the first full path, with the arguments of that path. -/
  | found (node : Node m κ ε) (arguments : Bindings)
  /-- No full path, and the deepest failure if there was any. -/
  | missed (deepest : Option Failure)

namespace Search

variable {m : Type → Type} {κ ε : Type} [Monad m] (line : List Char) (sender : Sender m κ)

mutual

/-- Searches below a node whose token ends at `stop`. At the end of the line the node itself is the
end of the path. -/
def below : Node m κ ε → (stop : Nat) → Trail → m (Option (Node m κ ε) × Trail)
  | .mk clause children, stop, trail =>
    if byteLength line ≤ stop then pure (some (.mk clause children), trail)
    else among children (stop + 1) trail

/-- Searches among the children of a node, whose tokens start at `start`. -/
def among : List (Node m κ ε) → (start : Nat) → Trail → m (Option (Node m κ ε) × Trail)
  | [], _, trail => pure (none, trail)
  | .mk clause children :: rest, start, trail => do
    if ← clause.allows sender then
      match clause.pattern.consume line start with
      | .ok (stop, parsed) =>
        let shadowed := trail.arguments.lookup clause.pattern.name
        match ← below (.mk clause children) stop (trail.bind clause.pattern parsed) with
        | (some node, trail) => return (some node, trail)
        | (none, trail) => among rest start (trail.unbind clause.pattern parsed shadowed)
      | .error reason => among rest start (trail.fail ⟨start, reason⟩)
    else among rest start trail

end

/-- Searches among the roots, whose tokens start the line; `anyRoot` says whether one of those before
them matched. -/
def fromRoots : List (Node m κ ε) → (anyRoot : Bool) → Trail → m (Search m κ ε)
  | [], anyRoot, trail => pure (.missed (if anyRoot then trail.deepest else none))
  | root :: rest, anyRoot, trail => do
    if ← root.clause.allows sender then
      match root.clause.pattern.consume line 0 with
      | .ok (stop, _) =>
        match ← below line sender root stop trail with
        | (some node, trail) => return .found node trail.arguments
        | (none, trail) => fromRoots rest true trail
      | .error _ => fromRoots rest anyRoot trail
    else fromRoots rest anyRoot trail

end Search

end CommandGrammar
