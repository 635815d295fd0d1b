import CommandGrammar.Builder.Composite
import CommandGrammar.Grammar.Bench

/-!
# The calls that declarations make

A declaration is carried out on the builder at hand, and names its detached children. Written down as
calls, it speaks of numbers: `Declaration.calls` follows a declaration from place to place, where a
place says which builder is at hand, under which numbers its detached children go, and how many
builders and handlers there are.

A scope opens a child, makes the calls of its body on it, and attaches it. A composite argument sets
its mapper on the builder at hand right before it opens its child (`Declaration.callsAll_composite`).
-/

set_option autoImplicit false

namespace CommandGrammar

variable {m : Type → Type} {κ ε ν : Type}

/-- Where a list of steps stands: the builder at hand, the detached children by their names, and the
next numbers of builders and handlers. -/
structure Place where
  current : Nat
  detached : List (String × Nat)
  opened : Nat
  declared : Nat

namespace Place

/-- Turns to another builder; it has no detached children yet. -/
def enter (place : Place) (builder : Nat) : Place :=
  { place with current := builder, detached := [] }

/-- Comes back to the builder and the detached children of the place outside. -/
def leave (inner place : Place) : Place :=
  { inner with current := place.current, detached := place.detached }

/-- The place when one more builder is opened. -/
def openNext (place : Place) : Place :=
  { place with opened := place.opened + 1 }

end Place

namespace Declaration

mutual

/-- The calls that a step makes, and the place behind it. -/
def calls : Declaration m κ ε ν → Place → List (Call m κ ε) × Place
  | .require requirement, place => ([.provide place.current (.require requirement)], place)
  | .offer source, place => ([.provide place.current (.offer source)], place)
  | .handle audience body, place =>
    ([.provide place.current (.handle ⟨audience, place.declared, body⟩)],
      { place with declared := place.declared + 1 })
  | .rebind, place => ([.provide place.current .rebind], place)
  | .map id mapper, place => ([.provide place.current (.map id mapper)], place)
  | .child pattern body, place =>
    let inner := callsAll body (place.openNext.enter place.opened)
    (.child place.opened place.current pattern ::
        (inner.1 ++ [.attach place.current place.opened]),
      inner.2.leave place)
  | .detach label pattern, place =>
    ([.child place.opened place.current pattern],
      { place.openNext with detached := Assoc.put label place.opened place.detached })
  | .edit label body, place =>
    match place.detached.lookup label with
    | none => ([], place)
    | some held =>
      let inner := callsAll body (place.enter held)
      (inner.1, inner.2.leave place)
  | .attach label, place =>
    match place.detached.lookup label with
    | none => ([], place)
    | some held =>
      ([.attach place.current held], { place with detached := Assoc.erase label place.detached })
  | .note _, place => ([], place)

/-- The calls that steps make in order, and the place behind them. -/
def callsAll : List (Declaration m κ ε ν) → Place → List (Call m κ ε) × Place
  | [], place => ([], place)
  | step :: rest, place =>
    let first := calls step place
    let others := callsAll rest first.2
    (first.1 ++ others.1, others.2)

end

end Declaration

/-- A composite argument: its mapper is set on the builder at hand, and a child of its name is opened
that offers what the argument may be. -/
def Call.composite (parent child : Nat) (key : String) (form : Form) (mapper : Mapper m κ ε)
    (source : Completion.Source m κ ε) : List (Call m κ ε) :=
  [.provide parent (.map key mapper), .child child parent (.argument key form),
    .provide child (.offer source)]

/-- The calls of a composite argument, those of its body and the one that attaches its child. -/
theorem Declaration.callsAll_composite [Monad m] (key : String) (form : Form) (mapper : Mapper m κ ε)
    (source : Completion.Source m κ ε) (body : List (Declaration m κ ε ν)) (place : Place) :
    (callsAll (composite key form mapper source body) place).1 =
      Call.composite place.current place.opened key form mapper source ++
        ((callsAll body (place.openNext.enter place.opened)).1 ++
          [.attach place.current place.opened]) := by
  show _ :: _ :: _ :: (_ ++ []) = _
  rw [List.append_nil]
  rfl

namespace Bench

/-- The place of a root that was opened next on the bench. -/
def rootPlace (bench : Bench m κ ε) : Place :=
  { current := bench.opened, detached := [], opened := bench.opened + 1, declared := bench.declared }

/-- The calls of a command: a root is opened, the body makes its calls, and the root is registered. -/
def script (bench : Bench m κ ε) (name : String) (body : List (Declaration m κ ε ν)) :
    List (Call m κ ε) :=
  .root bench.opened name ::
    ((Declaration.callsAll body bench.rootPlace).1 ++ [.register bench.opened])

end Bench

end CommandGrammar
