import CommandGrammar.Grammar
import CommandGrammar.Proofs.Paths

/-!
# Searches and walks that keep notes

A search tells what it has found, and a walk what its visits gave; neither tells where on the line it
has tried to match a token, nor what the visits were about. The walkers of this module do the same and
note every attempt and every question on the way.

That they do the same, and that all of their notes have a property, is one statement about the two
(`Notes`), and it is put together as the walkers are: by what holds of a value, of one computation after
the other, and of a single note. Nothing is asked of the host, so that the notes are right whatever its
requirements do and whenever they answer otherwise.
-/

set_option autoImplicit false

namespace CommandGrammar

open Text

variable {m : Type → Type} {κ ε : Type}

/-- What is noted: a node is tried at an offset of the line, or a question is put to a node. -/
inductive Event (m : Type → Type) (κ ε : Type) where
  | tries (attempt : Attempt m κ ε)
  | asks (query : Completion.Query m κ ε)

/-- A computation that keeps notes. -/
abbrev Noting (m : Type → Type) (κ ε : Type) : Type → Type :=
  StateT (List (Event m κ ε)) m

variable [Monad m]

/-- Puts a note behind the others. -/
def note (event : Event m κ ε) : Noting m κ ε Unit :=
  modify (· ++ [event])

/-! ## The walkers -/

namespace Search

variable (line : List Char) (sender : Sender m κ)

mutual

/-- `Search.below` with notes. -/
def belowNoting : Node m κ ε → (stop : Nat) → Trail → Noting m κ ε (Option (Node m κ ε) × Trail)
  | .mk clause children, stop, trail =>
    if byteLength line ≤ stop then pure (some (.mk clause children), trail)
    else amongNoting children (stop + 1) trail

/-- `Search.among` with notes. -/
def amongNoting : List (Node m κ ε) → (start : Nat) → Trail →
    Noting m κ ε (Option (Node m κ ε) × Trail)
  | [], _, trail => pure (none, trail)
  | .mk clause children :: rest, start, trail => do
    if ← (clause.allows sender : m Bool) then
      note (.tries (.make line (.mk clause children) start))
      match clause.pattern.consume line start with
      | .ok (stop, parsed) =>
        let shadowed := trail.arguments.lookup clause.pattern.name
        match ← belowNoting (.mk clause children) stop (trail.bind clause.pattern parsed) with
        | (some node, trail) => return (some node, trail)
        | (none, trail) => amongNoting rest start (trail.unbind clause.pattern parsed shadowed)
      | .error reason => amongNoting rest start (trail.fail ⟨start, reason⟩)
    else amongNoting rest start trail

end

/-- `Search.fromRoots` with notes. -/
def fromRootsNoting : List (Node m κ ε) → (anyRoot : Bool) → Trail → Noting m κ ε (Search m κ ε)
  | [], anyRoot, trail => pure (.missed (if anyRoot then trail.deepest else none))
  | root :: rest, anyRoot, trail => do
    if ← (root.clause.allows sender : m Bool) then
      note (.tries (.make line root 0))
      match root.clause.pattern.consume line 0 with
      | .ok (stop, _) =>
        match ← belowNoting line sender root stop trail with
        | (some node, trail) => return .found node trail.arguments
        | (none, trail) => fromRootsNoting rest true trail
      | .error _ => fromRootsNoting rest anyRoot trail
    else fromRootsNoting rest anyRoot trail

end Search

namespace Offers

variable {α : Type} (line : List Char) (sender : Sender m κ)
  (visit : Clause m κ ε → Completion.Query m κ ε → m α)

/-- Visits a node, and notes what the visit is about. -/
def visitNoting (clause : Clause m κ ε) (query : Completion.Query m κ ε) : Noting m κ ε α := do
  note (.asks query)
  visit clause query

mutual

/-- `Offers.walkBelow` with notes. -/
def walkBelowNoting : Node m κ ε → (start : Nat) → Bindings → Noting m κ ε (List α × Bindings)
  | .mk _ children, start, arguments => walkNoting children start arguments

/-- `Offers.walk` with notes. -/
def walkNoting : List (Node m κ ε) → (start : Nat) → Bindings → Noting m κ ε (List α × Bindings)
  | [], _, arguments => pure ([], arguments)
  | .mk clause children :: rest, start, arguments => do
    if ← (clause.allows sender : m Bool) then
      note (.tries (.make line (.mk clause children) start))
      match clause.pattern.consume line start with
      | .ok (stop, parsed) =>
        if stop < byteLength line then
          let shadowed := arguments.lookup clause.pattern.name
          let (below, arguments) ← walkBelowNoting (.mk clause children) (stop + 1)
            (clause.pattern.bind parsed arguments)
          let (after, arguments) ← walkNoting rest start
            (clause.pattern.unbind parsed shadowed arguments)
          return (below ++ after, arguments)
        else
          let here ← visitNoting visit clause (query line sender clause start arguments)
          let (after, arguments) ← walkNoting rest start arguments
          return (here :: after, arguments)
      | .error _ =>
        if (remaining line start).contains ' ' then walkNoting rest start arguments
        else
          let here ← visitNoting visit clause (query line sender clause start arguments)
          let (after, arguments) ← walkNoting rest start arguments
          return (here :: after, arguments)
    else walkNoting rest start arguments

end

end Offers

namespace Grammar

/-- `Grammar.select` with notes. -/
def selectNoting (grammar : Grammar m κ ε) (line : List Char) (sender : Sender m κ) :
    Noting m κ ε (Search m κ ε) :=
  Search.fromRootsNoting line sender grammar.roots false .empty

/-- `Grammar.complete` with notes. -/
def completeNoting (grammar : Grammar m κ ε) (input : String) (sender : Sender m κ) :
    Noting m κ ε (List (Completion.Pending m)) := do
  return (← Offers.walkNoting input.toList sender Clause.offers grammar.roots 0 []).1

end Grammar

/-! ## Notes that have a property -/

/-- What a computation gives together with notes on it, the result and each of the notes having a
property. -/
abbrev Noted (holds : Event m κ ε → Prop) {α : Type} (good : α → Prop) : Type :=
  { noted : α × List (Event m κ ε) // good noted.1 ∧ ∀ event ∈ noted.2, holds event }

/-- The second computation does what the first one does and notes events besides, and whenever they
come to an end the result and all of the notes have their properties. -/
def Notes (holds : Event m κ ε → Prop) {α : Type} (good : α → Prop) (plain : m α)
    (noting : Noting m κ ε α) : Prop :=
  ∃ run : m (Noted holds good), plain = (fun noted => noted.1.1) <$> run ∧
    ∀ notes, noting.run notes = (fun noted => (noted.1.1, notes ++ noted.1.2)) <$> run

namespace Notes

variable [LawfulMonad m] {α β : Type} {holds holds' : Event m κ ε → Prop} {good : α → Prop}
  {good' : β → Prop} {plain : m α} {noting : Noting m κ ε α}

/-- A value leaves no notes. -/
theorem pure_ {value : α} (good_ : good value) :
    Notes holds good (pure value) (pure value : Noting m κ ε α) := by
  refine ⟨pure ⟨(value, []), good_, nofun⟩, by rw [map_pure], fun notes => ?_⟩
  rw [map_pure, List.append_nil]
  rfl

/-- An effect of the host leaves no notes. -/
theorem lift (effect : m α) :
    Notes holds (fun _ => True) effect (liftM effect : Noting m κ ε α) := by
  refine ⟨(fun value => ⟨(value, []), trivial, nofun⟩) <$> effect, ?_, fun notes => ?_⟩
  · simp
  · simp

/-- A note is kept. -/
theorem single {event : Event m κ ε} (holds_ : holds event) :
    Notes holds (fun _ => True) (pure ()) (note event) := by
  refine ⟨pure ⟨((), [event]), trivial, by simpa using holds_⟩, by rw [map_pure], fun notes => ?_⟩
  rw [map_pure]
  rfl

/-- One computation after the other keeps the notes of both. -/
theorem bind {next : α → m β} {nextNoting : α → Noting m κ ε β}
    (first : Notes holds good plain noting)
    (second : ∀ value, good value → Notes holds good' (next value) (nextNoting value)) :
    Notes holds good' (plain >>= next) (noting >>= nextNoting) := by
  obtain ⟨run, rfl, noted⟩ := first
  choose rest same notes using second
  refine ⟨run >>= fun before =>
    (fun after => ⟨(after.1.1, before.1.2 ++ after.1.2), after.2.1, ?_⟩) <$>
      rest before.1.1 before.2.1, ?_, fun earlier => ?_⟩
  · intro event member
    rcases List.mem_append.mp member with here | there
    · exact before.2.2 event here
    · exact after.2.2 event there
  · simp only [map_bind, bind_map_left, Functor.map_map]
    exact bind_congr fun before => same before.1.1 before.2.1
  · rw [StateT.run_bind, noted]
    simp only [map_bind, bind_map_left, Functor.map_map]
    refine bind_congr fun before => ?_
    rw [notes before.1.1 before.2.1]
    simp only [List.append_assoc]

/-- A note that is kept changes nothing of what follows. -/
theorem after_note {event : Event m κ ε} {next : Unit → Noting m κ ε α} (holds_ : holds event)
    (rest : Notes holds good plain (next ())) : Notes holds good plain (note event >>= next) := by
  have first : Notes holds (fun _ => True) (pure ()) (note event) := single holds_
  have both : Notes holds good (pure () >>= fun _ => plain) (note event >>= next) :=
    first.bind fun _ _ => rest
  rwa [pure_bind] at both

/-- Less may be said of the notes and of the result. -/
theorem imp {good' : α → Prop} (notes : Notes holds good plain noting)
    (events : ∀ event, holds event → holds' event) (results : ∀ value, good value → good' value) :
    Notes holds' good' plain noting := by
  obtain ⟨run, rfl, noted⟩ := notes
  refine ⟨(fun before => ⟨before.1, results _ before.2.1, fun event member =>
    events event (before.2.2 event member)⟩) <$> run, ?_, fun earlier => ?_⟩
  · simp
  · rw [noted]
    simp

end Notes

end CommandGrammar
