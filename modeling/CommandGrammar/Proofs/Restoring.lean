import CommandGrammar.Proofs.Promising

/-!
# What a walk leaves of the arguments

Searches and completions hand one set of arguments from node to node. A token that is taken binds its
name, and its binding is taken back by hand: what the name was bound to before is kept beside the
branch and put in its place again. Names may be bound many times on the way down, and whoever enters a
branch may have bound them as well.

For whoever enters a branch this comes to a simple contract (`Search.Restored`). A search that ends in
nothing gives the arguments back name by name. One that ends at a node gives them with the values of the
path to this node laid over them, the deeper ones over the others, and nothing of the branches that it
has left. The path is some path that takes the line to its end whatever the requirements of the host do,
and the first of them where the requirements are functions of the sender. A walk that asks for
completions always gives the arguments back, whatever is done at the nodes it visits (`walk_restores`).
-/

set_option autoImplicit false

namespace CommandGrammar

open Text

variable {m : Type → Type} {κ ε α : Type} {line : List Char}

/-! ## Searches -/

/-- A path through usable nodes below a node whose token ends before the line does. It takes the line to
its end. -/
structure PathBelow (line : List Char) (usable : Clause m κ ε → Bool) (node : Node m κ ε) (stop : Nat)
    (path : Path m κ ε) : Prop where
  inside : stop < byteLength line
  tried : Tried line usable node.children (stop + 1) path
  ends : path.endsLine line = true

namespace Trail

variable {paths : List (Path m κ ε)}

/-- Following paths goes to the end of the first one that takes the line to its end, and binds what this
one binds. -/
theorem follow_of_find?_eq_some (trail : Trail) {path : Path m κ ε}
    (found : paths.find? (Path.endsLine line) = some path) :
    ∃ inner, trail.follow line paths = (some path.last.node, inner) ∧
      inner.arguments = Attempt.bindAll path.attempts trail.arguments := by
  induction paths generalizing trail with
  | nil => cases found
  | cons first rest ih =>
    by_cases ends : first.endsLine line = true
    · rw [List.find?_cons_of_pos ends] at found
      cases found
      exact ⟨_, follow_cons_of_ends ends trail rest, rfl⟩
    · rw [List.find?_cons_of_neg ends] at found
      obtain ⟨inner, follows, bound⟩ := ih (trail.note first.last) found
      rw [note_arguments] at bound
      exact ⟨inner, (follow_cons_of_not_ends ends trail rest).trans follows, bound⟩

/-- Where no path takes the line to its end, following them binds nothing. -/
theorem follow_of_find?_eq_none (trail : Trail)
    (missed : paths.find? (Path.endsLine line) = none) :
    ∃ inner, trail.follow line paths = (none, inner) ∧ inner.arguments = trail.arguments := by
  have nowhere : (trail.follow line paths).1 = none := by
    induction paths generalizing trail with
    | nil => rfl
    | cons first rest ih =>
      have goes : ¬ first.endsLine line = true := List.find?_eq_none.mp missed first List.mem_cons_self
      rw [List.find?_cons_of_neg goes] at missed
      rw [follow_cons_of_not_ends goes]
      exact ih _ missed
  exact ⟨_, Prod.ext nowhere rfl, follow_arguments_of_none nowhere⟩

end Trail

namespace Search

/-- How a search below a node has come to one: it has stayed at the end of the line, or it has gone down
a path. -/
inductive Came (line : List Char) (node : Node m κ ε) (stop : Nat) (holds : Path m κ ε → Prop) :
    List (Attempt m κ ε) → Node m κ ε → Prop where
  | stayed (last : byteLength line ≤ stop) : Came line node stop holds [] node
  | went {path : Path m κ ε} (held : holds path) :
    Came line node stop holds path.attempts path.last.node

/-- What a search below a node leaves of the arguments that it was entered with. -/
def Restored (line : List Char) (node : Node m κ ε) (stop : Nat) (holds : Path m κ ε → Prop)
    (entry : Bindings) : Option (Node m κ ε) × Trail → Prop
  | (none, trail) => ∀ name, trail.arguments.lookup name = entry.lookup name
  | (some last, trail) =>
    ∃ attempts, Came line node stop holds attempts last ∧
      ∀ name, trail.arguments.lookup name =
        (Attempt.deepest? attempts name).or (entry.lookup name)

variable {node : Node m κ ε} {stop : Nat} {holds : Path m κ ε → Prop} {entry : Bindings} {trail : Trail}
  {usable : Clause m κ ε → Bool}

/-- A search that stays where it is leaves the arguments alone. -/
theorem restored_of_last (last : byteLength line ≤ stop) :
    Restored line node stop holds trail.arguments (some node, trail) :=
  ⟨[], .stayed last, fun _ => rfl⟩

/-- A search that goes down a path lays what the path binds over the arguments. -/
theorem restored_of_goes {path : Path m κ ε} (held : holds path)
    (bound : trail.arguments = Attempt.bindAll path.attempts entry) :
    Restored line node stop holds entry (some path.last.node, trail) := by
  refine ⟨path.attempts, .went held, fun name => ?_⟩
  rw [bound, Attempt.lookup_bindAll]

/-- A search that ends in nothing leaves the arguments alone. -/
theorem restored_of_none (same : trail.arguments = entry) :
    Restored line node stop holds entry (none, trail) := by
  intro name
  rw [same]

/-- The paths below a node, read off the list of the tries. -/
theorem pathBelow_iff {path : Path m κ ε} (inside : stop < byteLength line) :
    PathBelow line usable node stop path ↔
      path ∈ tries line usable node.children (stop + 1) ∧ path.endsLine line = true := by
  constructor
  · intro below
    exact ⟨mem_tries.mpr below.tried, below.ends⟩
  · rintro ⟨listed, ends⟩
    exact ⟨inside, mem_tries.mp listed, ends⟩

/-- Following the tries below a node restores what it was entered with, and takes the first path. -/
theorem restored_follow (node : Node m κ ε) (trail : Trail) (inside : stop < byteLength line) :
    Restored line node stop (IsFirst (PathBelow line usable node stop)) trail.arguments
      (trail.follow line (tries line usable node.children (stop + 1))) := by
  cases found : (tries line usable node.children (stop + 1)).find? (Path.endsLine line) with
  | none =>
    obtain ⟨inner, follows, same⟩ := trail.follow_of_find?_eq_none found
    rw [follows]
    exact restored_of_none same
  | some path =>
    obtain ⟨inner, follows, bound⟩ := trail.follow_of_find?_eq_some found
    rw [follows]
    exact restored_of_goes
      (isFirst_of_find? (pairwise_tries _ _) (fun _ => pathBelow_iff inside) found) bound

variable [Monad m] [LawfulMonad m] {sender : Sender m κ}

/-- Whatever the requirements do, a search restores what it was entered with. -/
theorem below_restores (node : Node m κ ε) (stop : Nat) (trail : Trail) :
    Yields (Restored line node stop (PathBelow line (fun _ => true) node stop) trail.arguments)
      (Search.below line sender node stop trail) := by
  refine (below_took node stop trail).imp ?_
  rintro ⟨taken, after⟩ took
  by_cases last : byteLength line ≤ stop
  · rw [if_pos last] at took
    cases took
    exact restored_of_last last
  · rw [if_neg last] at took
    cases taken with
    | none => exact restored_of_none took
    | some found =>
      obtain ⟨path, tried, ends, rfl, bound⟩ := took
      exact restored_of_goes ⟨Nat.not_le.mp last, tried, ends⟩ bound

/-- Where the requirements are functions of the sender, the path that a search takes is the first one. -/
theorem below_restores_of_decided (decided : Decided sender usable node.children) (stop : Nat)
    (trail : Trail) :
    ∃ result, Search.below line sender node stop trail = pure result ∧
      Restored line node stop (IsFirst (PathBelow line usable node stop)) trail.arguments result := by
  refine ⟨_, below_eq_follow node stop trail decided, ?_⟩
  split
  next last => exact restored_of_last last
  next inside => exact restored_follow node trail (Nat.not_le.mp inside)

end Search

/-! ## Walks -/

namespace Offers

variable [Monad m] {sender : Sender m κ}
  {visit : Clause m κ ε → Completion.Query m κ ε → m α}

mutual

/-- A walk below a node gives the arguments back. -/
theorem walkBelow_restores [LawfulMonad m] : ∀ (node : Node m κ ε) (start : Nat)
    (arguments : Bindings),
    Yields (fun result => result.2 = arguments)
      (Offers.walkBelow line sender visit node start arguments)
  | .mk clause children, start, arguments => by
    unfold Offers.walkBelow
    exact walk_restores children start arguments

/-- A walk through some nodes gives the arguments back. -/
theorem walk_restores [LawfulMonad m] : ∀ (nodes : List (Node m κ ε)) (start : Nat)
    (arguments : Bindings),
    Yields (fun result => result.2 = arguments) (Offers.walk line sender visit nodes start arguments)
  | [], _, _ => by
    unfold Offers.walk
    exact .pure_ rfl
  | .mk clause children :: rest, start, arguments => by
    have behind := walk_restores rest start arguments
    have visited :
        Yields (fun result => result.2 = arguments) (do
          let here ← visit clause (query line sender clause start arguments)
          let (after, arguments) ← Offers.walk line sender visit rest start arguments
          return (here :: after, arguments)) :=
      (Yields.effect _).bind fun here _ => behind.bind fun after same => .pure_ same
    unfold Offers.walk
    refine (Yields.effect _).bind fun allowed _ => ?_
    cases allowed with
    | false => exact behind
    | true =>
      rw [if_pos rfl]
      cases clause.pattern.consume line start with
      | error reason =>
        dsimp only
        split
        · exact behind
        · exact visited
      | ok token =>
        obtain ⟨stop, parsed⟩ := token
        dsimp only
        split
        next =>
          refine (walkBelow_restores (.mk clause children) (stop + 1) _).bind ?_
          rintro ⟨below, inner⟩ (bound : inner = clause.pattern.bind parsed arguments)
          -- The branch has been visited, and what it was entered with is taken back.
          have restored : clause.pattern.unbind parsed (arguments.lookup clause.pattern.name) inner =
              arguments := by
            rw [bound, Pattern.unbind_bind]
          dsimp only
          rw [restored]
          exact behind.bind fun after same => .pure_ same
        next => exact visited

end

end Offers

/-! ## Whoever enters a branch -/

/-- Searches and walks restore the arguments that they are entered with, at whatever node, offset and set
of arguments: a search that comes to nothing and a walk give them back name by name, and a search that
comes to a node lays the values of the path to it over them, of the first path where the requirements
are functions of the sender. -/
theorem branches_restore_arguments [Monad m] [LawfulMonad m] (line : List Char) (sender : Sender m κ) :
    (∀ (node : Node m κ ε) (stop : Nat) (trail : Trail),
      Yields (Search.Restored line node stop (PathBelow line (fun _ => true) node stop) trail.arguments)
        (Search.below line sender node stop trail)) ∧
      (∀ (usable : Clause m κ ε → Bool) (node : Node m κ ε) (stop : Nat) (trail : Trail),
        Decided sender usable node.children →
        ∃ result, Search.below line sender node stop trail = pure result ∧
          Search.Restored line node stop (IsFirst (PathBelow line usable node stop)) trail.arguments
            result) ∧
      ∀ (α : Type) (visit : Clause m κ ε → Completion.Query m κ ε → m α) (nodes : List (Node m κ ε))
        (start : Nat) (arguments : Bindings),
        Yields (fun result => ∀ name, result.2.lookup name = arguments.lookup name)
          (Offers.walk line sender visit nodes start arguments) := by
  refine ⟨Search.below_restores, ?_, ?_⟩
  · intro usable node stop trail decided
    exact Search.below_restores_of_decided decided stop trail
  · intro α visit nodes start arguments
    refine (Offers.walk_restores nodes start arguments).imp ?_
    intro result same name
    rw [same]

/-- Arguments that are bound further up. -/
def Sample.entry : Bindings :=
  [("spare", ⟨0, 3, .text "set"⟩), ("value", ⟨0, 3, .bool true⟩)]

/-- The word hides the number, which hides what was bound further up. The spare number, which leads to
nothing, leaves what was bound further up in its place. -/
theorem branches_restore_arguments_shadowing :
    ∃ root, Sample.shadowing.roots = [root] ∧
      Decided Sample.guest (fun _ => true) root.children ∧
      ∃ result, Search.below "set 5 ann".toList Sample.guest root 3 ⟨Sample.entry, none⟩ = pure result ∧
        Search.Restored "set 5 ann".toList root 3
          (IsFirst (PathBelow "set 5 ann".toList (fun _ => true) root 3)) Sample.entry result ∧
        ["value", "spare"].map (fun name =>
            (result.2.arguments.lookup name).bind fun binding => binding.value.text?) =
          [some "ann", some "set"] := by
  refine ⟨_, rfl, Sample.shadowing_decided.children, ?_⟩
  obtain ⟨result, comes, restored⟩ :=
    (branches_restore_arguments "set 5 ann".toList Sample.guest).2.1 (fun _ => true) _ 3
      ⟨Sample.entry, none⟩ Sample.shadowing_decided.children
  have outcome : result = _ := (congrArg (fun search => (StateT.run search []).1) comes).symm
  refine ⟨result, comes, restored, ?_⟩
  rw [outcome]
  decide +kernel

end CommandGrammar
