import CommandGrammar.Proofs.Selection

/-!
# The path that a search takes

A requirement is a callback of the host: it may print something, and it may answer otherwise the next
time it is asked. Whatever it does, a search that comes to a node has taken a path to it, and hands on
the arguments that the tokens of this path bind, laid over those it started with. Branches that it has
tried before and left again have no part in them: a branch that ends in nothing leaves the arguments as
they were when it was entered.

`Yields` says of a computation that whatever it comes to has a property, and the searches are gone through
as they are written. Where the requirements are functions of the sender, the path that is taken is the
first full path (`CommandGrammar.Proofs.Selection`); here nothing is asked of them.
-/

set_option autoImplicit false

namespace CommandGrammar

open Text

variable {m : Type → Type} {κ ε α β : Type}

/-- Whatever the computation comes to has the property. -/
def Yields [Monad m] (good : α → Prop) (plain : m α) : Prop :=
  ∃ run : m { value : α // good value }, plain = Subtype.val <$> run

namespace Yields

variable [Monad m] [LawfulMonad m] {good good' : α → Prop} {plain : m α}

/-- A value has its properties. -/
theorem pure_ {value : α} (good_ : good value) : Yields good (pure value : m α) :=
  ⟨pure ⟨value, good_⟩, by rw [map_pure]⟩

/-- Of the effects of the host nothing is known. -/
theorem effect (plain : m α) : Yields (fun _ => True) plain :=
  ⟨(fun value => ⟨value, trivial⟩) <$> plain, by simp⟩

/-- What follows a computation may count on what that gives. -/
theorem bind {next : α → m β} {after : β → Prop} (first : Yields good plain)
    (second : ∀ value, good value → Yields after (next value)) : Yields after (plain >>= next) := by
  obtain ⟨run, rfl⟩ := first
  choose rest same using second
  refine ⟨run >>= fun value => rest value.1 value.2, ?_⟩
  rw [bind_map_left, map_bind]
  exact bind_congr fun value => same value.1 value.2

/-- Less may be said. -/
theorem imp (gives : Yields good plain) (less : ∀ value, good value → good' value) :
    Yields good' plain := by
  obtain ⟨run, rfl⟩ := gives
  exact ⟨(fun value => ⟨value.1, less _ value.2⟩) <$> run, by simp⟩

end Yields

variable {line : List Char}

/-- What a search among nodes comes to: a node at the end of a path that takes the line to its end, with
the values of its tokens bound, or nothing, and then nothing is bound. -/
def Search.Took (line : List Char) (nodes : List (Node m κ ε)) (start : Nat) (arguments : Bindings) :
    Option (Node m κ ε) × Trail → Prop
  | (some last, trail) =>
    ∃ path, Tried line (fun _ => true) nodes start path ∧ path.endsLine line = true ∧
      path.last.node = last ∧ trail.arguments = Attempt.bindAll path.attempts arguments
  | (none, trail) => trail.arguments = arguments

namespace Search.Took

variable {node : Node m κ ε} {rest : List (Node m κ ε)} {start stop : Nat} {arguments : Bindings}
  {parsed : Option Binding} {result : Option (Node m κ ε) × Trail}

/-- A path among the later siblings is one among all of them. -/
theorem later (took : Took line rest start arguments result) :
    Took line (node :: rest) start arguments result := by
  obtain ⟨taken, trail⟩ := result
  cases taken with
  | none => exact took
  | some last =>
    obtain ⟨path, tried, ends, same, bound⟩ := took
    exact ⟨path.later, tried.later, ends, same, bound⟩

/-- A node that takes the line to its end is the end of a path. -/
theorem here (takes : node.clause.pattern.consume line start = .ok (stop, parsed))
    (last : byteLength line ≤ stop) {trail : Trail} :
    Took line (node :: rest) start trail.arguments
      (some node, trail.bind node.clause.pattern parsed) := by
  refine ⟨.single 0 (.make line node start), .here rfl rfl, ?_, rfl, ?_⟩
  · rw [Attempt.make_of_ok takes]
    exact Path.endsLine_single_iff.mpr last
  · rw [Attempt.make_of_ok takes]
    rfl

/-- A path among the children of a node goes on from the node. -/
theorem under {last : Node m κ ε} {trail : Trail}
    (takes : node.clause.pattern.consume line start = .ok (stop, parsed))
    (inside : stop < byteLength line)
    (took : Took line node.children (stop + 1) (node.clause.pattern.bind parsed arguments)
      (some last, trail)) :
    Took line (node :: rest) start arguments (some last, trail) := by
  obtain ⟨path, tried, ends, same, bound⟩ := took
  refine ⟨path.under 0 (.make line node start), .deeper rfl rfl takes inside tried, ends, same, ?_⟩
  rw [Attempt.make_of_ok takes]
  exact bound

end Search.Took

section Search

variable [Monad m] [LawfulMonad m] {sender : Sender m κ}

mutual

/-- Below a node that ends before the line does, a search takes a path among its children; at the end of
the line it takes the node itself. -/
theorem below_took : ∀ (node : Node m κ ε) (stop : Nat) (trail : Trail),
    Yields (fun result =>
        if byteLength line ≤ stop then result = (some node, trail)
        else Search.Took line node.children (stop + 1) trail.arguments result)
      (Search.below line sender node stop trail)
  | .mk clause children, stop, trail => by
    unfold Search.below
    split
    next => exact .pure_ rfl
    next => exact among_took children (stop + 1) trail

/-- Among some nodes, a search takes a path through one of them. -/
theorem among_took : ∀ (nodes : List (Node m κ ε)) (start : Nat) (trail : Trail),
    Yields (Search.Took line nodes start trail.arguments) (Search.among line sender nodes start trail)
  | [], _, _ => by
    unfold Search.among
    exact .pure_ rfl
  | .mk clause children :: rest, start, trail => by
    have behind : ∀ after : Trail, after.arguments = trail.arguments →
        Yields (Search.Took line (.mk clause children :: rest) start trail.arguments)
          (Search.among line sender rest start after) := by
      intro after same
      refine (among_took rest start after).imp fun result took => ?_
      rw [same] at took
      exact took.later
    unfold Search.among
    refine (Yields.effect _).bind fun allowed _ => ?_
    cases allowed with
    | false => exact behind trail rfl
    | true =>
      rw [if_pos rfl]
      cases outcome : clause.pattern.consume line start with
      | error reason => exact behind (trail.fail ⟨start, reason⟩) rfl
      | ok token =>
        obtain ⟨stop, parsed⟩ := token
        refine (below_took (.mk clause children) stop (trail.bind clause.pattern parsed)).bind ?_
        rintro ⟨taken, inner⟩ took
        by_cases last : byteLength line ≤ stop
        · rw [if_pos last] at took
          cases took
          replace outcome : (Node.mk clause children).clause.pattern.consume line start = _ := outcome
          exact .pure_ (Search.Took.here outcome last)
        · rw [if_neg last] at took
          cases taken with
          | some found => exact .pure_ (Search.Took.under outcome (Nat.not_le.mp last) took)
          | none =>
            -- The branch has ended in nothing, and what it was entered with is taken back.
            refine behind _ ?_
            have bound : inner.arguments = clause.pattern.bind parsed trail.arguments := took
            show clause.pattern.unbind parsed _ inner.arguments = trail.arguments
            rw [bound, Pattern.unbind_bind]

end

/-- What a search through the roots selects is the end of a path that takes the line to its end, with the
values bound that the tokens below the root have. -/
def Search.TookPath (line : List Char) (roots : List (Node m κ ε)) (arguments : Bindings)
    (search : Search m κ ε) : Prop :=
  ∀ node bound, search = .found node bound →
    ∃ path, Tried line (fun _ => true) roots 0 path ∧ path.endsLine line = true ∧
      path.last.node = node ∧ bound = Attempt.bindAll path.attempts.tail arguments

/-- A search through the roots that selects a node has taken a path to it. -/
theorem fromRoots_took (roots : List (Node m κ ε)) (anyRoot : Bool) (trail : Trail) :
    Yields (Search.TookPath line roots trail.arguments)
      (Search.fromRoots line sender roots anyRoot trail) := by
  induction roots generalizing anyRoot trail with
  | nil =>
    unfold Search.fromRoots
    refine .pure_ ?_
    rintro node bound ⟨⟩
  | cons root rest ih =>
    have behind : ∀ anyRoot' (after : Trail), after.arguments = trail.arguments →
        Yields (Search.TookPath line (root :: rest) trail.arguments)
          (Search.fromRoots line sender rest anyRoot' after) := by
      intro anyRoot' after same
      refine (ih anyRoot' after).imp fun search took node bound found => ?_
      obtain ⟨path, tried, ends, last, bound_⟩ := took node bound found
      rw [same] at bound_
      exact ⟨path.later, tried.later, ends, last, bound_⟩
    unfold Search.fromRoots
    refine (Yields.effect _).bind fun allowed _ => ?_
    cases allowed with
    | false => exact behind anyRoot trail rfl
    | true =>
      rw [if_pos rfl]
      cases outcome : root.clause.pattern.consume line 0 with
      | error reason => exact behind anyRoot trail rfl
      | ok token =>
        obtain ⟨stop, parsed⟩ := token
        refine (below_took root stop trail).bind ?_
        rintro ⟨taken, inner⟩ took
        by_cases last : byteLength line ≤ stop
        · rw [if_pos last] at took
          cases took
          refine .pure_ ?_
          rintro node bound ⟨⟩
          refine ⟨.single 0 (.make line root 0), .here rfl rfl, ?_, rfl, rfl⟩
          rw [Attempt.make_of_ok outcome]
          exact Path.endsLine_single_iff.mpr last
        · rw [if_neg last] at took
          cases taken with
          | none => exact behind true inner took
          | some found =>
            refine .pure_ ?_
            rintro node bound ⟨⟩
            obtain ⟨path, tried, ends, same, bound_⟩ := took
            exact ⟨path.under 0 (.make line root 0),
              .deeper rfl rfl outcome (Nat.not_le.mp last) tried, ends, same, bound_⟩

/-- A line that selects a node has a path to it, and selects it with what this path binds. -/
theorem Grammar.select_took (grammar : Grammar m κ ε) (line : List Char) (sender : Sender m κ) :
    Yields (Search.TookPath line grammar.roots []) (grammar.select line sender) :=
  fromRoots_took grammar.roots false .empty

end Search

end CommandGrammar
