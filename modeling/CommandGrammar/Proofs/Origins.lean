import CommandGrammar.Proofs.Noting
import CommandGrammar.Proofs.Selection

/-!
# Where arguments and failures come from

A search and a walk try nodes at the ends of paths that the line has, if every node counts as one that
may be used (`Attempted`). Every argument that they bind was parsed by one of these attempts, and so was
every argument that is handed on: to the chain of the selected node, and in the questions that are put to
the nodes asked. The failure that an error tells of is that of an attempt below a root.

The statements are about the walkers with notes (`Grammar.select_notes`, `Grammar.complete_notes`), and
they suppose nothing of the host. One induction over the forest carries each of them. Its invariant is
that what is at hand comes from attempts made so far; bindings that are taken back bring back others that
were at hand before.
-/

set_option autoImplicit false

namespace CommandGrammar

open Text

variable {m : Type → Type} {κ ε : Type}

/-! ## What comes from attempts -/

section From

variable (made : Attempt m κ ε → Prop)

/-- One of the attempts has parsed the binding. -/
def Binding.From (binding : Binding) : Prop :=
  ∃ attempt, made attempt ∧ attempt.parsed = some binding

/-- One of the attempts has failed in this way. -/
def Failure.From (failure : Failure) : Prop :=
  ∃ attempt, made attempt ∧ attempt.failure? = some failure

/-- All of the arguments were parsed by the attempts. -/
def Bindings.From (arguments : Bindings) : Prop :=
  ∀ name binding, arguments.lookup name = some binding → binding.From made

/-- All that a trail holds comes from the attempts. -/
structure Trail.From (trail : Trail) : Prop where
  arguments : Bindings.From made trail.arguments
  deepest : ∀ failure, trail.deepest = some failure → failure.From made

/-- What a search comes to is made of what the attempts gave. -/
def Search.From : Search m κ ε → Prop
  | .found _ arguments => Bindings.From made arguments
  | .missed deepest => ∀ failure, deepest = some failure → failure.From made

/-- A note tells of one of the attempts, or of a question about a token that one of them was made at and
about arguments that they parsed. -/
def Event.From : Event m κ ε → Prop
  | .tries attempt => made attempt
  | .asks query =>
    Bindings.From made query.invocation.arguments ∧
      ∃ attempt, made attempt ∧ query.start = attempt.start

end From

variable {made lower : Attempt m κ ε → Prop} {arguments : Bindings} {pattern : Pattern}
  {parsed shadowed : Option Binding}

/-- Nothing is bound before the first attempt. -/
theorem Bindings.from_nil : Bindings.From made [] :=
  fun _ _ found => nomatch found

/-- Binding a value that was parsed adds an argument that was parsed. -/
theorem Bindings.From.bind (from_ : Bindings.From made arguments)
    (own : ∀ binding, parsed = some binding → binding.From made) :
    Bindings.From made (pattern.bind parsed arguments) := by
  intro name binding found
  rw [Pattern.lookup_bind] at found
  rcases Option.or_eq_some_iff.mp found with here | ⟨_, earlier⟩
  · split at here
    · exact own binding here
    · cases here
  · exact from_ name binding earlier

/-- Taking a binding back leaves arguments that were parsed, if what it shadowed was. -/
theorem Bindings.From.unbind (from_ : Bindings.From made arguments)
    (earlier : ∀ binding, shadowed = some binding → binding.From made) :
    Bindings.From made (pattern.unbind parsed shadowed arguments) := by
  intro name binding found
  cases parsed with
  | none => exact from_ name binding found
  | some own =>
    cases shadowed with
    | none =>
      rw [Pattern.unbind, Assoc.lookup_erase] at found
      split at found
      · cases found
      · exact from_ name binding found
    | some held =>
      rw [Pattern.unbind, Assoc.lookup_put] at found
      split at found
      · exact earlier binding found
      · exact from_ name binding found

theorem Trail.from_empty : Trail.empty.From made where
  arguments := Bindings.from_nil
  deepest := fun _ none_ => nomatch none_

/-- A failure that is noted is the deepest, or the one before it still is. -/
theorem Trail.From.fail {trail : Trail} {failure : Failure} (from_ : trail.From made)
    (own : failure.From made) : (trail.fail failure).From made where
  arguments := from_.arguments
  deepest := by
    intro kept same
    change Failure.deeper trail.deepest failure = some kept at same
    unfold Failure.deeper at same
    split at same
    next => exact Option.some.inj same ▸ own
    next before earlier =>
      split at same
      · exact Option.some.inj same ▸ own
      · exact from_.deepest kept (earlier.trans same)

/-! ## The attempts of a line -/

variable {line : List Char}

/-- The attempt is the last one of a path that the line has if every node counts as one that may be used.
-/
def Attempted (line : List Char) (roots : List (Node m κ ε)) (attempt : Attempt m κ ε) : Prop :=
  ∃ path, Tried line (fun _ => true) roots 0 path ∧ path.last = attempt

/-- The attempt is one of these, and made below a root. -/
def AttemptedBelow (line : List Char) (roots : List (Node m κ ε)) (attempt : Attempt m κ ε) : Prop :=
  ∃ path, Tried line (fun _ => true) roots 0 path ∧ path.above ≠ [] ∧ path.last = attempt

/-- The value of an attempt that matches was parsed by it. -/
theorem Attempt.binding_from {node : Node m κ ε} {start stop : Nat} (own : made (.make line node start))
    (takes : node.clause.pattern.consume line start = .ok (stop, parsed)) (binding : Binding)
    (same : parsed = some binding) : binding.From made := by
  refine ⟨_, own, ?_⟩
  rw [Attempt.make_of_ok takes]
  exact same

/-- The failure of an attempt that does not match is its own. -/
theorem Attempt.failure_from {node : Node m κ ε} {start : Nat} {reason : ParseError}
    (own : made (.make line node start))
    (fails : node.clause.pattern.consume line start = .error reason) :
    Failure.From made ⟨start, reason⟩ := by
  refine ⟨_, own, ?_⟩
  rw [Attempt.make_of_error fails]
  rfl

/-- The attempts at the ends of the paths through some nodes. -/
def MadeAmong (made : Attempt m κ ε → Prop) (line : List Char) (nodes : List (Node m κ ε))
    (start : Nat) : Prop :=
  ∀ path, Tried line (fun _ => true) nodes start path → made path.last

namespace MadeAmong

variable {node : Node m κ ε} {rest : List (Node m κ ε)} {start stop : Nat}

theorem head (among : MadeAmong made line (node :: rest) start) : made (.make line node start) :=
  among (.single 0 (.make line node start)) (.here rfl rfl)

theorem tail (among : MadeAmong made line (node :: rest) start) : MadeAmong made line rest start :=
  fun path tried => among path.later tried.later

theorem children (among : MadeAmong made line (node :: rest) start)
    (takes : node.clause.pattern.consume line start = .ok (stop, parsed))
    (inside : stop < byteLength line) : MadeAmong made line node.children (stop + 1) :=
  fun path tried =>
    among (path.under 0 (.make line node start)) (.deeper rfl rfl takes inside tried)

end MadeAmong

/-! ## A search and its notes -/

section Search

variable [Monad m] [LawfulMonad m] {sender : Sender m κ}

mutual

/-- Below a node, all that a search tries, binds and keeps comes from attempts at its children. -/
theorem below_notes : ∀ (node : Node m κ ε) (stop : Nat) (trail : Trail),
    (stop < byteLength line → MadeAmong made line node.children (stop + 1)) → trail.From made →
    Notes (Event.From made) (fun result => result.2.From made)
      (Search.below line sender node stop trail) (Search.belowNoting line sender node stop trail)
  | .mk clause children, stop, trail, among, from_ => by
    unfold Search.below Search.belowNoting
    split
    next => exact .pure_ from_
    next inside =>
      exact among_notes children (stop + 1) trail (among (Nat.not_le.mp inside)) from_

/-- Among some nodes, all that a search tries, binds and keeps comes from attempts at them and below
them. -/
theorem among_notes : ∀ (nodes : List (Node m κ ε)) (start : Nat) (trail : Trail),
    MadeAmong made line nodes start → trail.From made →
    Notes (Event.From made) (fun result => result.2.From made)
      (Search.among line sender nodes start trail) (Search.amongNoting line sender nodes start trail)
  | [], _, trail, _, from_ => by
    unfold Search.among Search.amongNoting
    exact .pure_ from_
  | .mk clause children :: rest, start, trail, among, from_ => by
    have behind := fun trail => among_notes rest start trail among.tail
    have own := among.head
    unfold Search.among Search.amongNoting
    refine (Notes.lift _).bind fun allowed _ => ?_
    cases allowed with
    | false => exact behind trail from_
    | true =>
      refine .after_note own ?_
      cases outcome : clause.pattern.consume line start with
      | error reason => exact behind _ (from_.fail (Attempt.failure_from own outcome))
      | ok token =>
        obtain ⟨stop, parsed⟩ := token
        have bound : (trail.bind clause.pattern parsed).From made :=
          ⟨from_.arguments.bind (Attempt.binding_from own outcome), from_.deepest⟩
        refine (below_notes (.mk clause children) stop _ (among.children outcome) bound).bind ?_
        rintro ⟨taken, inner⟩ (inner_ : inner.From made)
        cases taken with
        | some last => exact .pure_ inner_
        | none =>
          refine behind _ ⟨inner_.arguments.unbind ?_, inner_.deepest⟩
          exact fun binding held => from_.arguments _ binding held

end

/-- What a search through the roots tries comes from attempts at them and below them, and what it comes
to from attempts below them. -/
theorem fromRoots_notes (includes : ∀ attempt, lower attempt → made attempt) :
    ∀ (roots : List (Node m κ ε)) (anyRoot : Bool) (trail : Trail), MadeAmong made line roots 0 →
      (∀ path, Tried line (fun _ => true) roots 0 path → path.above ≠ [] → lower path.last) →
      trail.From lower →
      Notes (Event.From made) (Search.From lower) (Search.fromRoots line sender roots anyRoot trail)
        (Search.fromRootsNoting line sender roots anyRoot trail) := by
  have widen : ∀ event : Event m κ ε, event.From lower → event.From made := by
    intro event low
    cases event with
    | tries attempt => exact includes attempt low
    | asks query =>
      obtain ⟨arguments, attempt, low, starts⟩ := low
      refine ⟨fun name binding found => ?_, attempt, includes attempt low, starts⟩
      obtain ⟨attempt, low, parsed⟩ := arguments name binding found
      exact ⟨attempt, includes attempt low, parsed⟩
  intro roots
  induction roots with
  | nil =>
    intro anyRoot trail _ _ from_
    unfold Search.fromRoots Search.fromRootsNoting
    refine .pure_ fun failure kept => ?_
    cases anyRoot with
    | true => exact from_.deepest failure kept
    | false => cases kept
  | cons root rest ih =>
    intro anyRoot trail among under from_
    have behind := fun anyRoot trail => ih anyRoot trail among.tail fun path tried above =>
      under path.later tried.later above
    unfold Search.fromRoots Search.fromRootsNoting
    refine (Notes.lift _).bind fun allowed _ => ?_
    cases allowed with
    | false => exact behind anyRoot trail from_
    | true =>
      refine .after_note among.head ?_
      cases outcome : root.clause.pattern.consume line 0 with
      | error reason => exact behind anyRoot trail from_
      | ok token =>
        obtain ⟨stop, parsed⟩ := token
        have inner : stop < byteLength line → MadeAmong lower line root.children (stop + 1) :=
          fun inside path tried => under (path.under 0 (.make line root 0))
            (.deeper rfl rfl outcome inside tried) (List.cons_ne_nil _ _)
        refine ((below_notes root stop trail inner from_).imp widen fun _ => id).bind ?_
        rintro ⟨taken, trail⟩ (from_ : trail.From lower)
        cases taken with
        | some last => exact .pure_ from_.arguments
        | none => exact behind true trail from_

/-- All that a grammar tries in order to select a node is attempted, and what it selects the node with,
or misses one with, comes from below the roots. -/
theorem Grammar.select_notes (grammar : Grammar m κ ε) (line : List Char) (sender : Sender m κ) :
    Notes (Event.From (Attempted line grammar.roots)) (Search.From (AttemptedBelow line grammar.roots))
      (grammar.select line sender) (grammar.selectNoting line sender) :=
  fromRoots_notes (fun _ ⟨path, tried, _, last⟩ => ⟨path, tried, last⟩) grammar.roots false .empty
    (fun path tried => ⟨path, tried, rfl⟩) (fun path tried above => ⟨path, tried, above, rfl⟩)
    Trail.from_empty

/-- Where the error of a line tells of a failure, it is that of an attempt below a root. -/
def Blames (line : List Char) (roots : List (Node m κ ε)) (result : Except DispatchError (Outcome m)) :
    Prop :=
  ∀ position reason, result = .error (.invalidSyntax position reason) →
    Failure.From (AttemptedBelow line roots) ⟨position, reason⟩

/-- What comes of a search blames only what the search does. A handler has no way to blame the line: what
it fails with is told as such. -/
theorem Search.From.blames [DecidableEq κ] {search : Search m κ ε} {roots : List (Node m κ ε)}
    (from_ : search.From (AttemptedBelow line roots)) (input : String) (sender : Sender m κ) :
    ∃ answer : m { result : Except DispatchError (Outcome m) // Blames line roots result },
      search.run input sender = Subtype.val <$> answer := by
  cases search with
  | missed deepest =>
    refine ⟨pure ⟨.error (.ofMissed input deepest), ?_⟩, by rw [map_pure]; rfl⟩
    cases deepest with
    | none => exact nofun
    | some failure =>
      rintro position reason ⟨⟩
      exact from_ failure rfl
  | found node arguments =>
    unfold Search.run
    dsimp only
    cases node.clause.chain with
    | none => exact ⟨pure ⟨.error (.incompleteCommand input), nofun⟩, by rw [map_pure]⟩
    | some chain =>
      refine ⟨(fun result => ⟨Except.mapError .execution result, ?_⟩) <$>
        chain.run sender input arguments, by rw [Functor.map_map]⟩
      cases result with
      | error error => exact nofun
      | ok outcome => exact nofun

/-- Whatever running a line answers, it blames no failure but those of the attempts below the roots. -/
theorem Grammar.execute_blames [DecidableEq κ] (grammar : Grammar m κ ε) (input : String)
    (sender : Sender m κ) :
    ∃ answer : m { result : Except DispatchError (Outcome m) //
        Blames input.toList grammar.roots result },
      grammar.execute input sender = Subtype.val <$> answer := by
  obtain ⟨run, selects, -⟩ := grammar.select_notes input.toList sender
  choose answer same using fun search : { search : Search m κ ε //
      search.From (AttemptedBelow input.toList grammar.roots) } => search.2.blames input sender
  refine ⟨run >>= fun noted => answer ⟨noted.1.1, noted.2.1⟩, ?_⟩
  rw [execute_eq_run, selects, bind_map_left, map_bind]
  exact bind_congr fun noted => same ⟨noted.1.1, noted.2.1⟩

end Search

/-! ## A walk and its notes -/

section Walk

variable {α : Type} [Monad m] {sender : Sender m κ}

/-- A visit is noted with what it is about. -/
theorem visit_notes [LawfulMonad m] (sender : Sender m κ)
    (visit : Clause m κ ε → Completion.Query m κ ε → m α) {node : Node m κ ε} {start : Nat}
    {arguments : Bindings} (own : made (.make line node start))
    (from_ : Bindings.From made arguments) :
    Notes (Event.From made) (fun _ => True)
      (visit node.clause (Offers.query line sender node.clause start arguments))
      (Offers.visitNoting visit node.clause
        (Offers.query line sender node.clause start arguments)) :=
  .after_note ⟨from_, _, own, rfl⟩ (.lift _)

variable {visit : Clause m κ ε → Completion.Query m κ ε → m α}

mutual

/-- Below a node, all that a walk tries and asks about comes from attempts at its children. -/
theorem walkBelow_notes [LawfulMonad m] : ∀ (node : Node m κ ε) (start : Nat)
    (arguments : Bindings),
    MadeAmong made line node.children start → Bindings.From made arguments →
    Notes (Event.From made) (fun result => Bindings.From made result.2)
      (Offers.walkBelow line sender visit node start arguments)
      (Offers.walkBelowNoting line sender visit node start arguments)
  | .mk clause children, start, arguments, among, from_ => by
    unfold Offers.walkBelow Offers.walkBelowNoting
    exact walk_notes children start arguments among from_

/-- Among some nodes, all that a walk tries and asks about comes from attempts at them and below them.
-/
theorem walk_notes [LawfulMonad m] : ∀ (nodes : List (Node m κ ε)) (start : Nat)
    (arguments : Bindings),
    MadeAmong made line nodes start → Bindings.From made arguments →
    Notes (Event.From made) (fun result => Bindings.From made result.2)
      (Offers.walk line sender visit nodes start arguments)
      (Offers.walkNoting line sender visit nodes start arguments)
  | [], _, _, _, from_ => by
    unfold Offers.walk Offers.walkNoting
    exact .pure_ from_
  | .mk clause children :: rest, start, arguments, among, from_ => by
    have behind := fun inner => walk_notes rest start inner among.tail
    have own := among.head
    -- A node that is visited leaves the arguments as they are to those behind it.
    have visited : Notes (Event.From made)
        (fun result : List α × Bindings => Bindings.From made result.2) _ _ :=
      (visit_notes sender visit own from_).bind fun here _ =>
        (behind arguments from_).bind fun after after_ =>
          .pure_ (show Bindings.From made (here :: after.1, after.2).2 from after_)
    unfold Offers.walk Offers.walkNoting
    refine (Notes.lift _).bind fun allowed _ => ?_
    cases allowed with
    | false => exact behind arguments from_
    | true =>
      rw [if_pos rfl, if_pos rfl]
      refine .after_note own ?_
      cases outcome : clause.pattern.consume line start with
      | error reason =>
        dsimp only
        by_cases long : (Offers.remaining line start).contains ' ' = true
        · rw [if_pos long, if_pos long]
          exact behind arguments from_
        · rw [if_neg long, if_neg long]
          exact visited
      | ok token =>
        obtain ⟨stop, parsed⟩ := token
        dsimp only
        by_cases inside : stop < byteLength line
        · rw [if_pos inside, if_pos inside]
          have bound : Bindings.From made (clause.pattern.bind parsed arguments) :=
            from_.bind (Attempt.binding_from own outcome)
          refine (walkBelow_notes (.mk clause children) (stop + 1) _
            (among.children outcome inside) bound).bind fun below below_ => ?_
          refine (behind _ (below_.unbind fun binding held => from_ _ binding held)).bind ?_
          exact fun after after_ => .pure_ after_
        · rw [if_neg inside, if_neg inside]
          exact visited

end

/-- All that a grammar tries in order to complete a line is attempted, and all that it asks is about
arguments that were parsed there. -/
theorem Grammar.complete_notes [LawfulMonad m] (grammar : Grammar m κ ε) (input : String)
    (sender : Sender m κ) :
    Notes (Event.From (Attempted input.toList grammar.roots)) (fun _ => True)
      (grammar.complete input sender) (grammar.completeNoting input sender) :=
  (walk_notes grammar.roots 0 [] (fun path tried => ⟨path, tried, rfl⟩) Bindings.from_nil).bind
    fun _ _ => .pure_ trivial

end Walk

end CommandGrammar
