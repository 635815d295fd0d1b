import CommandGrammar.Grammar
import CommandGrammar.Proofs.Attaching
import CommandGrammar.Proofs.Bounds
import CommandGrammar.Proofs.Searching

/-!
# The node that a line selects

A line has a full path when some path through usable nodes takes it to its end, and it selects the
last node of the first of them. `Search.ofTries` reads this off the list of the tries, and a search
through the roots comes to exactly that (`Search.fromRoots_eq_ofTries`).

The theorem at the end says so without the list: of the full paths, the one with the least address is
run (`IsFirst`), on the arguments that its own tokens bind below its root, and nothing else is run. It
is stated for any host, so that running nothing else means that the line has no other effect.

A root that is declared as a command is a fixed word and binds nothing anyway. A root may be an argument
as well, of a builder that was made as a child of another one and registered by itself, and then what its
token reads is lost (`Grammar.execute_drops_root_argument`).
-/

set_option autoImplicit false

namespace CommandGrammar

open Text

variable {m : Type → Type} {κ ε : Type}

/-! ## Reading the result off the tries -/

/-- The failure that a path below a root ends in. That a root does not match is no failure. -/
def Path.failure? (path : Path m κ ε) : Option Failure :=
  if path.above.isEmpty then none else path.last.failure?

namespace Search

/-- What a search through the roots comes to, read off the tried paths: the first that takes the line
to its end, with the arguments bound below its root, and otherwise the deepest failure. -/
def ofTries (line : List Char) (trail : Trail) (paths : List (Path m κ ε)) : Search m κ ε :=
  match paths.find? (Path.endsLine line) with
  | some path => .found path.last.node (Attempt.bindAll path.attempts.tail trail.arguments)
  | none => .missed ((paths.filterMap Path.failure?).foldl Failure.deeper trail.deepest)

variable {line : List Char}

/-- A path that takes the line to its end decides the search. -/
theorem ofTries_cons_of_ends {path : Path m κ ε} (ends : path.endsLine line = true)
    (trail : Trail) (rest : List (Path m κ ε)) :
    ofTries line trail (path :: rest) =
      .found path.last.node (Attempt.bindAll path.attempts.tail trail.arguments) := by
  rw [ofTries, List.find?_cons_of_pos ends]

/-- A path that ends in a failure below its root leaves the failure. -/
theorem ofTries_cons_of_failure {path : Path m κ ε} {failure : Failure}
    (goes : ¬ path.endsLine line = true) (fails : path.failure? = some failure) (trail : Trail)
    (rest : List (Path m κ ε)) :
    ofTries line trail (path :: rest) = ofTries line (trail.fail failure) rest := by
  unfold ofTries
  rw [List.find?_cons_of_neg goes, List.filterMap_cons_some fails, List.foldl_cons]
  rfl

/-- Any other path leaves nothing. -/
theorem ofTries_cons_of_none {path : Path m κ ε} (goes : ¬ path.endsLine line = true)
    (fine : path.failure? = none) (trail : Trail) (rest : List (Path m κ ε)) :
    ofTries line trail (path :: rest) = ofTries line trail rest := by
  unfold ofTries
  rw [List.find?_cons_of_neg goes, List.filterMap_cons_none fine]

/-- Where the paths stand among their siblings does not matter. -/
theorem ofTries_map_later (trail : Trail) (paths : List (Path m κ ε)) :
    ofTries line trail (paths.map .later) = ofTries line trail paths := by
  unfold ofTries
  rw [List.find?_map, List.filterMap_map]
  show (match Option.map Path.later (paths.find? (Path.endsLine line)) with
    | some path => _
    | none => _) = _
  cases paths.find? (Path.endsLine line) with
  | none => rfl
  | some path => rfl

/-- The paths below a root decide the search as following them does. -/
theorem ofTries_map_under (trail : Trail) (attempt : Attempt m κ ε)
    (paths others : List (Path m κ ε)) :
    ofTries line trail (paths.map (.under 0 attempt) ++ others) =
      match trail.follow line paths with
      | (some last, inner) => .found last inner.arguments
      | (none, inner) => ofTries line inner others := by
  induction paths generalizing trail with
  | nil => rfl
  | cons path rest ih =>
    rw [List.map_cons, List.cons_append]
    by_cases ends : path.endsLine line = true
    · rw [Trail.follow_cons_of_ends ends, ofTries_cons_of_ends (by exact ends)]
      rfl
    · rw [Trail.follow_cons_of_not_ends ends, Trail.note]
      cases fails : path.last.failure? with
      | none => rw [ofTries_cons_of_none (by exact ends) (by exact fails), ih]
      | some failure => rw [ofTries_cons_of_failure (by exact ends) (by exact fails), ih]

/-! ## Searching through the roots -/

section Roots

variable [Monad m] [LawfulMonad m] {usable : Clause m κ ε → Bool} {sender : Sender m κ}
  {root : Node m κ ε} {rest : List (Node m κ ε)} {anyRoot : Bool} {trail : Trail}

/-- A root that may not be used is passed over. -/
theorem fromRoots_cons_of_hidden (answer : root.clause.allows sender = pure false) :
    fromRoots line sender (root :: rest) anyRoot trail =
      fromRoots line sender rest anyRoot trail := by
  rw [fromRoots, answer, pure_bind]
  rfl

/-- A root that does not match is passed over as well. -/
theorem fromRoots_cons_of_error {reason : ParseError}
    (answer : root.clause.allows sender = pure true)
    (fails : root.clause.pattern.consume line 0 = .error reason) :
    fromRoots line sender (root :: rest) anyRoot trail =
      fromRoots line sender rest anyRoot trail := by
  rw [fromRoots, answer, pure_bind, fails]
  rfl

/-- A root that matches is searched below, and counts as a root that matched from then on. -/
theorem fromRoots_cons_of_ok {stop : Nat} {parsed : Option Binding}
    (answer : root.clause.allows sender = pure true)
    (takes : root.clause.pattern.consume line 0 = .ok (stop, parsed)) :
    fromRoots line sender (root :: rest) anyRoot trail =
      below line sender root stop trail >>= fun result =>
        match result with
        | (some last, inner) => pure (.found last inner.arguments)
        | (none, inner) => fromRoots line sender rest true inner := by
  rw [fromRoots, answer, pure_bind, takes]
  rfl

/-- The search through the roots reads its result off the tries. As long as no root has matched there
is no failure, so that the deepest one need not be held back. -/
theorem fromRoots_eq_ofTries (roots : List (Node m κ ε)) (anyRoot : Bool) (trail : Trail)
    (decided : Decided sender usable roots) (clean : anyRoot = false → trail.deepest = none) :
    fromRoots line sender roots anyRoot trail =
      pure (ofTries line trail (tries line usable roots 0)) := by
  induction roots generalizing anyRoot trail with
  | nil =>
    cases anyRoot with
    | true => rfl
    | false =>
      have none_ : trail.deepest = none := clean rfl
      unfold fromRoots ofTries
      rw [none_]
      rfl
  | cons root rest ih =>
    have answer := decided.head
    rw [tries]
    cases use : usable root.clause with
    | false =>
      rw [use] at answer
      rw [fromRoots_cons_of_hidden answer, triesThrough_of_unusable use, List.nil_append,
        ofTries_map_later, ih anyRoot trail decided.tail clean]
    | true =>
      rw [use] at answer
      cases outcome : root.clause.pattern.consume line 0 with
      | error reason =>
        rw [fromRoots_cons_of_error answer outcome, ih anyRoot trail decided.tail clean,
          triesThrough_of_last use (by rw [Attempt.make_of_error outcome]; rfl),
          Attempt.make_of_error outcome, List.cons_append,
          ofTries_cons_of_none Path.not_endsLine_single rfl, List.nil_append, ofTries_map_later]
      | ok token =>
        obtain ⟨stop, parsed⟩ := token
        rw [fromRoots_cons_of_ok answer outcome, below_eq_follow root stop trail decided.children,
          pure_bind]
        rcases Nat.lt_or_ge stop (byteLength line) with inside | last
        · rw [if_neg (Nat.not_le.mpr inside),
            triesThrough_of_inside use
              (by rw [Attempt.make_of_ok outcome, Attempt.next?_of_lt inside]),
            Attempt.make_of_ok outcome, List.cons_append,
            ofTries_cons_of_none (mt Path.endsLine_single_iff.mp (Nat.not_le.mpr inside)) rfl,
            ofTries_map_under]
          cases trail.follow line (tries line usable root.children (stop + 1)) with
          | mk taken inner =>
            cases taken with
            | some last => rfl
            | none =>
              -- From here on a root has matched, and its failures may be told.
              dsimp only
              rw [ofTries_map_later]
              exact ih true inner decided.tail (fun unmatched => nomatch unmatched)
        · rw [if_pos last,
            triesThrough_of_last use
              (by rw [Attempt.make_of_ok outcome, Attempt.next?_of_le last]),
            Attempt.make_of_ok outcome, List.cons_append,
            ofTries_cons_of_ends (Path.endsLine_single_iff.mpr last)]
          rfl

end Roots

end Search

/-! ## The roots of declared commands -/

section Roots

variable {ν : Type}

/-- The roots of the grammar are fixed words. -/
def Grammar.LiteralRoots (grammar : Grammar m κ ε) : Prop :=
  ∀ root ∈ grammar.roots, root.clause.pattern.isLiteral = true

/-- There are no roots in the empty grammar. -/
theorem Grammar.literalRoots_empty : (Grammar.empty : Grammar m κ ε).LiteralRoots :=
  fun _ member => nomatch member

/-- Declaring a command adds a root that is a fixed word. -/
theorem Grammar.LiteralRoots.declare {grammar : Grammar m κ ε} (literal : grammar.LiteralRoots)
    (name : String) (body : List (Declaration m κ ε ν)) :
    (grammar.declare name body).LiteralRoots := by
  intro root member
  rcases List.mem_append.mp member with earlier | last
  · exact literal root earlier
  · rw [List.mem_singleton.mp last]
    show (Declaration.applyAll body _).builder.pattern.isLiteral = true
    rw [Declaration.pattern_applyAll]
    rfl

/-- So does declaring it under several names. -/
theorem Grammar.LiteralRoots.command {grammar : Grammar m κ ε} (literal : grammar.LiteralRoots)
    (name : String) (aliases : List String) (body : List (Declaration m κ ε ν)) :
    (grammar.command name aliases body).LiteralRoots := by
  unfold Grammar.command
  induction name :: aliases generalizing grammar with
  | nil => exact literal
  | cons label rest ih => exact ih (literal.declare label body)

end Roots

/-! ## Full paths -/

/-- A path through usable nodes that starts with a root at the start of the line and takes the line
to its end. -/
structure FullPath (line : List Char) (usable : Clause m κ ε → Bool) (roots : List (Node m κ ε))
    (path : Path m κ ε) : Prop where
  tried : Tried line usable roots 0 path
  ends : ∃ stop parsed, path.last.outcome = .ok (stop, parsed) ∧ byteLength line ≤ stop

/-- The first in the order of declaration of the paths that have a property. -/
structure IsFirst (holds : Path m κ ε → Prop) (path : Path m κ ε) : Prop where
  has : holds path
  first : ∀ other, holds other → other = path ∨ path.address < other.address

section FullPath

variable {line : List Char} {usable : Clause m κ ε → Bool} {roots : List (Node m κ ε)}

/-- The full paths are the listed ones that take the line to its end. -/
theorem fullPath_iff {path : Path m κ ε} :
    FullPath line usable roots path ↔
      path ∈ tries line usable roots 0 ∧ path.endsLine line = true := by
  constructor
  · intro full
    exact ⟨mem_tries.mpr full.tried, Attempt.endsLine_eq_true_iff.mpr full.ends⟩
  · rintro ⟨listed, ends⟩
    exact ⟨mem_tries.mp listed, Attempt.endsLine_eq_true_iff.mp ends⟩

/-- Of the paths of an ordered list that pass a test, the one that is found is the first. -/
theorem isFirst_of_find? {holds : Path m κ ε → Prop} {test : Path m κ ε → Bool}
    {paths : List (Path m κ ε)} {path : Path m κ ε}
    (ordered : paths.Pairwise fun first second => first.address < second.address)
    (listed : ∀ path, holds path ↔ path ∈ paths ∧ test path = true)
    (found : paths.find? test = some path) : IsFirst holds path := by
  obtain ⟨passes, before, after, split_, refused⟩ := List.find?_eq_some_iff_append.mp found
  subst split_
  refine ⟨(listed path).mpr ⟨List.mem_append_right _ List.mem_cons_self, passes⟩, ?_⟩
  intro other held
  obtain ⟨member, passes'⟩ := (listed other).mp held
  rcases List.mem_append.mp member with earlier | rest
  · have refused' := refused other earlier
    rw [passes'] at refused'
    cases refused'
  · rcases List.mem_cons.mp rest with same | later
    · exact .inl same
    · exact .inr (List.rel_of_pairwise_cons (List.pairwise_append.mp ordered).2.1 later)

/-- The path starts with a fixed word. -/
def Path.StartsFixed (path : Path m κ ε) : Prop :=
  ∀ root ∈ path.attempts.head?, root.node.clause.pattern.isLiteral = true

/-- Where all roots are fixed words, every full path starts with one. -/
theorem FullPath.startsFixed {path : Path m κ ε} (full : FullPath line usable roots path)
    (literal : ∀ root ∈ roots, root.clause.pattern.isLiteral = true) : path.StartsFixed := by
  obtain ⟨root, member, rest, atPath⟩ := full.tried.attempts_eq
  intro first isFirst
  rw [atPath] at isFirst
  cases isFirst
  exact literal root member

/-- Below a fixed word a full path binds what it binds as a whole. -/
theorem FullPath.deepest?_tail {path : Path m κ ε} (full : FullPath line usable roots path)
    (fixed : path.StartsFixed) (name : String) :
    Attempt.deepest? path.attempts.tail name = Attempt.deepest? path.attempts name := by
  obtain ⟨root, _, rest, atPath⟩ := full.tried.attempts_eq
  have literal : root.clause.pattern.isLiteral = true := fixed _ (by rw [atPath]; rfl)
  have silent := Attempt.parsed_make_of_isLiteral literal line 0
  rw [atPath, List.tail_cons, Attempt.deepest?_cons, silent, ite_self, Option.or_none]

end FullPath

namespace Search

variable {line : List Char} {usable : Clause m κ ε → Bool} {roots : List (Node m κ ε)} {trail : Trail}

/-- The tries select a node exactly when one of them is a full path. -/
theorem ofTries_found_iff :
    (∃ node arguments, ofTries line trail (tries line usable roots 0) = .found node arguments) ↔
      ∃ path, FullPath line usable roots path := by
  unfold ofTries
  cases found : (tries line usable roots 0).find? (Path.endsLine line) with
  | none =>
    have goes := List.find?_eq_none.mp found
    constructor
    · rintro ⟨_, _, same⟩
      cases same
    · rintro ⟨path, full⟩
      obtain ⟨listed, ends⟩ := fullPath_iff.mp full
      exact absurd ends (goes path listed)
  | some path =>
    have full := fullPath_iff.mpr ⟨List.mem_of_find?_eq_some found, List.find?_some found⟩
    exact ⟨fun _ => ⟨path, full⟩, fun _ => ⟨_, _, rfl⟩⟩

/-- The node that the tries select is the last of the first full path, and the arguments are those
that the path binds below its root. -/
theorem isFirst_of_ofTries {node : Node m κ ε} {arguments : Bindings}
    (selected : ofTries line trail (tries line usable roots 0) = .found node arguments) :
    ∃ path, IsFirst (FullPath line usable roots) path ∧ node = path.last.node ∧
      arguments = Attempt.bindAll path.attempts.tail trail.arguments := by
  unfold ofTries at selected
  cases found : (tries line usable roots 0).find? (Path.endsLine line) with
  | none =>
    rw [found] at selected
    cases selected
  | some path =>
    rw [found] at selected
    cases selected
    exact ⟨path, isFirst_of_find? (pairwise_tries roots 0) (fun _ => fullPath_iff) found, rfl, rfl⟩

end Search

/-- The error of a line that selects nothing, given the deepest failure of the search. -/
def DispatchError.ofMissed (input : String) : Option Failure → DispatchError
  | none => .unknownCommand input
  | some failure => .invalidSyntax failure.position failure.reason

/-- What comes of a search when its line is run: the chain of the node that was found, or the error that
tells why there is none. -/
def Search.run [Monad m] [DecidableEq κ] (input : String) (sender : Sender m κ) :
    Search m κ ε → m (Except DispatchError (Outcome m))
  | .missed deepest => pure (.error (.ofMissed input deepest))
  | .found node arguments =>
    match node.clause.chain with
    | none => pure (.error (.incompleteCommand input))
    | some chain => Except.mapError .execution <$> chain.run sender input arguments

/-! ## A root that is an argument -/

/-- Writes down what an invocation answers about a number. -/
def Sample.tellNumber (invocation : Invocation Sample.Journal Unit Empty) :
    Sample.Journal (Except CommandError Bool) := do
  match invocation.int "number" with
  | .ok number => modify (· ++ [showInt number])
  | .error error => modify (· ++ [error.message])
  return .ok true

/-- The builder of a number, made as a child of another builder. -/
def Sample.number : Draft Sample.Journal Unit Empty Empty :=
  { builder :=
      ((Builder.root "numbers").child (.argument "number" .anyInteger)).handle
        ⟨.anyone, 0, .direct Sample.tellNumber⟩
    detached := [], declared := 1, notes := [] }

/-- The number is registered by itself, so that the only root is an argument. -/
def Sample.numbers : Grammar Sample.Journal Unit Empty :=
  Grammar.empty.register Sample.number

/-! ## Running what is selected -/

namespace Grammar

variable [Monad m] [LawfulMonad m] {grammar : Grammar m κ ε} {input : String}
  {sender : Sender m κ} {usable : Clause m κ ε → Bool}

/-- What a line selects is read off the tried paths. -/
theorem select_eq_ofTries {line : List Char} (decided : Decided sender usable grammar.roots) :
    grammar.select line sender =
      pure (Search.ofTries line .empty (tries line usable grammar.roots 0)) :=
  Search.fromRoots_eq_ofTries grammar.roots false .empty decided fun _ => rfl

variable [DecidableEq κ]

/-- A line is run by what it selects. -/
theorem execute_eq_run : grammar.execute input sender =
    grammar.select input.toList sender >>= Search.run input sender := by
  unfold execute
  refine bind_congr fun search => ?_
  cases search with
  | missed deepest => cases deepest <;> rfl
  | found node arguments =>
    unfold Search.run
    dsimp only
    cases node.clause.chain with
    | none => rfl
    | some chain =>
      dsimp only
      rw [map_eq_pure_bind]
      refine bind_congr fun result => ?_
      cases result with
      | error error => rfl
      | ok outcome => rfl

/-- A line that selects a node runs the chain of that node, and no other. -/
theorem execute_of_found {node : Node m κ ε} {arguments : Bindings}
    (selects : grammar.select input.toList sender = pure (.found node arguments)) :
    grammar.execute input sender =
      match node.clause.chain with
      | none => pure (.error (.incompleteCommand input))
      | some chain => Except.mapError .execution <$> chain.run sender input arguments := by
  rw [execute_eq_run, selects, pure_bind]
  rfl

/-- A line that selects nothing runs nothing. -/
theorem execute_of_missed {deepest : Option Failure}
    (selects : grammar.select input.toList sender = pure (.missed deepest)) :
    grammar.execute input sender = pure (.error (.ofMissed input deepest)) := by
  rw [execute_eq_run, selects, pure_bind]
  rfl

/-! ## The line and its first full path -/

/-- What a search selects, and what comes of it when the line is run. -/
structure RunsFirstFullPath (grammar : Grammar m κ ε) (input : String) (sender : Sender m κ)
    (usable : Clause m κ ε → Bool) (selection : Search m κ ε) : Prop where
  /-- This is what the line selects, and finding it has no effect. -/
  selects : grammar.select input.toList sender = pure selection
  /-- A node is selected exactly when there is a full path. -/
  found_iff : (∃ node arguments, selection = .found node arguments) ↔
    ∃ path, FullPath input.toList usable grammar.roots path
  /-- Without a full path the line is refused and nothing is run. -/
  refused : ∀ deepest, selection = .missed deepest →
    grammar.execute input sender = pure (.error (.ofMissed input deepest))
  /-- The selected node is the last one of the first full path, which ends where the line ends. The
  arguments are those that the path binds below its root, and so all that it binds if it starts with a
  fixed word. The chain of the node is all that is run. -/
  runs : ∀ node arguments, selection = .found node arguments →
    ∃ path, IsFirst (FullPath input.toList usable grammar.roots) path ∧ node = path.last.node ∧
      (node.clause.pattern.KeepsLine →
        ∃ parsed, path.last.outcome = .ok (byteLength input.toList, parsed)) ∧
      (∀ name, arguments.lookup name = Attempt.deepest? path.attempts.tail name) ∧
      (path.StartsFixed → ∀ name, arguments.lookup name = Attempt.deepest? path.attempts name) ∧
      grammar.execute input sender =
        match node.clause.chain with
        | none => pure (.error (.incompleteCommand input))
        | some chain => Except.mapError .execution <$> chain.run sender input arguments

/-- A line runs the chain of the last node of its first full path, on the arguments of that path, and
no other chain, whatever comes of it; without a full path it runs none. -/
theorem execute_runs_first_full_path (decided : Decided sender usable grammar.roots) :
    ∃ selection, RunsFirstFullPath grammar input sender usable selection := by
  have selects : grammar.select input.toList sender = _ := select_eq_ofTries decided
  refine ⟨_, { selects, found_iff := Search.ofTries_found_iff, refused := ?_, runs := ?_ }⟩
  · intro deepest missed
    rw [missed] at selects
    exact execute_of_missed selects
  · intro node arguments found
    obtain ⟨path, first, rfl, rfl⟩ := Search.isFirst_of_ofTries found
    have full := first.has
    -- Nothing is bound before the roots are searched, so that only the path counts.
    have values : ∀ name, (Attempt.bindAll path.attempts.tail Trail.empty.arguments).lookup name =
        Attempt.deepest? path.attempts.tail name := fun name => by
      rw [Attempt.lookup_bindAll]
      exact Option.or_none
    rw [found] at selects
    refine ⟨path, first, rfl, ?_, values, ?_, execute_of_found selects⟩
    · exact full.tried.stop_eq (fullPath_iff.mp full).2
    · intro fixed name
      rw [values, full.deepest?_tail fixed]

/-- A guest's line goes back from a number that is none, passes the hidden nodes over, and runs the
chain of the note alone, although that chain claims nothing. -/
theorem execute_runs_first_full_path_note :
    Decided Sample.guest Sample.usable Sample.grammar.roots ∧
      (∃ selection, RunsFirstFullPath Sample.grammar "give ann 5x" Sample.guest Sample.usable
        selection) ∧
      ((Sample.grammar.execute "give ann 5x" Sample.guest).run []).2 = ["note"] :=
  ⟨Sample.decided, execute_runs_first_full_path Sample.decided, rfl⟩

/-- The arguments of a chain are not all that the first full path binds: the number that a root has read
is on the path, and is missing when the chain of this root is run. -/
theorem execute_drops_root_argument :
    ∃ path node arguments,
      IsFirst (FullPath "5".toList Sample.usable Sample.numbers.roots) path ∧
      Sample.numbers.select "5".toList Sample.guest = pure (.found node arguments) ∧
      node = path.last.node ∧
      Attempt.deepest? path.attempts "number" = some ⟨0, 1, .int 5⟩ ∧
      arguments.lookup "number" = none ∧
      ((Sample.numbers.execute "5" Sample.guest).run []).2 =
        ["Required command argument 'number' is missing or failed to map"] := by
  have found : (tries "5".toList Sample.usable Sample.numbers.roots 0).find?
      (Path.endsLine "5".toList) =
        some (.single 0 (.make "5".toList Sample.number.builder.build 0)) := rfl
  exact ⟨_, _, [], isFirst_of_find? (pairwise_tries _ 0) (fun _ => fullPath_iff) found, rfl, rfl, rfl,
    rfl, rfl⟩

end Grammar

end CommandGrammar
