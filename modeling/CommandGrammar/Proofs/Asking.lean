import CommandGrammar.Proofs.Selection

/-!
# The nodes that a line asks for completions

Of all the paths that a line has, a completion asks the last node of those that could take the last
token: it matches up to the end of the line, or it does not match and there is no space behind its
start. `Path.isAsked` tests for that, and the walk asks the last nodes of exactly these paths, one
after the other in the order of the addresses (`walk_eq_visits`). What a node is asked about is read
off its path as well: the arguments are those that the nodes above it bind (`Path.query`).

The walk hands one list of bindings from branch to branch. It gives the list back as it was given it,
and that is why no branch sees what another has bound.
-/

set_option autoImplicit false

namespace CommandGrammar

open Text

variable {m : Type → Type} {κ ε α : Type}

/-- Whether the last node of a path could take the last token of the line. -/
def Path.isAsked (line : List Char) (path : Path m κ ε) : Bool :=
  match path.last.outcome with
  | .ok (stop, _) => byteLength line ≤ stop
  | .error _ => !(Offers.remaining line path.last.start).contains ' '

/-- The question put to the last node of a path, given the arguments bound above the path. -/
def Path.query [Monad m] (line : List Char) (sender : Sender m κ) (arguments : Bindings)
    (path : Path m κ ε) : Completion.Query m κ ε :=
  Offers.query line sender path.last.node.clause path.last.start
    (Attempt.bindAll path.above arguments)

namespace Path

variable {line : List Char} {path : Path m κ ε}

/-- A path is asked when it takes the line to its end, or fails at its last token. -/
theorem isAsked_iff :
    path.isAsked line = true ↔
      (∃ stop parsed, path.last.outcome = .ok (stop, parsed) ∧ byteLength line ≤ stop) ∨
        (∃ reason, path.last.outcome = .error reason) ∧
          ' ' ∉ Offers.remaining line path.last.start := by
  unfold isAsked
  cases outcome : path.last.outcome with
  | error reason => simp
  | ok token =>
    obtain ⟨stop, parsed⟩ := token
    simp

/-- A path that takes the line to its end is asked. -/
theorem isAsked_of_endsLine (ends : path.endsLine line = true) : path.isAsked line = true :=
  isAsked_iff.mpr (.inl (Attempt.endsLine_eq_true_iff.mp ends))

/-- Below a node that could take the last token nothing is tried. -/
theorem next?_of_isAsked {position : Nat} {attempt : Attempt m κ ε}
    (asked : (single position attempt).isAsked line = true) : attempt.next? line = none := by
  rcases isAsked_iff.mp asked with ⟨stop, parsed, takes, last⟩ | ⟨⟨reason, fails⟩, _⟩
  · have takes' : attempt.outcome = .ok (stop, parsed) := takes
    rw [Attempt.next?, takes']
    exact if_neg (Nat.not_lt.mpr last)
  · have fails' : attempt.outcome = .error reason := fails
    rw [Attempt.next?, fails']

end Path

namespace Offers

variable [Monad m] {line : List Char} {sender : Sender m κ}
  {visit : Clause m κ ε → Completion.Query m κ ε → m α}

/-- Visits the last nodes of the paths that are asked, one after the other. -/
def visits (line : List Char) (sender : Sender m κ)
    (visit : Clause m κ ε → Completion.Query m κ ε → m α) (arguments : Bindings)
    (paths : List (Path m κ ε)) : m (List α) :=
  (paths.filter (Path.isAsked line)).mapM fun path =>
    visit path.last.node.clause (path.query line sender arguments)

section Visits

variable {arguments : Bindings} {path : Path m κ ε} {paths others : List (Path m κ ε)}

/-- Where there is no path nothing is visited. -/
theorem visits_nil : visits line sender visit arguments ([] : List (Path m κ ε)) = pure [] :=
  rfl

/-- A path that is not asked is not visited. -/
theorem visits_cons_of_not_asked (silent : ¬ path.isAsked line = true) :
    visits line sender visit arguments (path :: paths) =
      visits line sender visit arguments paths := by
  rw [visits, List.filter_cons_of_neg silent]
  rfl

variable [LawfulMonad m]

/-- A path that is asked is visited before the others. -/
theorem visits_cons_of_asked (asked : path.isAsked line = true) :
    visits line sender visit arguments (path :: paths) = do
      let here ← visit path.last.node.clause (path.query line sender arguments)
      let after ← visits line sender visit arguments paths
      return here :: after := by
  rw [visits, List.filter_cons_of_pos asked, List.mapM_cons]
  rfl

/-- Paths are visited one list after the other. -/
theorem visits_append :
    visits line sender visit arguments (paths ++ others) = do
      let before ← visits line sender visit arguments paths
      let after ← visits line sender visit arguments others
      return before ++ after := by
  rw [visits, List.filter_append, List.mapM_append]
  rfl

/-- Where the paths stand among their siblings does not matter. -/
theorem visits_map_later :
    visits line sender visit arguments (paths.map .later) =
      visits line sender visit arguments paths := by
  rw [visits, List.filter_map, List.mapM_map]
  rfl

/-- The paths below a node are asked about the node's value too. -/
theorem visits_map_under (attempt : Attempt m κ ε) :
    visits line sender visit arguments (paths.map (.under 0 attempt)) =
      visits line sender visit (attempt.bind arguments) paths := by
  rw [visits, List.filter_map, List.mapM_map]
  rfl

end Visits

/-! ## One step of a walk -/

section Step

variable {node : Node m κ ε} {rest : List (Node m κ ε)} {start : Nat} {arguments : Bindings}

/-- What a walk does at a node, said of the node and not of its parts. -/
theorem walk_cons :
    walk line sender visit (node :: rest) start arguments = (do
      if ← node.clause.allows sender then
        match node.clause.pattern.consume line start with
        | .ok (stop, parsed) =>
          if stop < byteLength line then
            let (below, inner) ← walkBelow line sender visit node (stop + 1)
              (node.clause.pattern.bind parsed arguments)
            let (after, outer) ← walk line sender visit rest start
              (node.clause.pattern.unbind parsed (arguments.lookup node.clause.pattern.name) inner)
            return (below ++ after, outer)
          else
            let here ← visit node.clause (query line sender node.clause start arguments)
            let (after, outer) ← walk line sender visit rest start arguments
            return (here :: after, outer)
        | .error _ =>
          if (remaining line start).contains ' ' then walk line sender visit rest start arguments
          else
            let here ← visit node.clause (query line sender node.clause start arguments)
            let (after, outer) ← walk line sender visit rest start arguments
            return (here :: after, outer)
      else walk line sender visit rest start arguments) := by
  obtain ⟨clause, children⟩ := node
  rw [walk]
  rfl

variable [LawfulMonad m]

/-- A node that may not be used is passed over. -/
theorem walk_cons_of_hidden (answer : node.clause.allows sender = pure false) :
    walk line sender visit (node :: rest) start arguments =
      walk line sender visit rest start arguments := by
  rw [walk_cons, answer, pure_bind]
  rfl

/-- A node that matches a part of the line is visited below, with its value bound. -/
theorem walk_cons_of_inside {stop : Nat} {parsed : Option Binding}
    (answer : node.clause.allows sender = pure true)
    (takes : node.clause.pattern.consume line start = .ok (stop, parsed))
    (inside : stop < byteLength line) :
    walk line sender visit (node :: rest) start arguments = do
      let (below, inner) ← walkBelow line sender visit node (stop + 1)
        (node.clause.pattern.bind parsed arguments)
      let (after, outer) ← walk line sender visit rest start
        (node.clause.pattern.unbind parsed (arguments.lookup node.clause.pattern.name) inner)
      return (below ++ after, outer) := by
  rw [walk_cons, answer, pure_bind, takes]
  exact if_pos inside

/-- A node that could take the last token is visited itself, and nothing below it is. -/
theorem walk_cons_of_asked (answer : node.clause.allows sender = pure true)
    (asked : (Path.single 0 (.make line node start)).isAsked line = true) :
    walk line sender visit (node :: rest) start arguments = do
      let here ← visit node.clause (query line sender node.clause start arguments)
      let (after, outer) ← walk line sender visit rest start arguments
      return (here :: after, outer) := by
  rw [walk_cons, answer, pure_bind, if_pos rfl]
  rcases Path.isAsked_iff.mp asked with ⟨stop, parsed, takes, last⟩ | ⟨⟨reason, fails⟩, short⟩
  · have takes' : node.clause.pattern.consume line start = .ok (stop, parsed) := takes
    rw [takes']
    exact if_neg (Nat.not_lt.mpr last)
  · have fails' : node.clause.pattern.consume line start = .error reason := fails
    have short' : ' ' ∉ remaining line start := short
    rw [fails']
    exact if_neg (by simpa using short')

/-- A node that does not match, with more than one token left, is passed over. -/
theorem walk_cons_of_error {reason : ParseError}
    (answer : node.clause.allows sender = pure true)
    (fails : node.clause.pattern.consume line start = .error reason)
    (silent : ¬ (Path.single 0 (.make line node start)).isAsked line = true) :
    walk line sender visit (node :: rest) start arguments =
      walk line sender visit rest start arguments := by
  have long : ' ' ∈ remaining line start := by
    by_contra short
    exact silent (Path.isAsked_iff.mpr (.inr ⟨⟨reason, fails⟩, short⟩))
  rw [walk_cons, answer, pure_bind, if_pos rfl, fails]
  exact if_pos (by simpa using long)

end Step

/-! ## The whole walk -/

variable {usable : Clause m κ ε → Bool}

mutual

/-- Below a node, a walk visits the tries of its children. -/
theorem walkBelow_eq_visits [LawfulMonad m] : ∀ (node : Node m κ ε) (start : Nat)
    (arguments : Bindings), Decided sender usable node.children →
    walkBelow line sender visit node start arguments = do
      let answers ← visits line sender visit arguments (tries line usable node.children start)
      return (answers, arguments)
  | .mk _ children, start, arguments, decided => by
    rw [walkBelow]
    exact walk_eq_visits children start arguments decided

/-- A walk visits the tries that are asked, in their order, and gives the bindings back as they were.
-/
theorem walk_eq_visits [LawfulMonad m] : ∀ (nodes : List (Node m κ ε)) (start : Nat)
    (arguments : Bindings), Decided sender usable nodes →
    walk line sender visit nodes start arguments = do
      let answers ← visits line sender visit arguments (tries line usable nodes start)
      return (answers, arguments)
  | [], _, _, _ => by
    rw [walk, tries, visits_nil, pure_bind]
  | node :: rest, start, arguments, decided => by
    have below := fun next inner => walkBelow_eq_visits node next inner decided.children
    have behind := fun inner => walk_eq_visits rest start inner decided.tail
    have answer := decided.head
    rw [tries, visits_append, visits_map_later]
    cases use : usable node.clause with
    | false =>
      rw [use] at answer
      rw [walk_cons_of_hidden answer, behind, triesThrough_of_unusable use]
      simp only [visits_nil, bind_assoc, pure_bind, List.nil_append]
    | true =>
      rw [use] at answer
      -- A node that is asked has no tries below it; one that is not has failed, or leads on.
      by_cases asked : (Path.single 0 (.make line node start)).isAsked line = true
      · rw [walk_cons_of_asked answer asked, behind,
          triesThrough_of_last use (Path.next?_of_isAsked asked), visits_cons_of_asked asked]
        simp only [visits_nil, bind_assoc, pure_bind, List.cons_append, List.nil_append]
        rfl
      · cases outcome : node.clause.pattern.consume line start with
        | error reason =>
          rw [walk_cons_of_error answer outcome asked, behind,
            triesThrough_of_last use (by rw [Attempt.make_of_error outcome]; rfl),
            visits_cons_of_not_asked asked]
          simp only [visits_nil, bind_assoc, pure_bind, List.nil_append]
        | ok token =>
          obtain ⟨stop, parsed⟩ := token
          have inside : stop < byteLength line := by
            by_contra last
            exact asked (Path.isAsked_iff.mpr (.inl ⟨stop, parsed, outcome, Nat.not_lt.mp last⟩))
          have next : (Attempt.make line node start).next? line = some (stop + 1) := by
            rw [Attempt.make_of_ok outcome, Attempt.next?_of_lt inside]
          rw [walk_cons_of_inside answer outcome inside, below, triesThrough_of_inside use next,
            visits_cons_of_not_asked asked, visits_map_under]
          have parsed_ : (Attempt.make line node start).bind arguments =
              node.clause.pattern.bind parsed arguments := by
            rw [Attempt.make_of_ok outcome]
            rfl
          rw [parsed_]
          simp only [bind_assoc, pure_bind, Pattern.unbind_bind, behind]

end

end Offers

/-! ## What a completion asks -/

/-- Visiting a list gives one answer for each of its members. -/
theorem length_mapM [Monad m] [LawfulMonad m] {β : Type} (visit : β → m α) (members : List β) :
    List.length <$> members.mapM visit = (fun _ => members.length) <$> members.mapM visit := by
  induction members with
  | nil => simp
  | cons first rest ih =>
    rw [List.mapM_cons]
    simp only [map_eq_pure_bind, bind_assoc, pure_bind, List.length_cons] at ih ⊢
    refine bind_congr fun here => ?_
    have more := congrArg (fun lengths => lengths >>= fun length => pure (length + 1)) ih
    simpa only [bind_assoc, pure_bind] using more

namespace Grammar

variable [Monad m] [LawfulMonad m] {grammar : Grammar m κ ε} {input : String}
  {sender : Sender m κ} {usable : Clause m κ ε → Bool}

/-- A completion visits the tries that are asked. -/
theorem complete_eq_visits (decided : Decided sender usable grammar.roots) :
    grammar.complete input sender = Offers.visits input.toList sender Clause.offers []
      (tries input.toList usable grammar.roots 0) := by
  rw [complete, Offers.walk_eq_visits grammar.roots 0 [] decided]
  simp only [bind_assoc, pure_bind, bind_pure]

/-- What a completion asks, and about what: the last nodes of the paths of a list. -/
structure Asks (grammar : Grammar m κ ε) (input : String) (sender : Sender m κ)
    (usable : Clause m κ ε → Bool) (asked : List (Path m κ ε)) : Prop where
  /-- The paths stand in the order of declaration, depth first, each of them once. -/
  ordered : asked.Pairwise fun first second => first.address < second.address
  /-- They are the paths whose last node could take the last token of the line. -/
  mem_iff : ∀ path, path ∈ asked ↔ Tried input.toList usable grammar.roots 0 path ∧
    ((∃ stop parsed, path.last.outcome = .ok (stop, parsed) ∧ byteLength input.toList ≤ stop) ∨
      (∃ reason, path.last.outcome = .error reason) ∧
        ' ' ∉ Offers.remaining input.toList path.last.start)
  /-- Completing asks their last nodes in this order, each once, and does nothing else. -/
  asks : grammar.complete input sender =
    asked.mapM fun path => path.last.node.clause.offers (path.query input.toList sender [])
  /-- There is one answer for each of them. -/
  answers : List.length <$> grammar.complete input sender =
    (fun _ => asked.length) <$> grammar.complete input sender
  /-- The question is about the line, from the start of the last node's token on. -/
  start : ∀ path ∈ asked, (path.query input.toList sender []).start = path.last.start
  remaining : ∀ path ∈ asked, ∀ before rest, input.toList = before ++ rest →
    byteLength before = path.last.start →
      (path.query input.toList sender []).remaining = String.ofList rest
  /-- There is such a rest of the line where no foreign form leaves the line. -/
  onBoundary : (∀ clause ∈ Node.allClauses grammar.roots, clause.pattern.KeepsLine) →
    ∀ path ∈ asked, OnBoundary input.toList path.last.start
  /-- It comes with the sender, the line, the mappers of the node and the arguments of the nodes above
  it: each name has the value of the deepest of them that binds it. -/
  invocation : ∀ path ∈ asked, ∃ arguments,
    (path.query input.toList sender []).invocation =
        Invocation.of sender input arguments path.last.node.clause.mappers ∧
      ∀ name, arguments.lookup name = Attempt.deepest? path.above name
  /-- The node that the line selects is asked. -/
  selected : ∃ selection, grammar.select input.toList sender = pure selection ∧
    ∀ node arguments, selection = .found node arguments →
      ∃ path ∈ asked, IsFirst (FullPath input.toList usable grammar.roots) path ∧
        path.last.node = node

/-- A completion asks the listed paths that pass the test. -/
theorem asks_tries (decided : Decided sender usable grammar.roots) :
    Asks grammar input sender usable
      ((tries input.toList usable grammar.roots 0).filter (Path.isAsked input.toList)) where
  ordered := (pairwise_tries grammar.roots 0).filter _
  mem_iff := fun path => by rw [List.mem_filter, mem_tries, Path.isAsked_iff]
  asks := complete_eq_visits decided
  answers := by
    rw [complete_eq_visits decided]
    exact length_mapM _ _
  start := fun _ _ => rfl
  remaining := fun path _ before rest line starts => by
    show String.ofList ((dropBytes? input.toList path.last.start).getD []) = _
    rw [line, ← starts, dropBytes?_append, Option.getD_some]
  onBoundary := fun keeps path member => by
    have tried := mem_tries.mp (List.mem_filter.mp member).1
    exact tried.onBoundary keeps ⟨[], input.toList, rfl, rfl⟩
  invocation := fun path _ => by
    refine ⟨Attempt.bindAll path.above [], ?_, fun name => ?_⟩
    · show Invocation.of sender (String.ofList input.toList) _ _ = _
      rw [String.ofList_toList]
    · rw [Attempt.lookup_bindAll]
      exact Option.or_none
  selected := by
    refine ⟨_, select_eq_ofTries decided, fun node arguments found => ?_⟩
    obtain ⟨path, first, rfl, _⟩ := Search.isFirst_of_ofTries found
    obtain ⟨listed, ends⟩ := fullPath_iff.mp first.has
    exact ⟨path, List.mem_filter.mpr ⟨listed, Path.isAsked_of_endsLine ends⟩, first, rfl⟩

/-- Completing a line asks, in the order of declaration, the last node of every path that could take
the last token, each about the arguments above it. -/
theorem complete_asks_in_order (decided : Decided sender usable grammar.roots) :
    ∃ asked, Asks grammar input sender usable asked :=
  ⟨_, asks_tries decided⟩

/-- A guest's line asks two nodes: a number that does not match, and a note that takes the rest. The
hidden node beside the number is not asked. -/
theorem complete_asks_in_order_note :
    Decided Sample.guest Sample.usable Sample.grammar.roots ∧
      (∃ asked, Asks Sample.grammar "give ann 5x" Sample.guest Sample.usable asked) ∧
      ((Sample.grammar.complete "give ann 5x" Sample.guest).run []).1.length = 2 :=
  ⟨Sample.decided, complete_asks_in_order Sample.decided, rfl⟩

end Grammar

end CommandGrammar
