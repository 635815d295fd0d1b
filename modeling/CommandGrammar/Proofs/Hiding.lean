import CommandGrammar.Proofs.Asking

/-!
# Hidden nodes leave no trace

Take from a forest every node that a sender may not use, with all that stands below it. The sender
cannot tell the pruned forest from the whole one: a line selects the same node with the same
arguments and comes to the same end, with the same error where it is refused, and a completion asks
the same nodes the same questions.

All of it follows from one fact about the tries (`tries_prunedAll`): those of the pruned forest are
those of the whole one, in the same order, each with its nodes pruned and at the address that its
node has when the hidden siblings before it and above it are not counted (`visible`).
-/

set_option autoImplicit false

namespace CommandGrammar

open Text

variable {m : Type → Type} {κ ε : Type}

/-! ## Pruning -/

section Prune

variable (usable : Clause m κ ε → Bool)

mutual

/-- A node without the hidden nodes below it. -/
def Node.pruned : Node m κ ε → Node m κ ε
  | .mk clause children => .mk clause (Node.prunedAll children)

/-- Nodes without the hidden ones among them and below them. -/
def Node.prunedAll : List (Node m κ ε) → List (Node m κ ε)
  | [] => []
  | node :: rest =>
    if usable node.clause then node.pruned :: Node.prunedAll rest else Node.prunedAll rest

end

/-- The address of a usable node when hidden nodes are not counted. -/
def visible : List (Node m κ ε) → List Nat → List Nat
  | _, [] => []
  | nodes, position :: rest =>
    (nodes.take position).countP (fun node => usable node.clause) ::
      match nodes[position]? with
      | some node => visible node.children rest
      | none => rest

/-- An attempt of a node, seen in the pruned forest. -/
def Attempt.pruned (attempt : Attempt m κ ε) : Attempt m κ ε :=
  { attempt with node := attempt.node.pruned usable }

/-- A path among nodes, seen in the pruned forest. -/
def Path.pruned (nodes : List (Node m κ ε)) (path : Path m κ ε) : Path m κ ε :=
  { address := visible usable nodes path.address
    above := path.above.map (Attempt.pruned usable)
    last := path.last.pruned usable }

/-- What a search comes to, seen in the pruned forest. -/
def Search.pruned : Search m κ ε → Search m κ ε
  | .found node arguments => .found (node.pruned usable) arguments
  | .missed deepest => .missed deepest

/-- A grammar without its hidden nodes. -/
def Grammar.pruned (grammar : Grammar m κ ε) : Grammar m κ ε :=
  { grammar with roots := Node.prunedAll usable grammar.roots }

end Prune

variable {usable : Clause m κ ε → Bool}

/-- Pruning a node leaves its clause. -/
@[simp] theorem Node.clause_pruned (node : Node m κ ε) :
    (node.pruned usable).clause = node.clause := by
  obtain ⟨clause, children⟩ := node
  rw [Node.pruned]
  rfl

/-- Pruning a node prunes its children. -/
@[simp] theorem Node.children_pruned (node : Node m κ ε) :
    (node.pruned usable).children = Node.prunedAll usable node.children := by
  obtain ⟨clause, children⟩ := node
  rw [Node.pruned]
  rfl

mutual

/-- Pruning a node adds no clause. -/
theorem Node.clauses_pruned_subset : ∀ (node : Node m κ ε),
    (node.pruned usable).clauses ⊆ node.clauses
  | .mk clause children => by
    rw [Node.pruned, Node.clauses, Node.clauses]
    exact List.cons_subset_cons _ (Node.allClauses_prunedAll_subset children)

/-- Pruning nodes adds no clause. -/
theorem Node.allClauses_prunedAll_subset : ∀ (nodes : List (Node m κ ε)),
    Node.allClauses (Node.prunedAll usable nodes) ⊆ Node.allClauses nodes
  | [] => by simp [Node.prunedAll]
  | node :: rest => by
    have behind := Node.allClauses_prunedAll_subset rest
    rw [Node.prunedAll]
    split
    · rw [Node.allClauses, Node.allClauses]
      refine List.append_subset.mpr ⟨?_, ?_⟩
      · exact List.subset_append_of_subset_left _ (Node.clauses_pruned_subset node)
      · exact List.subset_append_of_subset_right _ behind
    · exact List.Subset.trans behind (List.subset_append_right _ _)

end

/-- What is decided of a forest is decided of the pruned one. -/
theorem Decided.prunedAll [Monad m] {sender : Sender m κ} {nodes : List (Node m κ ε)}
    (decided : Decided sender usable nodes) :
    Decided sender usable (Node.prunedAll usable nodes) :=
  fun clause member => decided clause (Node.allClauses_prunedAll_subset nodes member)

/-! ## Attempts and paths of the pruned forest -/

/-- A pruned node is tried as the whole one. -/
theorem Attempt.make_pruned (line : List Char) (node : Node m κ ε) (start : Nat) :
    Attempt.make line (node.pruned usable) start = (Attempt.make line node start).pruned usable := by
  rw [Attempt.make, Node.clause_pruned]
  rfl

/-- A pruned node binds what the whole one binds. -/
theorem Attempt.bindAll_map_pruned (attempts : List (Attempt m κ ε)) (arguments : Bindings) :
    Attempt.bindAll (attempts.map (Attempt.pruned usable)) arguments =
      Attempt.bindAll attempts arguments := by
  induction attempts generalizing arguments with
  | nil => rfl
  | cons first rest ih =>
    have own : (first.pruned usable).bind arguments = first.bind arguments := by
      rw [Attempt.bind, Attempt.pruned, Node.clause_pruned]
      rfl
    rw [List.map_cons, Attempt.bindAll_cons, Attempt.bindAll_cons, own, ih]

namespace Path

variable {node : Node m κ ε} {rest : List (Node m κ ε)}

/-- The path of a first node stays at its address. -/
theorem pruned_single (attempt : Attempt m κ ε) :
    (single 0 attempt).pruned usable (node :: rest) = single 0 (attempt.pruned usable) := by
  simp [pruned, single, visible]

/-- A path below a first node is pruned below it. -/
theorem pruned_under (attempt : Attempt m κ ε) (path : Path m κ ε) :
    (path.under 0 attempt).pruned usable (node :: rest) =
      (path.pruned usable node.children).under 0 (attempt.pruned usable) := by
  simp [pruned, under, visible]

/-- A hidden node before a path is not counted. -/
theorem pruned_later_of_hidden (hidden : usable node.clause = false) (path : Path m κ ε) :
    path.later.pruned usable (node :: rest) = path.pruned usable rest := by
  obtain ⟨address, above, last⟩ := path
  cases address with
  | nil => simp [pruned, later, visible]
  | cons position deeper => simp [pruned, later, visible, hidden]

/-- Any other node before a path is counted. -/
theorem pruned_later_of_usable (use : usable node.clause = true) (path : Path m κ ε) :
    path.later.pruned usable (node :: rest) = (path.pruned usable rest).later := by
  obtain ⟨address, above, last⟩ := path
  cases address with
  | nil => simp [pruned, later, visible]
  | cons position deeper => simp [pruned, later, visible, use]

end Path

/-! ## The tries of the pruned forest -/

variable {line : List Char}

mutual

/-- The tries through a pruned node are those through the whole one. -/
theorem triesThrough_pruned : ∀ (node : Node m κ ε) (rest : List (Node m κ ε)) (start : Nat),
    triesThrough line usable (node.pruned usable) start =
      (triesThrough line usable node start).map (Path.pruned usable (node :: rest))
  | .mk clause children, rest, start => by
    have below := fun next => tries_prunedAll children next
    cases use : usable clause with
    | false =>
      rw [triesThrough_of_unusable (by rw [Node.clause_pruned]; exact use),
        triesThrough_of_unusable (by exact use), List.map_nil]
    | true =>
      have use' : usable (Node.pruned usable (.mk clause children)).clause = true := by
        rw [Node.clause_pruned]
        exact use
      have same : (Attempt.make line (Node.pruned usable (.mk clause children)) start).next? line =
          (Attempt.make line (.mk clause children) start).next? line := by
        rw [Attempt.make_pruned]
        rfl
      cases leads : (Attempt.make line (.mk clause children) start).next? line with
      | none =>
        rw [triesThrough_of_last use' (same.trans leads), triesThrough_of_last (by exact use) leads,
          Attempt.make_pruned, List.map_singleton, Path.pruned_single]
      | some next =>
        have inner : Path.pruned usable (.mk clause children :: rest) ∘
            Path.under 0 (.make line (.mk clause children) start) =
            Path.under 0 ((Attempt.make line (.mk clause children) start).pruned usable) ∘
              Path.pruned usable children :=
          funext (Path.pruned_under _)
        rw [triesThrough_of_inside use' (same.trans leads),
          triesThrough_of_inside (by exact use) leads, Attempt.make_pruned, List.map_cons,
          Path.pruned_single, List.map_map, inner, Node.children_pruned]
        show _ :: (tries line usable (Node.prunedAll usable children) next).map _ = _
        rw [below, List.map_map]
        rfl

/-- The tries of a pruned forest are those of the whole one, in the same order. -/
theorem tries_prunedAll : ∀ (nodes : List (Node m κ ε)) (start : Nat),
    tries line usable (Node.prunedAll usable nodes) start =
      (tries line usable nodes start).map (Path.pruned usable nodes)
  | [], _ => by simp [Node.prunedAll, tries]
  | node :: rest, start => by
    have behind := tries_prunedAll rest start
    have through := triesThrough_pruned node rest start
    rw [Node.prunedAll, tries, List.map_append, List.map_map, ← through]
    cases use : usable node.clause with
    | false =>
      have same : Path.pruned usable (node :: rest) ∘ Path.later = Path.pruned usable rest :=
        funext (Path.pruned_later_of_hidden use)
      rw [if_neg Bool.false_ne_true, behind, same,
        triesThrough_of_unusable (by rw [Node.clause_pruned, use]), List.nil_append]
    | true =>
      have same : Path.pruned usable (node :: rest) ∘ Path.later =
          Path.later ∘ Path.pruned usable rest :=
        funext (Path.pruned_later_of_usable use)
      rw [if_pos rfl, tries, behind, same, List.map_map]

end

/-- A pruned path goes as far as the whole one. -/
theorem Path.endsLine_pruned (nodes : List (Node m κ ε)) (path : Path m κ ε) :
    (path.pruned usable nodes).endsLine line = path.endsLine line :=
  rfl

/-- A pruned path fails where the whole one does. -/
theorem Path.failure?_pruned (nodes : List (Node m κ ε)) (path : Path m κ ε) :
    (path.pruned usable nodes).failure? = path.failure? := by
  obtain ⟨address, above, last⟩ := path
  cases above with
  | nil => rfl
  | cons first rest => rfl

/-- A pruned path has the pruned attempts. -/
theorem Path.attempts_pruned (nodes : List (Node m κ ε)) (path : Path m κ ε) :
    (path.pruned usable nodes).attempts = path.attempts.map (Attempt.pruned usable) := by
  simp [Path.attempts, Path.pruned]

/-- The search through the pruned paths comes to the same, with the node pruned. -/
theorem Search.ofTries_map_pruned (trail : Trail) (nodes : List (Node m κ ε))
    (paths : List (Path m κ ε)) :
    Search.ofTries line trail (paths.map (Path.pruned usable nodes)) =
      (Search.ofTries line trail paths).pruned usable := by
  have ends : Path.endsLine line ∘ Path.pruned usable nodes = Path.endsLine line :=
    funext (Path.endsLine_pruned nodes)
  have fails : Path.failure? ∘ Path.pruned usable nodes = Path.failure? :=
    funext (Path.failure?_pruned nodes)
  rw [Search.ofTries, Search.ofTries, List.find?_map, List.filterMap_map, ends, fails]
  cases paths.find? (Path.endsLine line) with
  | none => rfl
  | some path =>
    show Search.found _ (Attempt.bindAll (path.pruned usable nodes).attempts.tail _) = _
    rw [Path.attempts_pruned, ← List.map_tail, Attempt.bindAll_map_pruned]
    rfl

/-- A pruned path puts the same question. -/
theorem Path.query_pruned [Monad m] (sender : Sender m κ) (arguments : Bindings)
    (nodes : List (Node m κ ε)) (path : Path m κ ε) :
    (path.pruned usable nodes).query line sender arguments = path.query line sender arguments := by
  show Offers.query line sender (path.last.node.pruned usable).clause _
    (Attempt.bindAll (path.above.map (Attempt.pruned usable)) arguments) = _
  rw [Node.clause_pruned, Attempt.bindAll_map_pruned]
  rfl

/-- Of the paths of the pruned forest those are asked that are asked in the whole one. -/
theorem filter_isAsked_prunedAll (nodes : List (Node m κ ε)) (start : Nat) :
    (tries line usable (Node.prunedAll usable nodes) start).filter (Path.isAsked line) =
      ((tries line usable nodes start).filter (Path.isAsked line)).map
        (Path.pruned usable nodes) := by
  rw [tries_prunedAll, List.filter_map]
  rfl

/-- Visiting pruned paths is visiting the whole ones. -/
theorem Offers.visits_map_pruned [Monad m] [LawfulMonad m] {α : Type} {sender : Sender m κ}
    {visit : Clause m κ ε → Completion.Query m κ ε → m α} (arguments : Bindings)
    (nodes : List (Node m κ ε)) (paths : List (Path m κ ε)) :
    Offers.visits line sender visit arguments (paths.map (Path.pruned usable nodes)) =
      Offers.visits line sender visit arguments paths := by
  have same : ∀ path : Path m κ ε,
      visit (path.pruned usable nodes).last.node.clause
          ((path.pruned usable nodes).query line sender arguments) =
        visit path.last.node.clause (path.query line sender arguments) := by
    intro path
    rw [Path.query_pruned]
    show visit (path.last.node.pruned usable).clause _ = _
    rw [Node.clause_pruned]
  rw [Offers.visits, List.filter_map, List.mapM_map]
  show List.mapM (fun path => _) (paths.filter (Path.isAsked line)) = _
  simp only [Function.comp_apply, same]
  rfl

/-! ## The addresses of the pruned forest -/

section Tried

variable {nodes : List (Node m κ ε)} {start : Nat}

/-- The paths of the pruned forest are those of the whole one, pruned. -/
theorem tried_prunedAll_iff {path' : Path m κ ε} :
    Tried line usable (Node.prunedAll usable nodes) start path' ↔
      ∃ path, Tried line usable nodes start path ∧ path' = path.pruned usable nodes := by
  simp only [← mem_tries, tries_prunedAll, List.mem_map, eq_comm]

/-- Pruning keeps the order of the paths. -/
theorem Path.pruned_lt_pruned {first second : Path m κ ε}
    (tried : Tried line usable nodes start first) (tried' : Tried line usable nodes start second)
    (before : first.address < second.address) :
    (first.pruned usable nodes).address < (second.pruned usable nodes).address := by
  have ordered : (tries line usable nodes start).Pairwise fun first second =>
      first.address < second.address := pairwise_tries nodes start
  have ordered' : (tries line usable (Node.prunedAll usable nodes) start).Pairwise
      fun first second => first.address < second.address := pairwise_tries _ start
  rw [tries_prunedAll, List.pairwise_map] at ordered'
  obtain ⟨i, small, rfl⟩ := List.mem_iff_getElem.mp (mem_tries.mpr tried)
  obtain ⟨j, small', rfl⟩ := List.mem_iff_getElem.mp (mem_tries.mpr tried')
  rcases Nat.lt_trichotomy i j with less | rfl | more
  · exact List.pairwise_iff_getElem.mp ordered' i j small small' less
  · exact absurd before (List.lt_irrefl _)
  · have after := List.pairwise_iff_getElem.mp ordered j i small' small more
    exact absurd after (List.lt_asymm before)

/-- The full paths of the pruned forest are those of the whole one, pruned. -/
theorem fullPath_prunedAll_iff {path' : Path m κ ε} :
    FullPath line usable (Node.prunedAll usable nodes) path' ↔
      ∃ path, FullPath line usable nodes path ∧ path' = path.pruned usable nodes := by
  constructor
  · rintro ⟨tried, ends⟩
    obtain ⟨path, tried', rfl⟩ := tried_prunedAll_iff.mp tried
    exact ⟨path, ⟨tried', ends⟩, rfl⟩
  · rintro ⟨path, ⟨tried, ends⟩, rfl⟩
    exact ⟨tried_prunedAll_iff.mpr ⟨path, tried, rfl⟩, ends⟩

/-- Pruning keeps the first full path. -/
theorem isFirst_pruned {path : Path m κ ε} (first : IsFirst (FullPath line usable nodes) path) :
    IsFirst (FullPath line usable (Node.prunedAll usable nodes)) (path.pruned usable nodes) := by
  refine ⟨fullPath_prunedAll_iff.mpr ⟨path, first.has, rfl⟩, ?_⟩
  intro other full
  obtain ⟨whole, full', rfl⟩ := fullPath_prunedAll_iff.mp full
  rcases first.first whole full' with rfl | before
  · exact .inl rfl
  · exact .inr (Path.pruned_lt_pruned first.has.tried full'.tried before)

end Tried

/-! ## The whole grammar and the pruned one -/

namespace Grammar

variable [Monad m] [LawfulMonad m] {grammar : Grammar m κ ε} {input : String}
  {sender : Sender m κ}

/-- A line selects in the pruned grammar what it selects in the whole one. -/
theorem select_pruned (decided : Decided sender usable grammar.roots) :
    (grammar.pruned usable).select line sender =
      pure ((Search.ofTries line .empty (tries line usable grammar.roots 0)).pruned usable) := by
  rw [select_eq_ofTries decided.prunedAll, pruned, tries_prunedAll, Search.ofTries_map_pruned]

/-- A line is completed by the pruned grammar as it is by the whole one. -/
theorem complete_pruned (decided : Decided sender usable grammar.roots) :
    (grammar.pruned usable).complete input sender = grammar.complete input sender := by
  rw [complete_eq_visits decided, complete_eq_visits decided.prunedAll, pruned, tries_prunedAll,
    Offers.visits_map_pruned]

variable [DecidableEq κ]

/-- A line is run by the pruned grammar as it is by the whole one. -/
theorem execute_pruned (decided : Decided sender usable grammar.roots) :
    (grammar.pruned usable).execute input sender = grammar.execute input sender := by
  unfold execute
  rw [select_eq_ofTries decided, select_pruned decided, pure_bind, pure_bind]
  cases Search.ofTries input.toList Trail.empty (tries input.toList usable grammar.roots 0) with
  | missed deepest => rfl
  | found node arguments =>
    dsimp only [Search.pruned]
    rw [Node.clause_pruned]

/-- A grammar and its pruned form, as far as one sender and one line can tell. -/
structure SameWhenPruned (grammar : Grammar m κ ε) (input : String) (sender : Sender m κ)
    (usable : Clause m κ ε → Bool) : Prop where
  /-- The paths of the line are the same, pruned, and stand in the same order. -/
  tried_iff : ∀ path', Tried input.toList usable (grammar.pruned usable).roots 0 path' ↔
    ∃ path, Tried input.toList usable grammar.roots 0 path ∧
      path' = path.pruned usable grammar.roots
  ordered : ∀ first second, Tried input.toList usable grammar.roots 0 first →
    Tried input.toList usable grammar.roots 0 second → first.address < second.address →
      (first.pruned usable grammar.roots).address < (second.pruned usable grammar.roots).address
  /-- They lead to corresponding nodes. -/
  corresponds : ∀ path, Tried input.toList usable grammar.roots 0 path →
    grammar.node? path.address = some path.last.node ∧
      (grammar.pruned usable).node? (visible usable grammar.roots path.address) =
        some (path.last.node.pruned usable)
  /-- The line selects the corresponding node, at the end of the corresponding path and with the same
  arguments, or misses with the same failure. -/
  selects : ∃ selection, grammar.select input.toList sender = pure selection ∧
    (grammar.pruned usable).select input.toList sender = pure (selection.pruned usable)
  first : ∀ path, IsFirst (FullPath input.toList usable grammar.roots) path →
    IsFirst (FullPath input.toList usable (grammar.pruned usable).roots)
      (path.pruned usable grammar.roots)
  /-- Running the line comes to the same outcome or the same error. -/
  executes : (grammar.pruned usable).execute input sender = grammar.execute input sender
  /-- A completion asks the corresponding nodes the same questions. -/
  asks : ∃ asked, Asks grammar input sender usable asked ∧
    Asks (grammar.pruned usable) input sender usable
      (asked.map (Path.pruned usable grammar.roots)) ∧
    ∀ path ∈ asked, (path.pruned usable grammar.roots).query input.toList sender [] =
      path.query input.toList sender []
  /-- Its answers are the same. -/
  completes : (grammar.pruned usable).complete input sender = grammar.complete input sender

/-- Nodes that a sender may not use change nothing for the sender, wherever they stand. -/
theorem same_when_pruned (decided : Decided sender usable grammar.roots) :
    SameWhenPruned grammar input sender usable where
  tried_iff := fun _ => tried_prunedAll_iff
  ordered := fun _ _ => Path.pruned_lt_pruned
  corresponds := fun path tried => by
    have tried' : Tried input.toList usable (grammar.pruned usable).roots 0 _ :=
      tried_prunedAll_iff.mpr ⟨path, tried, rfl⟩
    exact ⟨tried.node?_eq, tried'.node?_eq⟩
  selects := ⟨_, select_eq_ofTries decided, select_pruned decided⟩
  first := fun _ => isFirst_pruned
  executes := execute_pruned decided
  asks := by
    refine ⟨_, asks_tries decided, ?_, fun path _ => Path.query_pruned _ _ _ _⟩
    rw [← filter_isAsked_prunedAll]
    exact asks_tries decided.prunedAll
  completes := complete_pruned decided

/-- Of the three commands of the sample the guest sees two, and a line that a hidden command would
take as well is run by the seen ones alone. -/
theorem same_when_pruned_note :
    Decided Sample.guest Sample.usable Sample.grammar.roots ∧
      SameWhenPruned Sample.grammar "give ann 5x" Sample.guest Sample.usable ∧
      (Sample.grammar.pruned Sample.usable).roots.length = 2 :=
  ⟨Sample.decided, same_when_pruned Sample.decided, rfl⟩

end Grammar

end CommandGrammar
