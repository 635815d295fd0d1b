import CommandGrammar.Proofs.Scanning
import CommandGrammar.Proofs.Selection

/-!
# The same declarations under other numbers

Handlers are numbered when they are declared, so that declaring a command twice gives two trees that
differ in numbers. They differ in nothing else (`Declaration.alike_applyAll`): two builders that are alike
but for what they match and for the numbers of their handlers stay so when the same steps are carried out
on both. The roots of one command, with whatever label, are therefore alike
(`Grammar.command_alike`).

With the numbers left aside (`Node.unnumbered`) their children are equal. Nothing that a line comes to
depends on the numbers, and the tries of such children are the same (`tries_unnumbered`).
-/

set_option autoImplicit false

namespace CommandGrammar

variable {m : Type → Type} {κ ε ν : Type}

/-! ## Without numbers -/

/-- The handler without its number. -/
def Handler.unnumbered (handler : Handler m κ ε) : Handler m κ ε :=
  { handler with serial := 0 }

/-- The chain without the numbers of its handlers. -/
def Chain.unnumbered (chain : Chain m κ ε) : Chain m κ ε :=
  { chain with handlers := chain.handlers.map Handler.unnumbered }

/-- The clause without the numbers of its handlers. -/
def Clause.unnumbered (clause : Clause m κ ε) : Clause m κ ε :=
  { clause with chain := clause.chain.map Chain.unnumbered }

mutual

/-- The node without the numbers of its handlers. -/
def Node.unnumbered : Node m κ ε → Node m κ ε
  | .mk clause children => .mk clause.unnumbered (Node.unnumberedAll children)

/-- The nodes without the numbers of their handlers. -/
def Node.unnumberedAll : List (Node m κ ε) → List (Node m κ ε)
  | [] => []
  | node :: rest => node.unnumbered :: Node.unnumberedAll rest

end

@[simp] theorem Node.clause_unnumbered (node : Node m κ ε) :
    node.unnumbered.clause = node.clause.unnumbered := by
  obtain ⟨clause, children⟩ := node
  rw [Node.unnumbered]
  rfl

@[simp] theorem Node.children_unnumbered (node : Node m κ ε) :
    node.unnumbered.children = Node.unnumberedAll node.children := by
  obtain ⟨clause, children⟩ := node
  rw [Node.unnumbered]
  rfl

theorem Node.unnumberedAll_append (first second : List (Node m κ ε)) :
    Node.unnumberedAll (first ++ second) = Node.unnumberedAll first ++ Node.unnumberedAll second := by
  induction first with
  | nil => rfl
  | cons node rest ih =>
    show node.unnumbered :: Node.unnumberedAll (rest ++ second) = _
    rw [ih]
    rfl

/-! ## Alike but for what is matched -/

/-- The nodes are alike: they differ in nothing but what they match and the numbers of their handlers. -/
structure Node.Alike (first second : Node m κ ε) : Prop where
  requirements : first.clause.requirements = second.clause.requirements
  source : first.clause.source = second.clause.source
  chain : first.clause.chain.map Chain.unnumbered = second.clause.chain.map Chain.unnumbered
  mappers : first.clause.mappers = second.clause.mappers
  children : Node.unnumberedAll first.children = Node.unnumberedAll second.children

theorem Node.Alike.symm {first second : Node m κ ε} (alike : first.Alike second) :
    second.Alike first :=
  ⟨alike.requirements.symm, alike.source.symm, alike.chain.symm, alike.mappers.symm,
    alike.children.symm⟩

theorem Node.Alike.trans {first second third : Node m κ ε} (alike : first.Alike second)
    (alike' : second.Alike third) : first.Alike third :=
  ⟨alike.requirements.trans alike'.requirements, alike.source.trans alike'.source,
    alike.chain.trans alike'.chain, alike.mappers.trans alike'.mappers,
    alike.children.trans alike'.children⟩

/-- Nodes that are equal without their numbers are alike, and match the same. -/
theorem Node.alike_of_unnumbered {first second : Node m κ ε}
    (same : first.unnumbered = second.unnumbered) :
    first.Alike second ∧ first.clause.pattern = second.clause.pattern := by
  have clause_ : first.clause.unnumbered = second.clause.unnumbered := by
    rw [← Node.clause_unnumbered, same, Node.clause_unnumbered]
  have children_ : Node.unnumberedAll first.children = Node.unnumberedAll second.children := by
    rw [← Node.children_unnumbered, same, Node.children_unnumbered]
  simp only [Clause.unnumbered, Clause.mk.injEq] at clause_
  obtain ⟨pattern, requirements, source, chain, mappers⟩ := clause_
  exact ⟨⟨requirements, source, chain, mappers, children_⟩, pattern⟩

/-- The builders are alike: they differ in nothing but what they match and the numbers of handlers. -/
structure Builder.Alike (first second : Builder m κ ε) : Prop where
  requirements : first.requirements = second.requirements
  source : first.source = second.source
  chain : first.chain.map Chain.unnumbered = second.chain.map Chain.unnumbered
  mappers : first.mappers = second.mappers
  children : Node.unnumberedAll first.children = Node.unnumberedAll second.children
  handlers : first.handlers.map Handler.unnumbered = second.handlers.map Handler.unnumbered

namespace Builder.Alike

variable {first second held other : Builder m κ ε}

/-- What two builders are finished to is alike. -/
theorem build (alike : first.Alike second) : first.build.Alike second.build :=
  ⟨alike.requirements, alike.source, alike.chain, alike.mappers, alike.children⟩

/-- If they match the same as well, they are finished to nodes that are equal without their numbers. -/
theorem build_unnumbered (alike : first.Alike second) (same : first.pattern = second.pattern) :
    first.build.unnumbered = second.build.unnumbered := by
  show Node.mk ⟨first.pattern, first.requirements, first.source, first.chain.map Chain.unnumbered,
    first.mappers⟩ (Node.unnumberedAll first.children) = _
  rw [same, alike.requirements, alike.source, alike.chain, alike.mappers, alike.children]
  rfl

theorem start (pattern pattern' : Pattern) : (Builder.start pattern [] [] : Builder m κ ε).Alike
    (.start pattern' [] []) :=
  ⟨rfl, rfl, rfl, rfl, rfl, rfl⟩

theorem child (alike : first.Alike second) (pattern : Pattern) :
    (first.child pattern).Alike (second.child pattern) :=
  ⟨rfl, rfl, rfl, alike.mappers, rfl, alike.handlers⟩

theorem attach (alike : first.Alike second) (children : held.Alike other)
    (same : held.pattern = other.pattern) : (first.attach held).Alike (second.attach other) where
  requirements := alike.requirements
  source := alike.source
  chain := alike.chain
  mappers := alike.mappers
  handlers := alike.handlers
  children := by
    show Node.unnumberedAll (first.children ++ [held.build]) =
      Node.unnumberedAll (second.children ++ [other.build])
    rw [Node.unnumberedAll_append, Node.unnumberedAll_append, alike.children]
    exact congrArg (fun node => Node.unnumberedAll second.children ++ [node])
      (children.build_unnumbered same)

theorem require (alike : first.Alike second) (requirement : Sender m κ → m Bool) :
    (first.require requirement).Alike (second.require requirement) :=
  { alike with requirements := congrArg (· ++ [requirement]) alike.requirements }

theorem offer (alike : first.Alike second) (source : Completion.Source m κ ε) :
    (first.offer source).Alike (second.offer source) :=
  { alike with source := rfl }

theorem map (alike : first.Alike second) (id : String) (mapper : Mapper m κ ε) :
    (first.map id mapper).Alike (second.map id mapper) :=
  { alike with mappers := congrArg (Assoc.put id mapper) alike.mappers }

theorem rebind (alike : first.Alike second) : first.rebind.Alike second.rebind :=
  { alike with
    chain := congrArg some (congrArg₂ Chain.mk alike.handlers alike.mappers) }

theorem handle (alike : first.Alike second) (audience : Audience κ) (body : Body m κ ε)
    (number number' : Nat) :
    (first.handle ⟨audience, number, body⟩).Alike (second.handle ⟨audience, number', body⟩) := by
  refine rebind { alike with handlers := ?_ }
  show (first.handlers ++ _).map Handler.unnumbered = (second.handlers ++ _).map Handler.unnumbered
  rw [List.map_append, List.map_append, alike.handlers]
  rfl

end Builder.Alike

/-! ## Declarations -/

/-- The drafts are alike: their builders are, and so are their detached children, which match the same as
well. -/
structure Draft.Alike (first second : Draft m κ ε ν) : Prop where
  builder : first.builder.Alike second.builder
  detached : ∀ label, Option.Rel (fun held other => held.pattern = other.pattern ∧ held.Alike other)
    (first.detached.lookup label) (second.detached.lookup label)

namespace Draft.Alike

variable {first second : Draft m κ ε ν}

/-- The scopes of two builders are alike that have no detached children yet. -/
theorem enter (first second : Draft m κ ε ν) {builder other : Builder m κ ε}
    (alike : builder.Alike other) : (first.enter builder).Alike (second.enter other) :=
  ⟨alike, fun _ => .none⟩

/-- Putting two builders that match the same in the place of a detached child. -/
theorem put (alike : first.Alike second) (label : String) {held other : Builder m κ ε}
    (builders : held.Alike other) (same : held.pattern = other.pattern) (name : String) :
    Option.Rel (fun held other => held.pattern = other.pattern ∧ held.Alike other)
      ((Assoc.put label held first.detached).lookup name)
      ((Assoc.put label other second.detached).lookup name) := by
  rw [Assoc.lookup_put, Assoc.lookup_put]
  split
  · exact .some ⟨same, builders⟩
  · exact alike.detached name

/-- Taking a detached child away. -/
theorem erase (alike : first.Alike second) (label name : String) :
    Option.Rel (fun held other => held.pattern = other.pattern ∧ held.Alike other)
      ((Assoc.erase label first.detached).lookup name)
      ((Assoc.erase label second.detached).lookup name) := by
  rw [Assoc.lookup_erase, Assoc.lookup_erase]
  split
  · exact .none
  · exact alike.detached name

end Draft.Alike

mutual

/-- A step that is carried out on drafts that are alike leaves them alike. -/
theorem Declaration.alike_apply : ∀ (step : Declaration m κ ε ν) {first second : Draft m κ ε ν},
    first.Alike second → (step.apply first).Alike (step.apply second)
  | .require requirement, _, _, alike => ⟨alike.builder.require requirement, alike.detached⟩
  | .offer source, _, _, alike => ⟨alike.builder.offer source, alike.detached⟩
  | .handle audience body, _, _, alike => ⟨alike.builder.handle audience body _ _, alike.detached⟩
  | .rebind, _, _, alike => ⟨alike.builder.rebind, alike.detached⟩
  | .map id mapper, _, _, alike => ⟨alike.builder.map id mapper, alike.detached⟩
  | .note _, _, _, alike => ⟨alike.builder, alike.detached⟩
  | .child pattern body, first, second, alike => by
    have inner := alike_applyAll body (.enter first second (alike.builder.child pattern))
    refine ⟨alike.builder.attach inner.builder ?_, alike.detached⟩
    rw [pattern_applyAll, pattern_applyAll]
    rfl
  | .detach label pattern, _, _, alike =>
    ⟨alike.builder, alike.put label (alike.builder.child pattern) rfl⟩
  | .edit label body, first, second, alike => by
    have found := alike.detached label
    unfold Declaration.apply
    generalize first.detached.lookup label = held at found
    generalize second.detached.lookup label = other at found
    cases found with
    | none => exact alike
    | some both =>
      have inner := alike_applyAll body (.enter first second both.2)
      refine ⟨alike.builder, alike.put label inner.builder ?_⟩
      rw [pattern_applyAll, pattern_applyAll]
      exact both.1
  | .attach label, first, second, alike => by
    have found := alike.detached label
    unfold Declaration.apply
    generalize first.detached.lookup label = held at found
    generalize second.detached.lookup label = other at found
    cases found with
    | none => exact alike
    | some both => exact ⟨alike.builder.attach both.2 both.1, alike.erase label⟩

/-- Steps that are carried out on drafts that are alike leave them alike. -/
theorem Declaration.alike_applyAll : ∀ (steps : List (Declaration m κ ε ν))
    {first second : Draft m κ ε ν}, first.Alike second →
    (Declaration.applyAll steps first).Alike (Declaration.applyAll steps second)
  | [], _, _, alike => alike
  | step :: rest, _, _, alike => alike_applyAll rest (step.alike_apply alike)

end

/-! ## The roots of a command -/

/-- The roots match labels, one after the other, and are alike. -/
abbrev Labelled (model : Node m κ ε) (labels : List String) (roots : List (Node m κ ε)) : Prop :=
  List.Forall₂ (fun label root => root.clause.pattern = .literal label ∧ model.Alike root) labels roots

namespace Labelled

variable {model root : Node m κ ε} {labels : List String} {roots : List (Node m κ ε)} {label : String}

/-- Every label of a command is matched by a root of it. -/
theorem exists_root (labelled : Labelled model labels roots) (given : label ∈ labels) :
    ∃ root ∈ roots, root.clause.pattern = .literal label ∧ model.Alike root :=
  exists_of_mem_left labelled given

/-- Every root of a command matches a label of it. -/
theorem exists_label (labelled : Labelled model labels roots) (member : root ∈ roots) :
    ∃ other ∈ labels, root.clause.pattern = .literal other ∧ model.Alike root :=
  exists_of_mem_left (List.Forall₂.flip labelled) member

end Labelled

namespace Grammar

/-- What a command is declared to under a label, before anything else is declared. -/
def model (body : List (Declaration m κ ε ν)) : Node m κ ε :=
  ((empty : Grammar m κ ε).draft "" body).builder.build

/-- The root of a command matches its label, and is otherwise alike for every label. -/
theorem alike_draft (grammar : Grammar m κ ε) (label : String) (body : List (Declaration m κ ε ν)) :
    (grammar.draft label body).builder.build.clause.pattern = .literal label ∧
      (model body).Alike (grammar.draft label body).builder.build := by
  refine ⟨Declaration.pattern_applyAll body _, Builder.Alike.build ?_⟩
  exact (Declaration.alike_applyAll body ⟨.start _ _, fun _ => .none⟩).builder

/-- The roots of one command match its labels, one after the other, and are otherwise alike. -/
theorem command_alike {grammar : Grammar m κ ε} (none_ : grammar.roots = []) (name : String)
    (aliases : List String) (body : List (Declaration m κ ε ν)) :
    Labelled (model body) (name :: aliases) (grammar.command name aliases body).roots := by
  have behind : ∀ (labels : List String) (grammar : Grammar m κ ε) (earlier : List String),
      Labelled (model body) earlier grammar.roots →
      Labelled (model body) (earlier ++ labels)
        (labels.foldl (fun grammar label => grammar.declare label body) grammar).roots := by
    intro labels
    induction labels with
    | nil =>
      intro grammar earlier alike
      rwa [List.append_nil]
    | cons label rest ih =>
      intro grammar earlier alike
      have declared := ih (grammar.declare label body) (earlier ++ [label])
        (List.rel_append alike (.cons (alike_draft grammar label body) .nil))
      rwa [List.append_assoc] at declared
  exact behind (name :: aliases) grammar [] (none_ ▸ .nil)

end Grammar

/-! ## The tries of nodes without numbers -/

/-- An attempt of a node without its numbers. -/
def Attempt.unnumbered (attempt : Attempt m κ ε) : Attempt m κ ε :=
  { attempt with node := attempt.node.unnumbered }

/-- A path down nodes without their numbers. -/
def Path.unnumbered (path : Path m κ ε) : Path m κ ε :=
  { path with
    above := path.above.map Attempt.unnumbered
    last := path.last.unnumbered }

section Tries

variable {line : List Char} {usable : Clause m κ ε → Bool}

theorem Attempt.make_unnumbered (line : List Char) (node : Node m κ ε) (start : Nat) :
    make line node.unnumbered start = (make line node start).unnumbered := by
  show Attempt.mk node.unnumbered start (node.unnumbered.clause.pattern.consume line start) = _
  rw [Node.clause_unnumbered]
  rfl

mutual

/-- The tries through a node without numbers are those through the node. -/
theorem triesThrough_unnumbered (same : ∀ clause, usable clause.unnumbered = usable clause) :
    ∀ (node : Node m κ ε) (start : Nat),
    triesThrough line usable node.unnumbered start =
      (triesThrough line usable node start).map Path.unnumbered
  | .mk clause children, start => by
    have below := fun next => tries_unnumbered same children next
    have here := Attempt.make_unnumbered line (.mk clause children) start
    have use_ : usable (Node.mk clause children).unnumbered.clause = usable clause := by
      rw [Node.clause_unnumbered]
      exact same clause
    cases use : usable clause with
    | false =>
      rw [use] at use_
      rw [triesThrough_of_unusable use_, triesThrough_of_unusable use, List.map_nil]
    | true =>
      rw [use] at use_
      cases next_ : (Attempt.make line (.mk clause children) start).next? line with
      | none =>
        rw [triesThrough_of_last use_ (by rw [here]; exact next_), triesThrough_of_last use next_, here]
        rfl
      | some next =>
        rw [triesThrough_of_inside use_ (by rw [here]; exact next_), triesThrough_of_inside use next_,
          here, Node.children_unnumbered, show Node.children (.mk clause children) = children from rfl,
          below, List.map_map, List.map_cons, List.map_map]
        rfl

/-- The tries of nodes without numbers are those of the nodes. -/
theorem tries_unnumbered (same : ∀ clause, usable clause.unnumbered = usable clause) :
    ∀ (nodes : List (Node m κ ε)) (start : Nat),
    tries line usable (Node.unnumberedAll nodes) start =
      (tries line usable nodes start).map Path.unnumbered
  | [], _ => rfl
  | node :: rest, start => by
    rw [Node.unnumberedAll, tries, tries, triesThrough_unnumbered same node start,
      tries_unnumbered same rest start, List.map_append, List.map_map, List.map_map]
    rfl

end

/-- The values that attempts bind do not depend on the numbers. -/
theorem Attempt.deepest?_unnumbered (attempts : List (Attempt m κ ε)) (name : String) :
    deepest? (attempts.map unnumbered) name = deepest? attempts name := by
  induction attempts with
  | nil => rfl
  | cons first rest ih =>
    have own : first.unnumbered.node.name = first.node.name := by
      show first.node.unnumbered.clause.pattern.name = first.node.clause.pattern.name
      rw [Node.clause_unnumbered]
      rfl
    rw [List.map_cons, deepest?_cons, deepest?_cons, ih, own]
    rfl

end Tries

end CommandGrammar
