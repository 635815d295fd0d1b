import CommandGrammar.Proofs.Asking
import CommandGrammar.Proofs.Inheritance

/-!
# Access is never widened

Handlers are handed down to children, and requirements are not: a child asks nothing that its parent
asks already. What keeps a handler from running for a sender that its builder does not admit is the
path to the node whose chain has it. The nodes of the path are usable, and where every child was
attached to the builder that it was opened on, they are the builders of the line that the handler was
handed down on. So whatever is required on the handler's builder, or on one above it, holds
(`Cleared`), in whatever order requirements, handlers and children were declared.

The induction goes down the path. What it carries from a node to its children is `Cleared`: everything
above the builder admits the sender, and the line of the builder lies above it in the tree.
-/

set_option autoImplicit false

namespace CommandGrammar

open Call (provisionsOn attachedTo registered OnLine)

variable {m : Type → Type} {κ ε : Type}

namespace Call

/-- One builder stands above another in the forest that was built, or is the same. -/
def Above (calls : List (Call m κ ε)) : (upper lower : Nat) → Prop :=
  Relation.ReflTransGen fun parent held => Call.attach parent held ∈ calls

/-- Every child is attached to the builder that it was opened on, and only roots are registered. -/
structure Homed (calls : List (Call m κ ε)) : Prop where
  attached : ∀ parent held, Call.attach parent held ∈ calls →
    ∃ pattern, Call.child held parent pattern ∈ calls
  registered : ∀ id, Call.register id ∈ calls → ∃ name, Call.root id name ∈ calls

/-- All requirements that are declared on a builder, by whatever call, hold. -/
def Admits (calls : List (Call m κ ε)) (verdict : (Sender m κ → m Bool) → Bool) (id : Nat) : Prop :=
  ∀ requirement, Call.provide id (.require requirement) ∈ calls → verdict requirement = true

/-- All builders above a builder admit the sender, and the line of the builder is above it. -/
structure Cleared (calls : List (Call m κ ε)) (verdict : (Sender m κ → m Bool) → Bool) (id : Nat) :
    Prop where
  admits : ∀ upper, Above calls upper id → Admits calls verdict upper
  line : ∀ upper, OnLine calls upper id → Above calls upper id

section Cleared

variable {calls : List (Call m κ ε)} {bench : Bench m κ ε} {id held : Nat}
  {verdict : (Sender m κ → m Bool) → Bool}

/-- A root that admits the sender is cleared. -/
theorem Cleared.root (numbered : Numbered calls bench) (homed : Homed calls)
    (made : Call.register id ∈ calls) (own : Admits calls verdict id) : Cleared calls verdict id where
  admits := by
    intro upper above
    rcases Relation.ReflTransGen.cases_tail above with rfl | ⟨parent, _, attached⟩
    · exact own
    · cases eq_of_key numbered.finishes attached made rfl rfl
  line := by
    intro upper line
    rcases Relation.ReflTransGen.cases_tail line with rfl | ⟨parent, _, pattern, opened⟩
    · exact .refl
    · obtain ⟨name, atRoot⟩ := homed.registered id made
      cases eq_of_key numbered.nodup_opens opened atRoot rfl rfl

/-- A child that admits the sender is cleared, if its parent is. -/
theorem Cleared.child (numbered : Numbered calls bench) (homed : Homed calls)
    (cleared : Cleared calls verdict id) (made : Call.attach id held ∈ calls)
    (own : Admits calls verdict held) : Cleared calls verdict held where
  admits := by
    intro upper above
    rcases Relation.ReflTransGen.cases_tail above with rfl | ⟨parent, above, attached⟩
    · exact own
    · cases eq_of_key numbered.finishes attached made rfl rfl
      exact cleared.admits upper above
  line := by
    intro upper line
    rcases Relation.ReflTransGen.cases_tail line with rfl | ⟨parent, line, pattern, opened⟩
    · exact .refl
    · obtain ⟨pattern', home⟩ := homed.attached id held made
      cases eq_of_key numbered.nodup_opens opened home rfl rfl
      exact (cleared.line upper line).tail made

end Cleared

end Call

open Call (Above Admits Cleared Homed)

/-! ## The builder of a node -/

/-- The builder whose node stands at an address among the nodes of some builders. -/
inductive StandsAt (children : Nat → List Nat) : (ids address : List Nat) → (id : Nat) → Prop
  | here {ids : List Nat} {position id : Nat} :
      ids[position]? = some id → StandsAt children ids [position] id
  | deeper {ids address : List Nat} {position id lower : Nat} :
      ids[position]? = some id → StandsAt children (children id) address lower →
      StandsAt children ids (position :: address) lower

/-- The node at a position follows the builder at that position. -/
theorem Node.AllFollow.getElem? {children : Nat → List Nat} {fits : Nat → Clause m κ ε → Prop}
    {nodes : List (Node m κ ε)} {ids : List Nat} {node : Node m κ ε} {position : Nat}
    (follow : Node.AllFollow children fits nodes ids) (at_ : nodes[position]? = some node) :
    ∃ id, ids[position]? = some id ∧ node.Follows children fits id := by
  induction nodes generalizing ids position with
  | nil => simp at at_
  | cons first rest ih =>
    obtain ⟨id, others, rfl, follows, behind⟩ := follow
    cases position with
    | zero =>
      obtain rfl : first = node := by simpa using at_
      exact ⟨id, rfl, follows⟩
    | succ position =>
      obtain ⟨lower, atLower, follows⟩ := ih behind (by simpa using at_)
      exact ⟨lower, by simpa using atLower, follows⟩

mutual

/-- Every clause of a node that follows its builder fits some builder. -/
theorem Node.Follows.exists_fits {children : Nat → List Nat} {fits : Nat → Clause m κ ε → Prop} :
    ∀ {node : Node m κ ε} {id : Nat}, node.Follows children fits id →
      ∀ clause ∈ node.clauses, ∃ id, fits id clause
  | .mk own nodes, id, follows, clause, member => by
    rw [Node.clauses] at member
    rcases List.mem_cons.mp member with rfl | below
    · exact ⟨id, follows.1⟩
    · exact Node.AllFollow.exists_fits follows.2 clause below

theorem Node.AllFollow.exists_fits {children : Nat → List Nat}
    {fits : Nat → Clause m κ ε → Prop} :
    ∀ {nodes : List (Node m κ ε)} {ids : List Nat}, Node.AllFollow children fits nodes ids →
      ∀ clause ∈ Node.allClauses nodes, ∃ id, fits id clause
  | [], _, _, _, member => nomatch member
  | node :: rest, ids, follow, clause, member => by
    obtain ⟨id, others, rfl, first, behind⟩ := follow
    rw [Node.allClauses] at member
    rcases List.mem_append.mp member with within | later
    · exact first.exists_fits clause within
    · exact behind.exists_fits clause later

end

section Told

variable {calls : List (Call m κ ε)} {bench : Bench m κ ε} {id : Nat} {clause : Clause m κ ε}
  {verdict : (Sender m κ → m Bool) → Bool}

/-- A node asks what its own builder requires, in the order of declaration, and nothing else. -/
theorem Told.requirements (told : Told calls id clause) :
    clause.requirements = (provisionsOn calls id).filterMap Provision.requirement? := by
  obtain ⟨_, builder, _, tells, rfl⟩ := told
  exact tells.requirements

/-- Where all that a node asks holds, its builder admits the sender. -/
theorem Told.admits (told : Told calls id clause) (use : clause.requirements.all verdict = true) :
    Admits calls verdict id := by
  intro requirement made
  refine List.all_eq_true.mp use requirement ?_
  rw [told.requirements]
  exact List.mem_filterMap.mpr ⟨_, Call.mem_provisionsOn.mpr made, rfl⟩

/-- Every handler of a chain was declared on the line of its builder. -/
theorem Told.handler_onLine {chain : Chain m κ ε} {handler : Handler m κ ε}
    (told : Told calls id clause) (chained : clause.chain = some chain)
    (member : handler ∈ chain.handlers) :
    ∃ declarer, Call.provide declarer (.handle handler) ∈ calls ∧ OnLine calls declarer id := by
  obtain ⟨inherited, builder, ⟨root, _, _, down⟩, tells, rfl⟩ := told
  rw [tells.handlers_eq chained, tells.handlers] at member
  obtain ⟨provision, counts, declares⟩ := List.mem_filterMap.mp member
  cases provision with
  | handle other =>
    cases declares
    rcases List.mem_append.mp counts with handed | own
    · obtain ⟨declarer, _, line, made⟩ := down.made.2 _ handed
      exact ⟨declarer, made, line⟩
    · exact ⟨id, Call.mem_provisionsOn.mp own, .refl⟩
  | _ => cases declares

/-- At the end of a path of usable nodes stands a builder that is cleared. -/
theorem Tried.cleared {line : List Char} {nodes : List (Node m κ ε)} {ids : List Nat} {start : Nat}
    {path : Path m κ ε} (numbered : Numbered calls bench) (homed : Homed calls)
    (tried : Tried line (fun clause => clause.requirements.all verdict) nodes start path)
    (follow : Node.AllFollow (attachedTo calls) (Told calls) nodes ids)
    (enter : ∀ id ∈ ids, Admits calls verdict id → Cleared calls verdict id) :
    ∃ id, StandsAt (attachedTo calls) ids path.address id ∧ Told calls id path.last.node.clause ∧
      Cleared calls verdict id := by
  -- Downwards: what lets the line enter the roots lets it enter the children of a cleared builder.
  induction tried generalizing ids with
  | @here nodes start position node at_ use =>
    obtain ⟨id, atId, follows⟩ := follow.getElem? at_
    obtain ⟨clause, children⟩ := node
    have admits : Admits calls verdict id := Told.admits follows.1 use
    exact ⟨id, .here atId, follows.1, enter id (List.mem_of_getElem? atId) admits⟩
  | @deeper nodes start position stop node parsed path at_ use _ _ _ ih =>
    obtain ⟨id, atId, follows⟩ := follow.getElem? at_
    obtain ⟨clause, children⟩ := node
    have admits : Admits calls verdict id := Told.admits follows.1 use
    have cleared := enter id (List.mem_of_getElem? atId) admits
    obtain ⟨lower, stands, told, clear⟩ := ih follows.2 fun held member own =>
      cleared.child numbered homed (Call.mem_attachedTo.mp member) own
    exact ⟨lower, .deeper atId stands, told, clear⟩

/-- Where children are attached to the builders that they were opened on, every tried path of the
grammar ends at a builder that is cleared. -/
theorem cleared_of_tried {line : List Char} {start : Nat} {path : Path m κ ε}
    (made : Bench.empty.run calls = some bench) (homed : Homed calls)
    (tried : Tried line (fun clause => clause.requirements.all verdict) bench.roots start path) :
    ∃ id, StandsAt (attachedTo calls) (registered calls) path.address id ∧
      Told calls id path.last.node.clause ∧ Cleared calls verdict id := by
  have numbered := numbered_of_run made
  have told : bench.NodesFit calls (Told calls) := (accounts_of_run made).nodesFit fun _ _ told => told
  refine tried.cleared numbered homed told.roots fun id member own => ?_
  exact Cleared.root numbered homed (Call.mem_registered.mp member) own

end Told

/-! ## Who may use a node, and what runs -/

variable [Monad m] [LawfulMonad m]

/-- Requirements behind others are asked if those hold. -/
theorem allM_append {α : Type} (asks : α → m Bool) (front back : List α) :
    (front ++ back).allM asks = do
      if ← front.allM asks then back.allM asks else return false := by
  induction front with
  | nil => simp
  | cons first rest ih =>
    rw [List.cons_append, List.allM_cons, List.allM_cons, ih, bind_assoc]
    refine bind_congr fun holds => ?_
    cases holds with
    | true => rfl
    | false => simp

/-- How the node of a builder is asked whether a sender may use it. -/
structure RequirementsOf (calls : List (Call m κ ε)) (id : Nat) (clause : Clause m κ ε) : Prop where
  /-- It asks what is required on its own builder, in the order of declaration. -/
  own : clause.requirements = (provisionsOn calls id).filterMap Provision.requirement?
  /-- What stands behind a requirement is asked only if that holds. -/
  ordered : ∀ sender front requirement back, clause.requirements = front ++ requirement :: back →
    clause.allows sender = do
      if ← front.allM fun earlier => earlier sender then
        if ← requirement sender then back.allM fun later => later sender else return false
      else return false
  /-- The sender may use the node exactly when all of them hold. -/
  allows : ∀ sender verdict,
    (∀ requirement ∈ clause.requirements, requirement sender = pure (verdict requirement)) →
    clause.allows sender = pure (clause.requirements.all verdict)

/-- What a clause asks that its provisions make. -/
theorem Told.requirementsOf {calls : List (Call m κ ε)} {id : Nat} {clause : Clause m κ ε}
    (told : Told calls id clause) : RequirementsOf calls id clause where
  own := told.requirements
  ordered := by
    intro sender front requirement back split_
    rw [Clause.allows, split_, allM_append]
    refine bind_congr fun holds => ?_
    rw [List.allM_cons]
  allows := fun _ _ functions => allM_requirements clause.requirements functions

/-- What a sender's line comes to in the forest that calls have made, given what the requirements
answer about the sender. -/
structure NeverWidens [DecidableEq κ] (calls : List (Call m κ ε)) (bench : Bench m κ ε)
    (input : String) (sender : Sender m κ) (verdict : (Sender m κ → m Bool) → Bool) : Prop where
  /-- Running the line is refused without effect, or it runs one chain. The node of the chain stands
  where a full path ends. Every handler of the chain was declared on the builder of the node or on
  one above it, and the declarer and all builders above that admit the sender. -/
  execute : (∃ error, bench.grammar.execute input sender = pure (.error error)) ∨
    ∃ path id chain arguments,
      FullPath input.toList (fun clause => clause.requirements.all verdict) bench.roots path ∧
      StandsAt (attachedTo calls) (registered calls) path.address id ∧
      path.last.node.clause.chain = some chain ∧
      bench.grammar.execute input sender =
        Except.mapError .execution <$> chain.run sender input arguments ∧
      ∀ handler ∈ chain.handlers, ∃ declarer, Call.provide declarer (.handle handler) ∈ calls ∧
        Above calls declarer id ∧ ∀ upper, Above calls upper declarer → Admits calls verdict upper
  /-- Completing the line asks the nodes at the ends of some paths, and each of them stands for a
  builder that admits the sender, as do all builders above it. -/
  complete : ∃ asked : List (Path m κ ε),
    (bench.grammar.complete input sender =
      asked.mapM fun path => path.last.node.clause.offers (path.query input.toList sender [])) ∧
    ∀ path ∈ asked, ∃ id, StandsAt (attachedTo calls) (registered calls) path.address id ∧
      ∀ upper, Above calls upper id → Admits calls verdict upper
  /-- Every node asks what is required on its own builder. -/
  requirements : bench.NodesFit calls (RequirementsOf calls)

section Access

variable {calls : List (Call m κ ε)} {bench : Bench m κ ε} {input : String} {sender : Sender m κ}
  {verdict : (Sender m κ → m Bool) → Bool}

/-- Requirements that are functions of the sender decide who may use the nodes made of them. -/
theorem decided_of_calls (made : Bench.empty.run calls = some bench)
    (functions : ∀ id requirement, Call.provide id (.require requirement) ∈ calls →
      requirement sender = pure (verdict requirement)) :
    Decided sender (fun clause => clause.requirements.all verdict) bench.roots := by
  refine decided_of_requirements fun clause member requirement asked => ?_
  obtain ⟨id, told⟩ := ((accounts_of_run made).nodesFit fun _ _ told => told).roots.exists_fits
    clause member
  rw [Told.requirements told] at asked
  obtain ⟨provision, declared, reads⟩ := List.mem_filterMap.mp asked
  cases provision with
  | require other =>
    cases reads
    exact functions id requirement (Call.mem_provisionsOn.mp declared)
  | _ => cases reads

/-- Neither running nor completing a line lets a sender past a requirement. -/
theorem access_never_widened [DecidableEq κ] (made : Bench.empty.run calls = some bench)
    (homed : Homed calls)
    (functions : ∀ id requirement, Call.provide id (.require requirement) ∈ calls →
      requirement sender = pure (verdict requirement)) :
    NeverWidens calls bench input sender verdict := by
  have decided : Decided sender _ bench.grammar.roots := decided_of_calls made functions
  refine ⟨?_, ?_, (accounts_of_run made).nodesFit fun _ _ told => told.requirementsOf⟩
  · have selects : bench.grammar.select input.toList sender = _ := Grammar.select_eq_ofTries decided
    cases selected : Search.ofTries input.toList .empty _ with
    | missed deepest =>
      rw [selected] at selects
      exact .inl ⟨_, Grammar.execute_of_missed selects⟩
    | found node arguments =>
      rw [selected] at selects
      have runs := Grammar.execute_of_found selects
      obtain ⟨path, first, rfl, _⟩ := Search.isFirst_of_ofTries selected
      obtain ⟨id, stands, told, cleared⟩ := cleared_of_tried made homed first.has.tried
      cases chained : path.last.node.clause.chain with
      | none =>
        rw [chained] at runs
        exact .inl ⟨_, runs⟩
      | some chain =>
        rw [chained] at runs
        refine .inr ⟨path, id, chain, arguments, first.has, stands, chained, runs, ?_⟩
        intro handler member
        obtain ⟨declarer, declares, line⟩ := told.handler_onLine chained member
        have above := cleared.line declarer line
        exact ⟨declarer, declares, above, fun upper higher =>
          cleared.admits upper (higher.trans above)⟩
  · refine ⟨_, Grammar.complete_eq_visits decided, fun path asked => ?_⟩
    obtain ⟨id, stands, _, cleared⟩ :=
      cleared_of_tried made homed (mem_tries.mp (List.mem_filter.mp asked).1)
    exact ⟨id, stands, cleared.admits⟩

end Access

namespace Sample

/-- A requirement is declared on a command after its handler, and after the child that is handed the
handler down. -/
def guarding : List (Call Journal Unit Empty) :=
  [ .root 0 "manage",
    .provide 0 (.handle (writes 0 "manage")),
    .child 1 0 (.argument "target" .word),
    .provide 1 .rebind,
    .provide 0 (.require operates),
    .attach 0 1,
    .register 0 ]

theorem homed_guarding : Homed guarding where
  attached := by simp [guarding]
  registered := by simp [guarding]

theorem functions_guarding (id : Nat) (requirement : Sender Journal Unit → Journal Bool)
    (made : Call.provide id (.require requirement) ∈ guarding) :
    requirement guest = pure (answer requirement) := by
  obtain ⟨rfl, rfl⟩ : id = 0 ∧ requirement = operates := by simpa [guarding] using made
  rfl

end Sample

/-- A guest does not get at the handler by way of the child. -/
theorem access_never_widened_target :
    ∃ bench, Bench.empty.run Sample.guarding = some bench ∧
      NeverWidens Sample.guarding bench "manage ann" Sample.guest Sample.answer ∧
      ((bench.grammar.execute "manage ann" Sample.guest).run []).2 = [] :=
  ⟨_, rfl, access_never_widened rfl Sample.homed_guarding Sample.functions_guarding, rfl⟩

end CommandGrammar
