import CommandGrammar.Grammar
import Mathlib.Data.List.Basic

/-!
# Who may use a node

Whether a sender may use a node is asked over and over while a line is searched. What is proved of
searching and completing takes the answers to depend on nothing but the sender: asking has no effect
on the host, and `usable` says for each clause of the forest what the answer is. That is so when the
requirements themselves are functions of the sender (`decided_of_requirements`).

The small grammar of `Sample` is one for which this holds: its requirements ask for a permission, and
its host keeps a journal of the chains that are run.
-/

set_option autoImplicit false

namespace CommandGrammar

variable {m : Type → Type} {κ ε : Type}

mutual

/-- The clauses of a node and of everything below it. -/
def Node.clauses : Node m κ ε → List (Clause m κ ε)
  | .mk clause children => clause :: Node.allClauses children

/-- The clauses of nodes and of everything below them. -/
def Node.allClauses : List (Node m κ ε) → List (Clause m κ ε)
  | [] => []
  | node :: rest => node.clauses ++ Node.allClauses rest

end

namespace Node

variable {node : Node m κ ε} {nodes : List (Node m κ ε)}

/-- The clauses of nodes hold those of each of them. -/
theorem clauses_subset (member : node ∈ nodes) : node.clauses ⊆ allClauses nodes := by
  induction nodes with
  | nil => cases member
  | cons first rest ih =>
    rw [allClauses]
    rcases List.mem_cons.mp member with rfl | behind
    · exact List.subset_append_left _ _
    · exact List.Subset.trans (ih behind) (List.subset_append_right _ _)

/-- The clauses of nodes hold the own clause of each of them. -/
theorem clause_mem_allClauses (member : node ∈ nodes) : node.clause ∈ allClauses nodes := by
  refine clauses_subset member ?_
  obtain ⟨clause, children⟩ := node
  rw [clauses]
  exact List.mem_cons_self

/-- The clauses of nodes hold everything below each of them. -/
theorem allClauses_children_subset (member : node ∈ nodes) :
    allClauses node.children ⊆ allClauses nodes := by
  refine List.Subset.trans ?_ (clauses_subset member)
  obtain ⟨clause, children⟩ := node
  rw [clauses]
  exact List.subset_cons_self _ _

end Node

/-- Asking whether the sender may use a node of the forest does nothing, and `usable` is the answer.
-/
def Decided [Monad m] (sender : Sender m κ) (usable : Clause m κ ε → Bool)
    (nodes : List (Node m κ ε)) : Prop :=
  ∀ clause ∈ Node.allClauses nodes, clause.allows sender = pure (usable clause)

section Decided

variable [Monad m] {sender : Sender m κ} {usable : Clause m κ ε → Bool} {node : Node m κ ε}
  {rest : List (Node m κ ε)}

/-- The first node may be used or not. -/
theorem Decided.head (decided : Decided sender usable (node :: rest)) :
    node.clause.allows sender = pure (usable node.clause) :=
  decided node.clause (Node.clause_mem_allClauses List.mem_cons_self)

/-- The answers for the children of the first node. -/
theorem Decided.children (decided : Decided sender usable (node :: rest)) :
    Decided sender usable node.children :=
  fun clause below => decided clause (Node.allClauses_children_subset List.mem_cons_self below)

/-- The answers for the nodes behind the first. -/
theorem Decided.tail (decided : Decided sender usable (node :: rest)) :
    Decided sender usable rest := by
  intro other behind
  exact decided other (by simp [Node.allClauses, behind])

/-- Requirements that are functions of the sender are asked without effect, and all of them must hold.
-/
theorem allM_requirements [LawfulMonad m] {verdict : (Sender m κ → m Bool) → Bool} :
    ∀ (requirements : List (Sender m κ → m Bool)),
      (∀ requirement ∈ requirements, requirement sender = pure (verdict requirement)) →
      (requirements.allM fun requirement => requirement sender) = pure (requirements.all verdict)
  | [], _ => rfl
  | first :: others, functions => by
    have behind := allM_requirements others fun requirement member =>
      functions requirement (List.mem_cons_of_mem _ member)
    rw [List.allM_cons, functions first List.mem_cons_self, pure_bind, List.all_cons]
    cases verdict first with
    | false => rfl
    | true => rw [if_pos rfl, behind, Bool.true_and]

/-- Requirements that are functions of the sender decide who may use a node. -/
theorem decided_of_requirements [LawfulMonad m] {nodes : List (Node m κ ε)}
    {verdict : (Sender m κ → m Bool) → Bool}
    (functions : ∀ clause ∈ Node.allClauses nodes, ∀ requirement ∈ clause.requirements,
      requirement sender = pure (verdict requirement)) :
    Decided sender (fun clause => clause.requirements.all verdict) nodes :=
  fun clause member => allM_requirements clause.requirements (functions clause member)

end Decided

/-! ## A grammar with hidden nodes -/

namespace Sample

/-- A host that keeps a journal. -/
abbrev Journal : Type → Type :=
  StateM (List String)

/-- A sender without any permission. -/
def guest : Sender Journal Unit :=
  { kind := (), name := "guest", permits := fun _ => false, identity := none
    tell := fun _ => pure () }

/-- Holds for the senders that may operate the host. -/
def operates (sender : Sender Journal Unit) : Journal Bool :=
  pure (sender.permits "operate")

/-- A node whose chain writes a label into the journal and does not claim the invocation. -/
def node (label : String) (pattern : Pattern)
    (requirements : List (Sender Journal Unit → Journal Bool))
    (children : List (Node Journal Unit Empty)) : Node Journal Unit Empty :=
  .mk
    { pattern, requirements, source := none, mappers := []
      chain := some
        { handlers :=
            [⟨.anyone, 0, .direct fun _ => do
              modify (· ++ [label])
              return .ok false⟩]
          mappers := [] } }
    children

/-- Two commands, and a third of the first one's name that only operators see. -/
def grammar : Grammar Journal Unit Empty :=
  { declared := 0
    roots :=
      [ node "all that is hidden" (.literal "give") [operates]
          [node "the hidden rest" (.argument "rest" .greedy) [] []],
        node "give" (.literal "give") []
          [ node "target" (.argument "target" .word) []
              [ node "amount" (.argument "amount" .anyInteger) [] [],
                node "everything" (.argument "everything" .greedy) [operates] [] ],
            node "note" (.argument "note" .greedy) [] [] ],
        node "tell" (.literal "tell") []
          [ node "whom" (.argument "whom" .word) []
              [node "level" (.argument "level" .anyInteger) [] []],
            node "all" (.literal "all") [] [] ] ] }

/-- What a requirement answers about the guest. -/
def answer (requirement : Sender Journal Unit → Journal Bool) : Bool :=
  ((requirement guest).run []).1

/-- What the guest may use. -/
def usable (clause : Clause Journal Unit Empty) : Bool :=
  clause.requirements.all answer

/-- What the guest may use is decided. -/
theorem decided : Decided guest usable grammar.roots := by
  have functions : ∀ clause ∈ Node.allClauses grammar.roots, ∀ requirement ∈ clause.requirements,
      requirement = operates := by
    simp [Node.allClauses, Node.clauses, grammar, node]
  refine decided_of_requirements fun clause member requirement asked => ?_
  rw [functions clause member requirement asked]
  rfl

end Sample

end CommandGrammar
