import CommandGrammar.Proofs.Asking
import CommandGrammar.Proofs.Collecting

/-!
# Completions do not depend on an order

What a completion gives depends neither on the order in which tasks end nor on the order in which nodes
were declared. Of the tasks this is said by `Completion.Delivers`. Of the nodes: put the roots, and the
children of any nodes, in another order (`Node.AllRearranged`). Then the same nodes are asked, about the
same arguments and the same rest of the line, in another order (`Offers.questions_perm`). That is so
because the walk takes back what a token bound before it goes on to the node's siblings, so that no
question depends on the siblings of the nodes above it.

Sources are taken to be functions of what they are asked, so far as their answers go
(`Clause.Answers`). The requirements may do what they like for the first part; where they decide who may
use a node it is known which nodes are asked, and the second part holds.
-/

set_option autoImplicit false

namespace CommandGrammar

open Text

variable {m : Type → Type} {κ ε : Type}

/-! ## Forests in another order -/

mutual

/-- The nodes differ in nothing but the order of children, anywhere below them. -/
inductive Node.Rearranged : Node m κ ε → Node m κ ε → Prop
  | mk {clause : Clause m κ ε} {children children' : List (Node m κ ε)} :
      Node.AllRearranged children children' →
      Node.Rearranged (.mk clause children) (.mk clause children')

/-- The forests differ in nothing but the order of their nodes, and of children anywhere below them. -/
inductive Node.AllRearranged : List (Node m κ ε) → List (Node m κ ε) → Prop
  | nil : Node.AllRearranged [] []
  | cons {node node' : Node m κ ε} {rest rest' : List (Node m κ ε)} :
      Node.Rearranged node node' → Node.AllRearranged rest rest' →
      Node.AllRearranged (node :: rest) (node' :: rest')
  | swap (first second : Node m κ ε) (rest : List (Node m κ ε)) :
      Node.AllRearranged (first :: second :: rest) (second :: first :: rest)
  | trans {nodes nodes' nodes'' : List (Node m κ ε)} :
      Node.AllRearranged nodes nodes' → Node.AllRearranged nodes' nodes'' →
      Node.AllRearranged nodes nodes''

end

mutual

/-- Rearranged nodes have the same clauses. -/
theorem Node.Rearranged.clauses_perm : ∀ {node node' : Node m κ ε}, Node.Rearranged node node' →
    (Node.clauses node).Perm (Node.clauses node')
  | _, _, .mk below => by
    rw [Node.clauses, Node.clauses]
    exact .cons _ below.allClauses_perm

/-- So do rearranged forests. -/
theorem Node.AllRearranged.allClauses_perm : ∀ {nodes nodes' : List (Node m κ ε)},
    Node.AllRearranged nodes nodes' → (Node.allClauses nodes).Perm (Node.allClauses nodes')
  | _, _, .nil => .refl _
  | _, _, .cons first rest => by
    rw [Node.allClauses, Node.allClauses]
    exact first.clauses_perm.append rest.allClauses_perm
  | _, _, .swap first second rest => by
    simp only [Node.allClauses, ← List.append_assoc]
    exact List.perm_append_comm.append_right _
  | _, _, .trans before after => before.allClauses_perm.trans after.allClauses_perm

end

/-! ## The questions of a line -/

namespace Offers

/-- A node that is asked, and what it is asked. -/
structure Question (m : Type → Type) (κ ε : Type) where
  clause : Clause m κ ε
  query : Completion.Query m κ ε

variable [Monad m] {line : List Char} {sender : Sender m κ} {usable : Clause m κ ε → Bool}

/-- The question that is put to the last node of a path, given the arguments bound above the path. -/
def question (line : List Char) (sender : Sender m κ) (arguments : Bindings) (path : Path m κ ε) :
    Question m κ ε :=
  ⟨path.last.node.clause, path.query line sender arguments⟩

/-- The questions that are put to the last nodes of those paths that are asked. -/
def questionsOf (line : List Char) (sender : Sender m κ) (arguments : Bindings)
    (paths : List (Path m κ ε)) : List (Question m κ ε) :=
  (paths.filter (Path.isAsked line)).map (question line sender arguments)

/-- The questions that are put to nodes whose tokens start at `start`, and to those below them. -/
def questions (line : List Char) (sender : Sender m κ) (usable : Clause m κ ε → Bool)
    (nodes : List (Node m κ ε)) (start : Nat) (arguments : Bindings) : List (Question m κ ε) :=
  questionsOf line sender arguments (tries line usable nodes start)

/-- The questions that are put to one node, and to those below it. -/
def questionsThrough (line : List Char) (sender : Sender m κ) (usable : Clause m κ ε → Bool)
    (node : Node m κ ε) (start : Nat) (arguments : Bindings) : List (Question m κ ε) :=
  questionsOf line sender arguments (triesThrough line usable node start)

/-- The nodes are asked one after the other. -/
theorem questions_cons (node : Node m κ ε) (rest : List (Node m κ ε)) (start : Nat)
    (arguments : Bindings) :
    questions line sender usable (node :: rest) start arguments =
      questionsThrough line sender usable node start arguments ++
        questions line sender usable rest start arguments := by
  unfold questions questionsThrough questionsOf
  rw [tries, List.filter_append, List.map_append, List.filter_map, List.map_map]
  rfl

/-- One path after the other is asked. -/
theorem questionsOf_cons (arguments : Bindings) (path : Path m κ ε) (paths : List (Path m κ ε)) :
    questionsOf line sender arguments (path :: paths) =
      questionsOf line sender arguments [path] ++ questionsOf line sender arguments paths := by
  unfold questionsOf
  rw [← List.map_append, ← List.filter_append, List.singleton_append]

/-- The paths below a node are asked about the node's value too. -/
theorem questionsOf_map_under (arguments : Bindings) (attempt : Attempt m κ ε)
    (paths : List (Path m κ ε)) :
    questionsOf line sender arguments (paths.map (.under 0 attempt)) =
      questionsOf line sender (attempt.bind arguments) paths := by
  unfold questionsOf
  rw [List.filter_map, List.map_map]
  rfl

/-- A question that is put to a node does not depend on its children. -/
theorem questionsOf_single (clause : Clause m κ ε) (children children' : List (Node m κ ε))
    (start : Nat) (arguments : Bindings) :
    questionsOf line sender arguments [.single 0 (.make line (.mk clause children) start)] =
      questionsOf line sender arguments [.single 0 (.make line (.mk clause children') start)] := by
  have same : (Path.single 0 (.make line (.mk clause children) start)).isAsked line =
      (Path.single 0 (.make line (.mk clause children') start)).isAsked line := rfl
  unfold questionsOf
  rw [List.filter_singleton, List.filter_singleton, same]
  cases (Path.single 0 (.make line (.mk clause children') start)).isAsked line <;> rfl

/-- What is asked of a node and below it is told by its clause and by what is asked below it. -/
theorem questionsThrough_congr {clause : Clause m κ ε} {children children' : List (Node m κ ε)}
    {start : Nat} {arguments : Bindings}
    (below : ∀ next inner, (questions line sender usable children next inner).Perm
      (questions line sender usable children' next inner)) :
    (questionsThrough line sender usable (.mk clause children) start arguments).Perm
      (questionsThrough line sender usable (.mk clause children') start arguments) := by
  have own : questionsOf line sender arguments _ = questionsOf line sender arguments _ :=
    questionsOf_single clause children children' start arguments
  unfold questionsThrough
  cases use : usable clause with
  | false =>
    rw [triesThrough_of_unusable (show usable (Node.mk clause children).clause = false from use),
      triesThrough_of_unusable (show usable (Node.mk clause children').clause = false from use)]
  | true =>
    replace use : ∀ children, usable (Node.mk clause children).clause = true := fun _ => use
    cases leads : (Attempt.make line (.mk clause children) start).next? line with
    | none =>
      have leads' : (Attempt.make line (.mk clause children') start).next? line = none := leads
      rw [triesThrough_of_last (use _) leads, triesThrough_of_last (use _) leads', own]
    | some next =>
      have leads' : (Attempt.make line (.mk clause children') start).next? line = some next := leads
      rw [triesThrough_of_inside (use _) leads, triesThrough_of_inside (use _) leads',
        questionsOf_cons, questionsOf_cons _ (.single 0 (.make line (.mk clause children') start)),
        questionsOf_map_under, questionsOf_map_under, own]
      exact (below next _).append_left _

mutual

/-- A rearranged node is asked the same, and so are the nodes below it, in another order. -/
theorem questionsThrough_perm : ∀ {node node' : Node m κ ε}, Node.Rearranged node node' →
    ∀ start arguments, (questionsThrough line sender usable node start arguments).Perm
      (questionsThrough line sender usable node' start arguments)
  | _, _, .mk below, _, _ => questionsThrough_congr (questions_perm below)

/-- The nodes of a rearranged forest are asked the same, in another order. -/
theorem questions_perm : ∀ {nodes nodes' : List (Node m κ ε)}, Node.AllRearranged nodes nodes' →
    ∀ start arguments, (questions line sender usable nodes start arguments).Perm
      (questions line sender usable nodes' start arguments)
  | _, _, .nil, _, _ => .refl _
  | _, _, .cons first rest, start, arguments => by
    rw [questions_cons, questions_cons]
    exact (questionsThrough_perm first start arguments).append (questions_perm rest start arguments)
  | _, _, .swap first second rest, start, arguments => by
    simp only [questions_cons, ← List.append_assoc]
    exact List.perm_append_comm.append_right _
  | _, _, .trans before after, start, arguments =>
    (questions_perm before start arguments).trans (questions_perm after start arguments)

end

end Offers

/-! ## What is answered -/

section Answering

variable [Monad m]

/-- What a node comes to when it is asked, now or later: some offers, or none where its scheduler has
stopped or its task breaks off. Whatever asking does, and the task, it is this that they come to. -/
def Clause.Answers (clause : Clause m κ ε) (query : Completion.Query m κ ε)
    (value : Option (List String)) : Prop :=
  match clause.source with
  | some (.immediate offer) => Yields (fun offers => value = some offers) (offer query)
  | some (.deferred .running work) => Yields (· = value) (work query).run
  | some (.deferred .stopped _) => value = none
  | none =>
    match clause.pattern with
    | .literal name => value = some (Completion.matching [name] query.remaining)
    | .argument .. => value = some []

/-- Sources whose answers are functions of what they are asked. -/
def Node.AnswersKnown (nodes : List (Node m κ ε))
    (answer : Offers.Question m κ ε → Option (List String)) : Prop :=
  ∀ clause ∈ Node.allClauses nodes, ∀ query, clause.Answers query (answer ⟨clause, query⟩)

/-- A node that is asked gives an answer that comes to this. -/
theorem Clause.Answers.offers [LawfulMonad m] {clause : Clause m κ ε} {query : Completion.Query m κ ε}
    {value : Option (List String)} (answers : clause.Answers query value) :
    Yields (Completion.Pending.Comes value) (clause.offers query) := by
  unfold Clause.Answers at answers
  unfold Clause.offers
  cases held : clause.source with
  | none =>
    rw [held] at answers
    cases pattern : clause.pattern with
    | literal name =>
      rw [pattern] at answers
      exact .pure_ answers
    | argument name form =>
      rw [pattern] at answers
      exact .pure_ answers
  | some source =>
    rw [held] at answers
    cases source with
    | immediate offer =>
      have gives : Yields (fun offers => value = some offers) (offer query) := answers
      exact gives.bind fun _ same => .pure_ same
    | deferred scheduler work =>
      cases scheduler with
      | running => exact .pure_ answers
      | stopped => exact .pure_ answers

variable {line : List Char} {sender : Sender m κ} {usable : Clause m κ ε → Bool}
  {answer : Offers.Question m κ ε → Option (List String)}

/-- The answers come to what the questions are answered. -/
def Offers.Answered (answer : Offers.Question m κ ε → Option (List String))
    (questions : List (Offers.Question m κ ε)) (answers : List (Completion.Pending m)) : Prop :=
  List.Forall₂ Completion.Pending.Comes (questions.map answer) answers

/-- What a walk asks, whatever the requirements answer: nodes of the forest. -/
def Offers.AskedAmong (answer : Offers.Question m κ ε → Option (List String))
    (nodes : List (Node m κ ε)) (answers : List (Completion.Pending m)) : Prop :=
  ∃ questions : List (Offers.Question m κ ε),
    (∀ question ∈ questions, question.clause ∈ Node.allClauses nodes) ∧
      Offers.Answered answer questions answers

namespace Offers.AskedAmong

variable {node : Node m κ ε} {rest : List (Node m κ ε)} {answers below after : List (Completion.Pending m)}

/-- Nobody is asked. -/
theorem nil (nodes : List (Node m κ ε)) : AskedAmong answer nodes [] :=
  ⟨[], nofun, .nil⟩

/-- What is asked of the later siblings is asked of all of them. -/
theorem later (asked : AskedAmong answer rest answers) : AskedAmong answer (node :: rest) answers := by
  obtain ⟨questions, among, answered⟩ := asked
  refine ⟨questions, fun question member => ?_, answered⟩
  rw [Node.allClauses]
  exact List.mem_append_right _ (among question member)

/-- The node is asked, and then its siblings are. -/
theorem here {query : Completion.Query m κ ε} {pending : Completion.Pending m}
    (comes : pending.Comes (answer ⟨node.clause, query⟩)) (asked : AskedAmong answer rest answers) :
    AskedAmong answer (node :: rest) (pending :: answers) := by
  obtain ⟨questions, among, answered⟩ := asked
  refine ⟨⟨node.clause, query⟩ :: questions, fun question member => ?_, .cons comes answered⟩
  rcases List.mem_cons.mp member with rfl | other
  · exact Node.clause_mem_allClauses List.mem_cons_self
  · rw [Node.allClauses]
    exact List.mem_append_right _ (among question other)

/-- Its children are asked, and then its siblings are. -/
theorem under (inner : AskedAmong answer node.children below) (asked : AskedAmong answer rest after) :
    AskedAmong answer (node :: rest) (below ++ after) := by
  obtain ⟨questions, among, answered⟩ := inner
  obtain ⟨others, among', answered'⟩ := asked
  refine ⟨questions ++ others, fun question member => ?_, ?_⟩
  · rcases List.mem_append.mp member with deeper | other
    · exact Node.allClauses_children_subset List.mem_cons_self (among question deeper)
    · rw [Node.allClauses]
      exact List.mem_append_right _ (among' question other)
  · unfold Answered
    rw [List.map_append]
    exact List.rel_append answered answered'

end Offers.AskedAmong

mutual

/-- Below a node, a walk asks nodes below it. -/
theorem Offers.walkBelow_asks [LawfulMonad m] : ∀ (node : Node m κ ε) (start : Nat)
    (arguments : Bindings), Node.AnswersKnown node.children answer →
    Yields (fun result => Offers.AskedAmong answer node.children result.1)
      (Offers.walkBelow line sender Clause.offers node start arguments)
  | .mk _ children, start, arguments, known => by
    rw [walkBelow]
    exact Offers.walk_asks children start arguments known

/-- Whatever the requirements answer, a walk asks some of the nodes, and each answer comes to what its
question is answered. -/
theorem Offers.walk_asks [LawfulMonad m] : ∀ (nodes : List (Node m κ ε)) (start : Nat)
    (arguments : Bindings), Node.AnswersKnown nodes answer →
    Yields (fun result => Offers.AskedAmong answer nodes result.1)
      (Offers.walk line sender Clause.offers nodes start arguments)
  | [], _, _, _ => by
    rw [walk]
    exact .pure_ (.nil _)
  | node :: rest, start, arguments, known => by
    have own : ∀ query, node.clause.Answers query (answer ⟨node.clause, query⟩) :=
      known _ (Node.clause_mem_allClauses List.mem_cons_self)
    have inner := fun next bound => Offers.walkBelow_asks node next bound
      fun clause deeper => known clause (Node.allClauses_children_subset List.mem_cons_self deeper)
    have behind := fun bound => Offers.walk_asks rest start bound fun clause member =>
      known clause (by rw [Node.allClauses]; exact List.mem_append_right _ member)
    have asked : ∀ query bound, Yields
        (fun result : List (Completion.Pending m) × Bindings =>
          Offers.AskedAmong answer (node :: rest) result.1) (do
        let here ← node.clause.offers query
        let (after, outer) ← Offers.walk line sender Clause.offers rest start bound
        return (here :: after, outer)) := by
      intro query bound
      refine (own query).offers.bind fun pending comes => ?_
      exact (behind bound).bind fun _ after => .pure_ (after.here comes)
    have passed : ∀ bound, Yields
        (fun result : List (Completion.Pending m) × Bindings =>
          Offers.AskedAmong answer (node :: rest) result.1)
        (Offers.walk line sender Clause.offers rest start bound) :=
      fun bound => (behind bound).imp fun _ after => after.later
    rw [Offers.walk_cons]
    refine (Yields.effect _).bind fun allowed _ => ?_
    cases allowed with
    | false => exact passed arguments
    | true =>
      rw [if_pos rfl]
      cases node.clause.pattern.consume line start with
      | error reason =>
        dsimp only
        split
        · exact passed arguments
        · exact asked _ arguments
      | ok token =>
        obtain ⟨stop, parsed⟩ := token
        dsimp only
        split
        · refine (inner _ _).bind fun _ below => ?_
          exact (behind _).bind fun _ after => .pure_ (below.under after)
        · exact asked _ arguments

end

/-- Where the requirements decide who may use a node, it is known what a completion asks, and it comes to
what these questions are answered. -/
theorem Grammar.complete_answers [LawfulMonad m] {grammar : Grammar m κ ε} {input : String}
    (decided : Decided sender usable grammar.roots) (known : Node.AnswersKnown grammar.roots answer) :
    Yields (Offers.Answered answer
        (Offers.questions input.toList sender usable grammar.roots 0 []))
      (grammar.complete input sender) := by
  rw [complete_eq_visits decided]
  refine Yields.mapM ?_
  unfold Offers.questions Offers.questionsOf
  rw [List.map_map, List.forall₂_map_right_iff, List.forall₂_same]
  intro path listed
  have member := (mem_tries.mp (List.mem_filter.mp listed).1).clause_mem
  exact (known _ member _).offers

end Answering

/-! ## One list for a line -/

namespace Grammar

variable [Monad m] [LawfulMonad m] {grammar : Grammar m κ ε}
  {answer : Offers.Question m κ ε → Option (List String)}

/-- The offers of those questions that come to anything, in strictly ascending order. -/
structure ListsOffers (answer : Offers.Question m κ ε → Option (List String))
    (questions : List (Offers.Question m κ ε)) (list : List String) : Prop where
  ascending : list.Pairwise (· < ·)
  mem_iff : ∀ text, text ∈ list ↔
    ∃ question ∈ questions, ∃ offers, answer question = some offers ∧ text ∈ offers

/-- What comes of completing a line, in whatever order the tasks of its answers end, and in whatever order
the nodes were declared. -/
structure CompletesInAnyOrder (grammar : Grammar m κ ε)
    (answer : Offers.Question m κ ε → Option (List String)) (input : String) (sender : Sender m κ) :
    Prop where
  /-- Whatever the requirements do, there is one answer for each of the nodes that are asked, and
  collecting the answers gives the offers of those that come to anything. -/
  delivers : Yields (fun answers => ∃ questions list,
      (∀ question ∈ questions, question.clause ∈ Node.allClauses grammar.roots) ∧
        Offers.Answered answer questions answers ∧ answers.length = questions.length ∧
        ListsOffers answer questions list ∧ Completion.Delivers answers list)
    (grammar.complete input sender)
  /-- Where the requirements decide who may use a node, it is known which nodes are asked. There is then
  one number of answers and one list for a line, for all grammars that differ in nothing but the order
  of their nodes. -/
  rearranged : ∀ usable, Decided sender usable grammar.roots →
    ∃ asked list, Asks grammar input sender usable asked ∧
      ListsOffers answer (asked.map (Offers.question input.toList sender [])) list ∧
      ∀ other : Grammar m κ ε, Node.AllRearranged grammar.roots other.roots →
        Yields (fun answers => answers.length = asked.length ∧ Completion.Delivers answers list)
          (other.complete input sender) ∧
        Yields (· = list) (other.completions input sender)

omit [Monad m] [LawfulMonad m] in
/-- The answers of some questions list their offers. -/
theorem listsOffers_offered (questions : List (Offers.Question m κ ε)) :
    ListsOffers answer questions (Completion.offered (questions.map answer)) where
  ascending := Completion.pairwise_offered _
  mem_iff := fun text => by
    rw [Completion.mem_offered]
    constructor
    · rintro ⟨offers, member, listed⟩
      obtain ⟨question, asked, same⟩ := List.mem_map.mp member
      exact ⟨question, asked, offers, same, listed⟩
    · rintro ⟨question, asked, offers, same, listed⟩
      exact ⟨offers, same ▸ List.mem_map_of_mem asked, listed⟩

/-- When sources are functions of what they are asked, a line has one list of completions, whatever the
order of tasks and nodes. -/
theorem completes_in_any_order (known : Node.AnswersKnown grammar.roots answer) (input : String)
    (sender : Sender m κ) : grammar.CompletesInAnyOrder answer input sender where
  delivers := by
    refine (Offers.walk_asks grammar.roots 0 [] known).bind fun result asked => .pure_ ?_
    obtain ⟨questions, among, answered⟩ := asked
    refine ⟨questions, _, among, answered, ?_, listsOffers_offered questions,
      Completion.delivers_of_comes answered⟩
    rw [← answered.length_eq, List.length_map]
  rearranged := by
    intro usable decided
    let asked := (tries input.toList usable grammar.roots 0).filter (Path.isAsked input.toList)
    let questions := asked.map (Offers.question input.toList sender [])
    refine ⟨asked, Completion.offered (questions.map answer), asks_tries decided,
      listsOffers_offered questions, fun other moved => ?_⟩
    have same := moved.allClauses_perm
    have decided' : Decided sender usable other.roots :=
      fun clause member => decided clause (same.mem_iff.mpr member)
    have known' : Node.AnswersKnown other.roots answer :=
      fun clause member => known clause (same.mem_iff.mpr member)
    have perm : questions.Perm (Offers.questions input.toList sender usable other.roots 0 []) :=
      Offers.questions_perm moved 0 []
    have delivered : Yields
        (fun answers => answers.length = asked.length ∧
          Completion.Delivers answers (Completion.offered (questions.map answer)))
        (other.complete input sender) := by
      refine (complete_answers decided' known').imp fun answers answered => ⟨?_, ?_⟩
      · rw [← answered.length_eq, List.length_map, ← perm.length_eq, List.length_map]
      · rw [Completion.offered_perm (perm.map answer)]
        exact Completion.delivers_of_comes answered
    exact ⟨delivered, delivered.bind fun answers found => found.2.collects⟩

end Grammar

namespace Sample

/-- An answer at once, one that is waited for, one that is dropped, and one whose task breaks off. -/
def sources : List (Completion.Source Journal Unit Empty) :=
  [ .immediate fun _ => pure ["bob", "ann"],
    .deferred .running fun _ => ⟨50, pure (some ["cid", "ann"])⟩,
    .deferred .stopped fun _ => ⟨0, pure (some ["dan"])⟩,
    .deferred .running fun _ => ⟨10, pure none⟩ ]

/-- A word that names are offered for by each of the sources. -/
def offering : Grammar Journal Unit Empty :=
  { declared := 0
    roots :=
      [ node "ask" (.literal "ask") [] (sources.map fun source =>
          .mk
            { pattern := .argument "whom" .word, requirements := [], source := some source
              chain := none, mappers := [] }
            []) ] }

/-- What the sample's sources answer, which does not depend on the journal. -/
def answers (question : Offers.Question Journal Unit Empty) : Option (List String) :=
  match question.clause.source with
  | some (.immediate offer) => some ((offer question.query).run []).1
  | some (.deferred .running work) => ((work question.query).run.run []).1
  | some (.deferred .stopped _) => none
  | none =>
    match question.clause.pattern with
    | .literal name => some (Completion.matching [name] question.query.remaining)
    | .argument .. => some []

theorem answersKnown : Node.AnswersKnown offering.roots answers := by
  simp only [Node.AnswersKnown, offering, sources, node, Node.allClauses, Node.clauses, List.map_cons,
    List.map_nil, List.append_nil, List.singleton_append, List.forall_mem_cons, List.not_mem_nil,
    false_imp_iff, implies_true, and_true]
  exact ⟨fun _ => rfl, fun _ => .pure_ rfl, fun _ => .pure_ rfl, fun _ => rfl, fun _ => .pure_ rfl⟩

end Sample

/-- The names that are answered are offered, and those of the stopped scheduler are not, although the last
task breaks off before the second one ends. -/
theorem Grammar.completes_in_any_order_names :
    Node.AnswersKnown Sample.offering.roots Sample.answers ∧
      Sample.offering.CompletesInAnyOrder Sample.answers "ask " Sample.guest ∧
      ((do
        let answers ← Sample.offering.complete "ask " Sample.guest
        let collection ← (Completion.Collection.start answers).run
          [.ends 3, .takes, .takes, .ends 1, .takes, .takes, .takes]
        return (collection.isDone, collection.found) : Sample.Journal _).run []).1 =
        (true, ["ann", "bob", "cid"]) :=
  ⟨Sample.answersKnown, completes_in_any_order Sample.answersKnown _ _, by decide +kernel⟩

end CommandGrammar
