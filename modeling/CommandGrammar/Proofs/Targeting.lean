import CommandGrammar.Grammar
import CommandGrammar.Proofs.Attaching
import CommandGrammar.Proofs.Resolving

/-!
# Whom a selector argument targets

The token of a selector argument selects an entity or none: it may be missing, it may select nothing, and
the host may refuse it. The value of the argument is the selected entity if the filter of the argument
accepts it, and the texts that are offered are the names of the candidates that the same filter accepts
(`Selector.targets_accepted`).

A filter that leaves out the sender looks at the entity that comes out, and not at the token. So the sender
is left out whichever way it was selected, be it as the only member of a group.

What is said holds of any clause with the source and the mapper of a selector. Declaring a selector argument
attaches a child that has both, in its chain as well, whatever else its body declares
(`Selector.exists_attaches`).
-/

set_option autoImplicit false

namespace CommandGrammar

variable {m : Type → Type} {κ ε : Type}

/-- How a host selects entities, where every answer depends on what is asked alone. -/
structure Selector (m : Type → Type) (κ ε : Type) where
  resolve : String → Invocation m κ ε → Except ResolveError (Option ε)
  candidates : Invocation m κ ε → List ε
  displayName : ε → String
  identity : ε → Option Nat

/-- The value of the argument is an entity, if it has one, and nothing else. -/
structure Invocation.Obtains [Monad m] (invocation : Invocation m κ ε) (id : String)
    (found : Option ε) : Prop where
  resolve : invocation.resolve id = pure (found.map .host)
  getOptional : invocation.getOptional Value.host? id = pure found
  get : invocation.get Value.host? id = pure (found.elim (.error (.missingArgument id)) .ok)

/-- Filtering by tests that have no effect has none. -/
theorem filterM_map_eq_pure [Monad m] [LawfulMonad m] {α β : Type} {make : β → α} {test : α → m Bool}
    {passes : β → Bool} (tests : ∀ member, test (make member) = pure (passes member))
    (members : List β) :
    (members.map make).filterM test = pure ((members.filter passes).map make) := by
  have kept : ∀ found, (members.map make).filterAuxM test found =
      pure (((members.filter passes).map make).reverse ++ found) := by
    induction members with
    | nil => exact fun found => rfl
    | cons member rest ih =>
      intro found
      rw [List.map_cons, List.filterAuxM, tests, pure_bind, ih, List.filter_cons]
      cases passes member with
      | false => rfl
      | true =>
        rw [if_pos rfl, List.map_cons, List.reverse_cons, List.append_assoc]
        rfl
  rw [List.filterM, kept, pure_bind, List.append_nil, List.reverse_reverse]

section Lawful

variable [Monad m] [LawfulMonad m] {invocation : Invocation m κ ε} {id : String}

/-- What the argument resolves to is all that its readers see. -/
theorem Invocation.obtains_of_resolve {found : Option ε}
    (resolve : invocation.resolve id = pure (found.map .host)) : invocation.Obtains id found := by
  have getOptional : invocation.getOptional Value.host? id = pure found := by
    unfold Invocation.getOptional
    rw [resolve, pure_bind]
    cases found <;> rfl
  refine ⟨resolve, getOptional, ?_⟩
  unfold Invocation.get
  rw [getOptional, pure_bind]
  cases found <;> rfl

/-- The mapper of a selector argument hands on what its text selects, if that is accepted. Nothing is asked
of the host here: its effects are the same, in the same order. -/
theorem Mapper.entity_eq (entities : Entities m κ ε) (accepts : EntityFilter m κ ε) :
    Mapper.entity id entities accepts invocation = do
      match ← invocation.resolveRaw entities id with
      | some entity => return if ← accepts invocation entity then some (.host entity) else none
      | none => return none := by
  unfold Mapper.entity Mapper.ofText Invocation.resolveRaw
  cases invocation.rawText? id with
  | none => simp
  | some token =>
    show (entities.resolve token invocation >>= _) = (entities.resolve token invocation >>= _) >>= _
    rw [bind_assoc]
    refine bind_congr fun answer => ?_
    cases answer with
    | error reason => simp
    | ok found => cases found <;> simp

/-- Where the candidates and the tests have no effect, the names are offered of the candidates that pass and
whose name continues the typed text. -/
theorem Completion.Source.ask_entities {β : Type} {entities : Entities m κ ε}
    {accepts : EntityFilter m κ ε} {query : Completion.Query m κ ε} {make : β → ε} {members : List β}
    {passes : β → Bool} (candidates : entities.candidates query.invocation = pure (members.map make))
    (tests : ∀ member, accepts query.invocation (make member) = pure (passes member)) :
    (Completion.Source.entities entities accepts).ask query =
      pure (.ready (Completion.matching
        ((members.filter passes).map fun member => entities.displayName (make member))
        query.remaining)) := by
  show ((entities.candidates query.invocation >>= fun found =>
    found.filterM (accepts query.invocation) >>= fun accepted =>
      pure (Completion.matching (accepted.map entities.displayName) query.remaining)) >>=
        fun offers => pure (Completion.Pending.ready offers)) = _
  rw [candidates, pure_bind, filterM_map_eq_pure tests members, pure_bind, pure_bind, List.map_map]
  rfl

end Lawful

/-- The filter that accepts what a test says. -/
def EntityFilter.test [Monad m] (accepts : Invocation m κ ε → ε → Bool) : EntityFilter m κ ε :=
  fun invocation entity => pure (accepts invocation entity)

namespace Selector

variable (selector : Selector m κ ε)

/-- The entities of the host. -/
def entities [Monad m] : Entities m κ ε where
  resolve token invocation := pure (selector.resolve token invocation)
  candidates invocation := pure (selector.candidates invocation)
  displayName := selector.displayName
  identity := selector.identity

/-- The entity that the text of an argument selects: none without a text, and none where the host refuses
it. -/
def selected (invocation : Invocation m κ ε) (id : String) : Option ε :=
  match invocation.rawText? id with
  | some token => (selector.resolve token invocation).toOption.join
  | none => none

/-- The candidates that are accepted and whose name starts with the typed text, both in lower case, in their
order. -/
def offered (accepts : Invocation m κ ε → ε → Bool) (query : Completion.Query m κ ε) : List ε :=
  (selector.candidates query.invocation).filter fun entity =>
    accepts query.invocation entity && Completion.continues query.remaining (selector.displayName entity)

/-- The entity is the sender: both have an identity, and it is the same. -/
def IsSender (sender : Sender m κ) (entity : ε) : Prop :=
  ∃ own, sender.identity = some own ∧ selector.identity entity = some own

/-- Whether the entity is another one than the sender. -/
def others (invocation : Invocation m κ ε) (entity : ε) : Bool :=
  match invocation.sender.identity, selector.identity entity with
  | some own, some other => own != other
  | _, _ => true

variable {selector} {accepts : Invocation m κ ε → ε → Bool} {id : String}
  {invocation : Invocation m κ ε} {entity : ε}

/-- The test accepts an entity that is not the sender. -/
theorem others_iff :
    selector.others invocation entity = true ↔ ¬ selector.IsSender invocation.sender entity := by
  unfold others IsSender
  cases invocation.sender.identity with
  | none => simp
  | some own =>
    cases selector.identity entity with
    | none => simp
    | some other => simp [ne_comm]

/-- An argument selects an entity by a token for which the host has that entity. -/
theorem selected_eq_some_iff : selector.selected invocation id = some entity ↔
    ∃ token, invocation.rawText? id = some token ∧
      selector.resolve token invocation = .ok (some entity) := by
  unfold selected
  cases invocation.rawText? id with
  | none => simp
  | some token =>
    cases answer : selector.resolve token invocation with
    | error reason => simp [Except.toOption, answer]
    | ok found => simp [Except.toOption, answer]

variable [Monad m]

/-- This test is the filter that leaves out the sender. -/
theorem test_others : EntityFilter.test selector.others = EntityFilter.others selector.entities :=
  rfl

/-- Declaring a selector argument attaches a child with the mapper and the source of the selector. -/
theorem exists_attaches {ν : Type} (selector : Selector m κ ε) (accepts : Invocation m κ ε → ε → Bool)
    (id : String) (body : List (Declaration m κ ε ν)) (draft : Draft m κ ε ν) :
    ∃ child, Declaration.Composed id .selector (Mapper.entity id selector.entities (.test accepts))
      (.entities selector.entities (.test accepts)) body draft
      (Declaration.applyAll
        (Declaration.selectorArgument id selector.entities (.test accepts) body) draft)
      child :=
  Declaration.exists_composed _ _ _ _ body draft

/-- A selector that says whether the sender itself counts has such a test. -/
theorem selectorArgumentWithSelf_eq {ν : Type} (selector : Selector m κ ε) (id : String)
    (includeSelf : Bool) (body : List (Declaration m κ ε ν)) :
    Declaration.selectorArgumentWithSelf id selector.entities includeSelf body =
      Declaration.selectorArgument id selector.entities
        (.test fun invocation entity => includeSelf || selector.others invocation entity) body := by
  cases includeSelf <;> rfl

variable [LawfulMonad m]

/-- What is selected, whatever the filter makes of it. -/
theorem resolveRaw_eq :
    invocation.resolveRaw selector.entities id = pure (selector.selected invocation id) := by
  unfold Invocation.resolveRaw selected
  cases invocation.rawText? id with
  | none => rfl
  | some token =>
    show (pure (selector.resolve token invocation) >>= _) = _
    rw [pure_bind]
    cases answer : selector.resolve token invocation with
    | error reason => simp [Except.toOption, answer]
    | ok found => simp [Except.toOption, answer]

/-- The mapper of the argument gives what is selected, if it is accepted. -/
theorem mapper_eq : Mapper.entity id selector.entities (.test accepts) invocation =
    pure (((selector.selected invocation id).filter (accepts invocation)).map .host) := by
  rw [Mapper.entity_eq, resolveRaw_eq, pure_bind]
  cases selector.selected invocation id with
  | none => rfl
  | some entity =>
    show (pure (accepts invocation entity) >>= _) = _
    rw [pure_bind, Option.filter]
    cases accepts invocation entity <;> rfl

/-- The source of the argument offers the names of the candidates that it accepts. -/
theorem ask_eq (query : Completion.Query m κ ε) :
    (Completion.Source.entities selector.entities (.test accepts)).ask query =
      pure (.ready ((selector.offered accepts query).map selector.displayName)) := by
  have candidates : selector.entities.candidates query.invocation =
      (pure ((selector.candidates query.invocation).map fun entity => entity) : m (List ε)) := by
    rw [List.map_id']
    rfl
  rw [Completion.Source.ask_entities candidates fun entity => rfl, Completion.matching,
    List.filter_map, List.filter_filter, offered]
  congr 4
  funext entity
  exact Bool.and_comm _ _

section Invocation

variable (sender : Sender m κ) (input : String) (arguments : Bindings) {mappers : Mappers m κ ε}

/-- Handlers obtain what is selected and accepted in the invocation that the mapper is given. -/
theorem obtains_aside
    (mapped : mappers.lookup id = some (Mapper.entity id selector.entities (.test accepts))) :
    let aside := Invocation.aside sender input arguments mappers id
    (Invocation.of sender input arguments mappers).Obtains id
      ((selector.selected aside id).filter (accepts aside)) :=
  Invocation.obtains_of_resolve
    ((Invocation.resolve_of_mapper sender input arguments mapped).trans mapper_eq)

/-- Where asking comes to an end, that is the invocation they have themselves. -/
theorem obtains_of_terminates
    (mapped : mappers.lookup id = some (Mapper.entity id selector.entities (.test accepts)))
    (ends : mappers.Terminates sender input arguments id) :
    let invocation := Invocation.of sender input arguments mappers
    invocation.Obtains id ((selector.selected invocation id).filter (accepts invocation)) := by
  exact Invocation.obtains_of_resolve
    ((Invocation.resolve_of_terminates sender input arguments ends mapped).trans mapper_eq)

/-- The value of a selector argument is what its text selects, if its filter accepts that: it has none
without a text, for a text that selects nothing and for one that the host refuses. What it offers are the
names that continue the typed text, of the candidates that the same filter accepts. If the filter leaves out
the sender, no text makes a handler obtain the sender, and none is offered for it. -/
theorem targets_accepted
    (mapped : mappers.lookup id = some (Mapper.entity id selector.entities (.test accepts)))
    {clause : Clause m κ ε}
    (source : clause.source = some (.entities selector.entities (.test accepts)))
    (query : Completion.Query m κ ε) :
    let invocation := Invocation.of sender input arguments mappers
    (mappers.Terminates sender input arguments id →
      invocation.resolveRaw selector.entities id = pure (selector.selected invocation id) ∧
      (∀ entity, selector.selected invocation id = some entity ↔
        ∃ token, invocation.rawText? id = some token ∧
          selector.resolve token invocation = .ok (some entity)) ∧
      invocation.Obtains id ((selector.selected invocation id).filter (accepts invocation))) ∧
    clause.offers query =
      pure (.ready ((selector.offered accepts query).map selector.displayName)) ∧
    (accepts = selector.others →
      (∃ found, invocation.Obtains id found ∧
        ∀ entity ∈ found, ¬ selector.IsSender sender entity) ∧
      ∀ entity ∈ selector.offered accepts query,
        ¬ selector.IsSender query.invocation.sender entity) := by
  intro invocation
  refine ⟨?_, ?_, ?_⟩
  · intro ends
    refine ⟨resolveRaw_eq, fun entity => selected_eq_some_iff, ?_⟩
    exact obtains_of_terminates sender input arguments mapped ends
  · unfold Clause.offers
    rw [source]
    exact ask_eq query
  · rintro rfl
    constructor
    · refine ⟨_, obtains_aside sender input arguments mapped, fun entity found => ?_⟩
      obtain ⟨_, accepted⟩ := Option.mem_filter_iff.mp found
      exact others_iff.mp accepted
    · intro entity listed
      obtain ⟨_, accepted⟩ := List.mem_filter.mp listed
      exact others_iff.mp (Bool.and_eq_true_iff.mp accepted).1

end Invocation

end Selector

namespace Sample

/-- Two entities. The token `@self` selects the sender, and `@near` is refused. -/
def pair : Selector Id Unit Nat where
  resolve token invocation :=
    if token = "@self" then .ok invocation.sender.identity
    else if token = "@near" then .error (.ambiguous token 2)
    else .ok ([1, 2].find? fun entity => ["", "Ada", "Adam"][entity]? = some token)
  candidates _ := [1, 2]
  displayName entity := ["", "Ada", "Adam"].getD entity ""
  identity := some

/-- The first of the two entities. -/
def ada : Sender Id Unit where
  kind := ()
  name := "Ada"
  permits _ := true
  identity := some 1
  tell _ := ()

/-- Whoever is selected is kicked, but not the sender. -/
def kick : Grammar Id Unit Nat :=
  let body : List (Declaration Id Unit Nat Unit) := [.onExecute .anyone fun _ => .ok true]
  Grammar.empty.declare "kick" (Declaration.selectorArgumentWithSelf "who" pair.entities false body)

/-- The argument of the command. -/
def who : Clause Id Unit Nat :=
  ((kick.node? [0, 0]).get rfl).clause

/-- Its chain. -/
def whoChain : Chain Id Unit Nat :=
  who.chain.get rfl

/-- The line `kick @self`, sent by the first of them. -/
def kickSelf : Invocation Id Unit Nat :=
  .of ada "kick @self" [("who", ⟨5, 10, .text "@self"⟩)] whoChain.mappers

end Sample

namespace Selector

/-- The sender is selected by a token that does not name it, and is left out. -/
theorem targets_accepted_self :
    Sample.kickSelf.resolveRaw Sample.pair.entities "who" = some 1 ∧
      Sample.kickSelf.getOptional Value.host? "who" = none ∧
      Sample.who.offers ⟨Sample.kickSelf, "AD", 5⟩ = .ready ["Adam"] := by
  have mapped : Sample.whoChain.mappers.lookup "who" =
      some (Mapper.entity "who" Sample.pair.entities (.test Sample.pair.others)) := by
    rw [test_others]
    rfl
  have ends : Mappers.Terminates Sample.whoChain.mappers Sample.ada "kick @self"
      [("who", ⟨5, 10, .text "@self"⟩)] "who" := by
    apply Mappers.terminates_of_asksNothing _ _ _ mapped
    intro first second _
    rfl
  have source : Sample.who.source =
      some (.entities Sample.pair.entities (.test Sample.pair.others)) := by
    rw [test_others]
    rfl
  obtain ⟨value, offers, -⟩ := targets_accepted Sample.ada "kick @self"
    [("who", ⟨5, 10, .text "@self"⟩)] mapped source ⟨Sample.kickSelf, "AD", 5⟩
  obtain ⟨raw, -, obtains⟩ := value ends
  have offered : (Sample.pair.offered Sample.pair.others ⟨Sample.kickSelf, "AD", 5⟩).map
      Sample.pair.displayName = ["Adam"] := by
    decide +kernel
  rw [offered] at offers
  exact ⟨raw, obtains.getOptional, offers⟩

end Selector

end CommandGrammar
