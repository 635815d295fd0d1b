import CommandGrammar.Proofs.Numbering
import CommandGrammar.Proofs.Usable

/-!
# Which handlers a chain has

A builder has a chain once a handler was declared on it or its chain was bound anew, and the chain
has all handlers that the builder has: those that it has been handed down along its line, and then
its own (`HandlersOf`). Every handler stands there once, in the order of declaration, because the
provisions that count for a builder stand among the calls in the order in which they count
(`HandedDown.sublist`). A handler that is declared on a builder after a child of it was opened counts
neither for that child nor for anything below it (`not_mem_handlers_of_late`).

Binding the chain of a builder anew, once it has one, changes nothing but the mappers of the chain:
with the mappers of all chains left aside (`Bench.bare`), the rest of the calls goes the same way with
the call and without it.
-/

set_option autoImplicit false

namespace CommandGrammar

open Call (provisionsOn attachedTo registered)

variable {m : Type → Type} {κ ε : Type}

/-! ## Provisions in the order of the calls -/

namespace Call

/-- The provision that a call makes, on whatever builder. -/
def provides? : Call m κ ε → Option (Provision m κ ε)
  | .provide _ provision => some provision
  | _ => none

/-- The provisions on one builder stand among all provisions in their order. -/
theorem provisionsOn_sublist (calls : List (Call m κ ε)) (id : Nat) :
    (provisionsOn calls id).Sublist (calls.filterMap provides?) := by
  induction calls with
  | nil => exact .slnil
  | cons call rest ih =>
    cases call with
    | provide builder provision =>
      rw [List.filterMap_cons_some (show provides? (.provide builder provision) = _ from rfl)]
      by_cases same : builder = id
      · have reads : (Call.provide builder provision).provision? id = some provision := if_pos same
        rw [provisionsOn, List.filterMap_cons_some reads]
        exact ih.cons_cons provision
      · have reads : (Call.provide builder provision).provision? id = none := if_neg same
        rw [provisionsOn, List.filterMap_cons_none reads]
        exact ih.cons provision
    | _ => exact ih

/-- The numbers of all handlers are those that the provisions declare. -/
theorem serials_eq (calls : List (Call m κ ε)) :
    calls.filterMap serial? =
      ((calls.filterMap provides?).filterMap Provision.handler?).map Handler.serial := by
  rw [List.filterMap_filterMap, List.map_filterMap]
  congr 1
  funext call
  cases call with
  | provide builder provision => cases provision <;> rfl
  | _ => rfl

end Call

section HandedDown

variable {calls before after : List (Call m κ ε)} {bench : Bench m κ ε}
  {top id next parent : Nat} {pattern : Pattern} {provisions inherited : List (Provision m κ ε)}
  {provision : Provision m κ ε} {handler : Handler m κ ε}

/-- What counts for a builder stands among all provisions in the order in which it counts. -/
theorem HandedDown.sublist (down : HandedDown calls top id provisions)
    (made : Bench.empty.run calls = some bench) :
    (provisions ++ provisionsOn calls id).Sublist (calls.filterMap Call.provides?) := by
  induction down generalizing bench with
  | here _ => exact Call.provisionsOn_sublist _ _
  | @child before after top parent id pattern provisions _ ih =>
    obtain ⟨middle, earlier, _⟩ := Bench.run_append.mp made
    have above := ih earlier
    -- What is laid down on the child itself comes after everything that was handed down to it.
    have own : provisionsOn (before ++ .child id parent pattern :: after) id =
        provisionsOn (.child id parent pattern :: after) id := by
      rw [provisionsOn, List.filterMap_append]
      rw [show before.filterMap (Call.provision? id) = [] from provisionsOn_before_opens made rfl]
      exact List.nil_append _
    rw [own, List.filterMap_append]
    exact above.append (Call.provisionsOn_sublist _ _)

/-- What is handed down from one builder to another was laid down on the line between them. -/
theorem HandedDown.made (down : HandedDown calls top id provisions) :
    Call.OnLine calls top id ∧ ∀ provision ∈ provisions, ∃ builder, Call.OnLine calls top builder ∧
      Call.OnLine calls builder id ∧ Call.provide builder provision ∈ calls := by
  induction down with
  | here _ => exact ⟨.refl, fun _ member => nomatch member⟩
  | @child before after top parent id pattern provisions _ ih =>
    obtain ⟨above, laid⟩ := ih
    have opened : Call.child id parent pattern ∈ before ++ .child id parent pattern :: after := by
      simp
    refine ⟨(above.append _).child opened, fun provision member => ?_⟩
    rcases List.mem_append.mp member with earlier | last
    · obtain ⟨builder, upper, lower, call⟩ := laid provision earlier
      exact ⟨builder, upper.append _, (lower.append _).child opened, List.mem_append_left _ call⟩
    · have call := Call.mem_provisionsOn.mp last
      exact ⟨parent, above.append _, Call.OnLine.child .refl opened,
        List.mem_append_left _ call⟩

/-- A builder that was opened as a child has been handed down what counted for its parent. -/
theorem inherits_parent (made : Bench.empty.run (before ++ .child next parent pattern :: after) =
    some bench) : ∃ inherited, Inherits before parent inherited := by
  obtain ⟨middle, earlier, rest⟩ := Bench.run_append.mp made
  obtain ⟨following, steps, _⟩ := Bench.run_cons.mp rest
  cases steps with
  | child atParent =>
    obtain ⟨_, ⟨inherited, inherits, _⟩, _⟩ := (accounts_of_run earlier).held _ _ atParent
    exact ⟨inherited, inherits⟩

/-- What has been handed down to a builder below a child is in parts: what counted for the parent of
the child when it was opened, and what is handed down from the child on. -/
theorem Inherits.parts {later : List (Provision m κ ε)}
    (made : Bench.empty.run calls = some bench) (inherits : Inherits calls id inherited)
    (split_ : calls = before ++ .child next parent pattern :: after)
    (down : HandedDown calls next id later) :
    ∃ above, Inherits before parent above ∧
      inherited = above ++ provisionsOn before parent ++ later := by
  have nodup := (numbered_of_run made).nodup_opens
  obtain ⟨above, root, name, atRoot, line⟩ := inherits_parent (split_ ▸ made)
  have whole := down.through nodup split_ line
  have atRoot' : Call.root root name ∈ calls := split_ ▸ List.mem_append_left _ atRoot
  exact ⟨above, ⟨root, name, atRoot, line⟩, inherits.unique nodup ⟨root, name, atRoot', whole⟩⟩

/-- A handler that is declared on a builder after a child was opened counts for nothing below that
child. -/
theorem not_mem_handlers_of_late {later : List (Provision m κ ε)}
    (made : Bench.empty.run calls = some bench) (inherits : Inherits calls id inherited)
    (split_ : calls = before ++ .child next parent pattern :: after)
    (down : HandedDown calls next id later)
    (late : Call.provide parent (.handle handler) ∈ after) :
    handler ∉ (inherited ++ provisionsOn calls id).filterMap Provision.handler? := by
  intro member
  obtain ⟨provision, counts, declares⟩ := List.mem_filterMap.mp member
  cases provision with
  | handle other =>
    cases declares
    have numbered := numbered_of_run made
    have atLate : Call.provide parent (.handle handler) ∈ calls := by simp [split_, late]
    have younger : parent < next := numbered.parent_lt next parent pattern (by simp [split_])
    obtain ⟨below, laid⟩ := down.made
    -- A call before the child was opened would declare the handler a second time.
    have notBefore : ∀ builder, Call.provide builder (.handle handler) ∉ before := by
      intro builder early
      have serials := numbered.nodup_serials
      obtain ⟨first, second, rfl⟩ := List.append_of_mem late
      rw [split_, ← List.cons_append, ← List.append_assoc] at serials
      exact ne_key_of_mem_before serials rfl (List.mem_append_left _ early) rfl
    -- A call on the child, or on a builder opened later, is none on the parent.
    have notBelow : ∀ builder, next ≤ builder → Call.provide builder (.handle handler) ∉ calls := by
      intro builder later call
      cases eq_of_key numbered.nodup_serials call atLate rfl rfl
      exact absurd younger (Nat.not_lt.mpr later)
    obtain ⟨above, inheritsAbove, rfl⟩ := inherits.parts made split_ down
    rcases List.mem_append.mp counts with handed | own
    · rcases List.mem_append.mp handed with early | handed
      · rcases List.mem_append.mp early with above_ | parents
        · obtain ⟨root, name, _, line⟩ := inheritsAbove
          obtain ⟨builder, _, _, call⟩ := line.made.2 _ above_
          exact notBefore builder call
        · exact notBefore parent (Call.mem_provisionsOn.mp parents)
      · obtain ⟨builder, below', _, call⟩ := laid _ handed
        exact notBelow builder (numbered.le_of_onLine below') call
    · exact notBelow id (numbered.le_of_onLine below) (Call.mem_provisionsOn.mp own)
  | _ => cases declares

end HandedDown

/-! ## Chains without their mappers -/

/-- The chain without its mappers. -/
def Chain.bare (chain : Chain m κ ε) : Chain m κ ε :=
  { chain with mappers := [] }

/-- The clause with its chain left without mappers. -/
def Clause.bare (clause : Clause m κ ε) : Clause m κ ε :=
  { clause with chain := clause.chain.map Chain.bare }

mutual

/-- The node with every chain left without mappers. -/
def Node.bare : Node m κ ε → Node m κ ε
  | .mk clause children => .mk clause.bare (Node.bareAll children)

/-- The nodes with every chain left without mappers. -/
def Node.bareAll : List (Node m κ ε) → List (Node m κ ε)
  | [] => []
  | node :: rest => node.bare :: Node.bareAll rest

end

/-- The builder with every chain left without mappers. -/
def Builder.bare (builder : Builder m κ ε) : Builder m κ ε :=
  { builder with
    children := Node.bareAll builder.children
    chain := builder.chain.map Chain.bare }

/-- The bench with every chain left without mappers. -/
def Bench.bare (bench : Bench m κ ε) : Bench m κ ε :=
  { bench with
    builders := fun id => (bench.builders id).map Builder.bare
    roots := Node.bareAll bench.roots }

theorem Node.bareAll_append (first second : List (Node m κ ε)) :
    Node.bareAll (first ++ second) = Node.bareAll first ++ Node.bareAll second := by
  induction first with
  | nil => rfl
  | cons node rest ih =>
    show node.bare :: Node.bareAll (rest ++ second) = _
    rw [ih]
    rfl

section Bare

variable {builder other held : Builder m κ ε} {bench bench' next : Bench m κ ε}
  {call : Call m κ ε} {calls : List (Call m κ ε)} {id : Nat}

theorem Builder.bare_child (builder : Builder m κ ε) (pattern : Pattern) :
    (builder.child pattern).bare = builder.bare.child pattern :=
  rfl

theorem Builder.bare_attach (builder held : Builder m κ ε) :
    (builder.attach held).bare = builder.bare.attach held.bare :=
  congrArg (fun children => { builder.bare with children })
    (Node.bareAll_append builder.children [held.build])

/-- What a provision makes of a builder does not depend on the mappers that its chain has, those of the
chain aside. -/
theorem Builder.bare_provide (same : builder.bare = other.bare) (provision : Provision m κ ε) :
    (builder.provide provision).bare = (other.provide provision).bare := by
  obtain ⟨pattern, children, requirements, source, chain, handlers, mappers⟩ := builder
  obtain ⟨pattern', children', requirements', source', chain', handlers', mappers'⟩ := other
  simp only [Builder.bare, Builder.mk.injEq] at same
  obtain ⟨rfl, children_, rfl, rfl, chain_, rfl, rfl⟩ := same
  cases provision with
  | rebind =>
    simp only [Builder.provide, Builder.rebind, Builder.bare, children_]
  | handle handler =>
    simp only [Builder.provide, Builder.handle, Builder.rebind, Builder.bare, children_]
  | require requirement =>
    simp only [Builder.provide, Builder.require, Builder.bare, children_, chain_]
  | offer source =>
    simp only [Builder.provide, Builder.offer, Builder.bare, children_, chain_]
  | map key mapper =>
    simp only [Builder.provide, Builder.map, Builder.bare, children_, chain_]

/-- Binding a chain anew that has all handlers already changes its mappers at most. -/
theorem Builder.bare_rebind {chain : Chain m κ ε} (bound : builder.chain = some chain)
    (handlers : chain.handlers = builder.handlers) :
    (builder.provide .rebind).bare = builder.bare := by
  have same : some (Chain.mk builder.handlers []) = builder.chain.map Chain.bare := by
    rw [bound, ← handlers]
    rfl
  exact congrArg (fun chain => { builder.bare with chain }) same

namespace Bench

theorem bare_lay (bench : Bench m κ ε) (id : Nat) (builder : Option (Builder m κ ε)) :
    (bench.lay id builder).bare = bench.bare.lay id (builder.map Builder.bare) := by
  have places : (bench.lay id builder).bare.builders =
      (bench.bare.lay id (builder.map Builder.bare)).builders := by
    funext other
    exact apply_ite (Option.map Builder.bare) (other = id) builder (bench.builders other)
  exact congrArg (fun builders => { bench.bare with builders }) places

theorem bare_openNext (bench : Bench m κ ε) (builder : Builder m κ ε) :
    (bench.openNext builder).bare = bench.bare.openNext builder.bare := by
  unfold openNext
  show { (bench.lay bench.opened (some builder)).bare with opened := bench.opened + 1 } = _
  rw [bare_lay]
  rfl

/-- On two benches that differ in the mappers of chains alone, the same builders are at hand. -/
theorem bare_atHand (same : bench.bare = bench'.bare) (atHand : bench.builders id = some builder) :
    ∃ builder', bench'.builders id = some builder' ∧ builder.bare = builder'.bare := by
  have place : (bench.builders id).map Builder.bare = (bench'.builders id).map Builder.bare :=
    congrFun (congrArg Bench.builders same) id
  rw [atHand, Option.map_some] at place
  obtain ⟨builder', atHand', same'⟩ := Option.map_eq_some_iff.mp place.symm
  exact ⟨builder', atHand', same'.symm⟩

/-- Two benches that differ in the mappers of chains alone do so after any call. -/
theorem Steps.bare (steps : bench.Steps call next) (same : bench.bare = bench'.bare) :
    ∃ next', bench'.Steps call next' ∧ next.bare = next'.bare := by
  have opened : bench.bare.opened = bench'.bare.opened := congrArg Bench.opened same
  have declared_ : bench.bare.declared = bench'.bare.declared := congrArg Bench.declared same
  have roots : bench.bare.roots = bench'.bare.roots := congrArg Bench.roots same
  cases steps with
  | @root name =>
    rw [show bench.opened = bench'.opened from opened]
    refine ⟨_, .root, ?_⟩
    rw [bare_openNext, bare_openNext, same]
  | @child parent pattern builder atParent =>
    obtain ⟨builder', atParent', same'⟩ := bare_atHand same atParent
    rw [show bench.opened = bench'.opened from opened]
    refine ⟨_, .child atParent', ?_⟩
    rw [bare_openNext, bare_openNext, same, Builder.bare_child, Builder.bare_child, same']
  | @provide id declared provision builder atId counted =>
    obtain ⟨builder', atId', same'⟩ := bare_atHand same atId
    rw [show bench.declared = bench'.declared from declared_] at counted
    refine ⟨_, .provide atId' counted, ?_⟩
    have places : (bench.lay id (some (builder.provide provision))).bare =
        (bench'.lay id (some (builder'.provide provision))).bare := by
      rw [bare_lay, bare_lay, same, Option.map_some, Option.map_some,
        Builder.bare_provide same' provision]
    exact congrArg (fun bench => { bench with declared }) places
  | @attach parent child builder held other atChild atParent =>
    obtain ⟨held', atChild', sameHeld⟩ := bare_atHand same atChild
    obtain ⟨builder', atParent', same'⟩ := bare_atHand same atParent
    refine ⟨_, .attach other atChild' atParent', ?_⟩
    rw [bare_lay, bare_lay, bare_lay, bare_lay, same, Option.map_some, Option.map_some,
      Builder.bare_attach, Builder.bare_attach, same', sameHeld]
  | @register id held atId =>
    obtain ⟨held', atId', same'⟩ := bare_atHand same atId
    refine ⟨_, .register atId', ?_⟩
    have places : (bench.lay id none).bare = (bench'.lay id none).bare := by
      rw [bare_lay, bare_lay, same]
    have nodes : Node.bareAll (bench.roots ++ [held.build]) =
        Node.bareAll (bench'.roots ++ [held'.build]) := by
      rw [Node.bareAll_append, Node.bareAll_append]
      exact congrArg₂ (· ++ [·]) roots (congrArg Builder.build same')
    exact congrArg₂ (fun (bench : Bench m κ ε) roots => { bench with roots }) places nodes

theorem run_bare (same : bench.bare = bench'.bare) (made : bench.run calls = some next) :
    ∃ next', bench'.run calls = some next' ∧ next.bare = next'.bare := by
  induction calls generalizing bench bench' with
  | nil =>
    cases made
    exact ⟨bench', rfl, same⟩
  | cons call rest ih =>
    obtain ⟨middle, first, behind⟩ := run_cons.mp made
    obtain ⟨middle', first', same'⟩ := first.bare same
    obtain ⟨next', behind', sameNext⟩ := ih same' behind
    exact ⟨next', run_cons.mpr ⟨middle', first', behind'⟩, sameNext⟩

theorem lay_self (atHand : bench.builders id = some builder) :
    bench.lay id (some builder) = bench := by
  have places : (bench.lay id (some builder)).builders = bench.builders := by
    funext other
    rw [builders_lay]
    split
    next same => rw [same, atHand]
    next => rfl
  exact congrArg (fun builders => { bench with builders }) places

end Bench

end Bare

/-! ## The chain of a builder -/

section Chain

variable {calls before after : List (Call m κ ε)} {bench : Bench m κ ε} {id : Nat}
  {inherited own : List (Provision m κ ε)} {builder : Builder m κ ε}

/-- A builder has a chain exactly when one of its provisions binds one. -/
theorem Chain.BoundBy.isSome_iff {chain : Option (Chain m κ ε)} (bound : BoundBy inherited own chain) :
    chain.isSome = true ↔ ∃ provision ∈ own, provision.binds = true := by
  cases chain with
  | none =>
    constructor
    · intro present
      cases present
    · rintro ⟨provision, member, binds⟩
      rw [bound provision member] at binds
      cases binds
  | some chain =>
    obtain ⟨_, earlier, ⟨last, later, rfl, binds, _⟩, _⟩ := bound
    constructor
    · intro _
      exact ⟨last, by simp, binds⟩
    · intro _
      rfl

/-- A chain has all handlers that its builder has. -/
theorem Builder.Tells.handlers_eq {chain : Chain m κ ε} (tells : builder.Tells inherited own)
    (chained : builder.chain = some chain) : chain.handlers = builder.handlers := by
  have bound := tells.chain
  rw [chained] at bound
  exact bound.1.trans tells.handlers.symm

/-- Binding the chain anew of a builder that has one changes the mappers of chains at most. -/
theorem run_without_rebind
    (made : Bench.empty.run (before ++ .provide id .rebind :: after) = some bench)
    (chained : ∃ provision ∈ provisionsOn before id, provision.binds = true) :
    ∃ without, Bench.empty.run (before ++ after) = some without ∧ without.bare = bench.bare := by
  obtain ⟨middle, earlier, rest⟩ := Bench.run_append.mp made
  obtain ⟨following, steps, behind⟩ := Bench.run_cons.mp rest
  have same : following.bare = middle.bare := by
    cases steps with
    | @provide _ declared _ builder atId counted =>
      cases counted
      obtain ⟨_, ⟨inherited, _, tells⟩, _⟩ := (accounts_of_run earlier).held id builder atId
      obtain ⟨chain, bound⟩ := Option.isSome_iff_exists.mp (tells.chain.isSome_iff.mpr chained)
      show (middle.lay id (some (builder.provide .rebind))).bare = middle.bare
      rw [Bench.bare_lay, Option.map_some, Builder.bare_rebind bound (tells.handlers_eq bound)]
      have atBare : middle.bare.builders id = some builder.bare := by
        show (middle.builders id).map Builder.bare = _
        rw [atId, Option.map_some]
      exact Bench.lay_self atBare
  obtain ⟨without, others, same'⟩ := Bench.run_bare same behind
  exact ⟨without, Bench.run_append.mpr ⟨middle, earlier, others⟩, same'.symm⟩

/-! ## The handlers of every node -/

/-- The chain that the node of a builder has. -/
structure HandlersOf (calls : List (Call m κ ε)) (id : Nat) (clause : Clause m κ ε) : Prop where
  /-- There is one exactly when a handler was declared on the builder or its chain was bound anew. -/
  chain_iff : clause.chain.isSome = true ↔
    ∃ provision ∈ provisionsOn calls id, provision.binds = true
  /-- It has the handlers that the builder has been handed down, and then all of its own. -/
  handlers : ∀ chain, clause.chain = some chain → ∃ inherited, Inherits calls id inherited ∧
    chain.handlers = (inherited ++ provisionsOn calls id).filterMap Provision.handler?
  /-- They stand there once each, in the order of their declaration. -/
  ascending : ∀ chain, clause.chain = some chain →
    (chain.handlers.map Handler.serial).Pairwise (· < ·)
  /-- A handler that is declared on a builder after the next builder of the line was opened is none of
  them. -/
  late : ∀ chain, clause.chain = some chain →
    ∀ before next parent pattern after later handler,
      calls = before ++ .child next parent pattern :: after → HandedDown calls next id later →
      Call.provide parent (.handle handler) ∈ after → handler ∉ chain.handlers

/-- The chain of a clause that its provisions make. -/
theorem Told.handlersOf {clause : Clause m κ ε} (told : Told calls id clause)
    (made : Bench.empty.run calls = some bench) : HandlersOf calls id clause := by
  obtain ⟨inherited, builder, inherits, tells, rfl⟩ := told
  have handlers : ∀ chain, builder.chain = some chain →
      chain.handlers = (inherited ++ provisionsOn calls id).filterMap Provision.handler? :=
    fun chain chained => (tells.handlers_eq chained).trans tells.handlers
  refine ⟨tells.chain.isSome_iff, ?_, ?_, ?_⟩
  · intro chain chained
    exact ⟨inherited, inherits, handlers chain chained⟩
  · intro chain chained
    obtain ⟨root, name, _, line⟩ := inherits
    have serials := (numbered_of_run made).serials
    rw [Call.serials_eq] at serials
    rw [handlers chain chained]
    exact serials.sublist (((line.sublist made).filterMap _).map _)
  · intro chain chained before next parent pattern after later handler split_ down late
    rw [handlers chain chained]
    exact not_mem_handlers_of_late made inherits split_ down late

/-- What calls make of the handlers of their builders. -/
structure HandsDownHandlers (calls : List (Call m κ ε)) (bench : Bench m κ ε) : Prop where
  /-- Every node has the handlers of its builder. -/
  nodes : bench.NodesFit calls (HandlersOf calls)
  /-- Without a call that binds a chain anew on a builder that has one, the others make the same
  nodes, the mappers of chains aside. -/
  rebind : ∀ before id after, calls = before ++ .provide id .rebind :: after →
    (∃ provision ∈ provisionsOn before id, provision.binds = true) →
    ∃ without, Bench.empty.run (before ++ after) = some without ∧ without.bare = bench.bare

/-- Whatever calls are made, every node has the handlers that its line hands down to it and its own.
-/
theorem handlers_handed_down (made : Bench.empty.run calls = some bench) :
    HandsDownHandlers calls bench where
  nodes := (accounts_of_run made).nodesFit fun _ _ told => told.handlersOf made
  rebind := by
    intro before id after split_ chained
    exact run_without_rebind (split_ ▸ made) chained

end Chain

namespace Sample

/-- A handler that writes a label into the journal and does not claim the invocation. -/
def writes (serial : Nat) (label : String) : Handler Journal Unit Empty :=
  ⟨.anyone, serial, .direct fun _ => do
    modify (· ++ [label])
    return .ok false⟩

/-- A child is opened between two handlers of its parent, and provided for while the parent is. -/
def handling : List (Call Journal Unit Empty) :=
  [ .root 0 "give",
    .provide 0 (.handle (writes 0 "give")),
    .child 1 0 (.argument "target" .word),
    .provide 0 (.handle (writes 1 "give as well")),
    .provide 1 (.handle (writes 2 "target")),
    .provide 1 .rebind,
    .attach 0 1,
    .register 0 ]

end Sample

/-- The child has the first handler of its parent and its own, and not the second one of its parent.
-/
theorem handlers_handed_down_target :
    ∃ bench, Bench.empty.run Sample.handling = some bench ∧
      HandsDownHandlers Sample.handling bench ∧
      ((bench.grammar.node? [0, 0]).bind fun node => node.clause.chain.map fun chain =>
        chain.handlers.map Handler.serial) = some [0, 2] :=
  ⟨_, rfl, handlers_handed_down rfl, rfl⟩

end CommandGrammar
