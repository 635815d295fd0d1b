import CommandGrammar.Grammar
import CommandGrammar.Proofs.Usable

/-!
# What the clauses of a command are made of

A declaration hands callbacks over: requirements, completion sources, handlers and mappers. Every clause
of a finished grammar holds such callbacks and no others, whatever is inherited, detached or edited on
the way. So whatever holds of all callbacks that the commands of a grammar are declared with (`Parts`)
holds of those that its clauses hold (`Grammar.MadeOf`), and one look at each declaration will do.
-/

set_option autoImplicit false

namespace CommandGrammar

variable {m : Type → Type} {κ ε ν : Type}

/-- What is known of the callbacks of some declarations. -/
structure Parts (m : Type → Type) (κ ε : Type) where
  requirement : (Sender m κ → m Bool) → Prop
  source : Completion.Source m κ ε → Prop
  handler : Audience κ → Body m κ ε → Prop
  mapper : Mapper m κ ε → Prop

mutual

/-- A step hands over nothing but such callbacks. -/
def Declaration.MadeOf (parts : Parts m κ ε) : Declaration m κ ε ν → Prop
  | .require requirement => parts.requirement requirement
  | .offer source => parts.source source
  | .handle audience body => parts.handler audience body
  | .rebind => True
  | .map _ mapper => parts.mapper mapper
  | .child _ body => Declaration.AllMadeOf parts body
  | .detach _ _ => True
  | .edit _ body => Declaration.AllMadeOf parts body
  | .attach _ => True
  | .note _ => True

/-- Steps hand over nothing but such callbacks. -/
def Declaration.AllMadeOf (parts : Parts m κ ε) : List (Declaration m κ ε ν) → Prop
  | [] => True
  | step :: rest => Declaration.MadeOf parts step ∧ Declaration.AllMadeOf parts rest

end

/-- The handlers have such bodies. -/
def Handlers.MadeOf (parts : Parts m κ ε) (handlers : List (Handler m κ ε)) : Prop :=
  ∀ handler ∈ handlers, parts.handler handler.audience handler.body

/-- The mappers are such mappers. -/
def Mappers.MadeOf (parts : Parts m κ ε) (mappers : Mappers m κ ε) : Prop :=
  ∀ id mapper, mappers.lookup id = some mapper → parts.mapper mapper

/-- The chain holds such handlers and mappers. -/
structure Chain.MadeOf (parts : Parts m κ ε) (chain : Chain m κ ε) : Prop where
  handlers : Handlers.MadeOf parts chain.handlers
  mappers : Mappers.MadeOf parts chain.mappers

/-- The clause holds such callbacks. -/
structure Clause.MadeOf (parts : Parts m κ ε) (clause : Clause m κ ε) : Prop where
  requirements : ∀ requirement ∈ clause.requirements, parts.requirement requirement
  source : ∀ source, clause.source = some source → parts.source source
  chain : ∀ chain, clause.chain = some chain → chain.MadeOf parts
  mappers : Mappers.MadeOf parts clause.mappers

/-- The builder holds such callbacks, and so do the nodes below it. -/
structure Builder.MadeOf (parts : Parts m κ ε) (builder : Builder m κ ε) : Prop where
  clause : builder.build.clause.MadeOf parts
  handlers : Handlers.MadeOf parts builder.handlers
  children : ∀ clause ∈ Node.allClauses builder.children, clause.MadeOf parts

/-- So does the builder at hand of a draft, and so do the detached ones. -/
structure Draft.MadeOf (parts : Parts m κ ε) (draft : Draft m κ ε ν) : Prop where
  builder : draft.builder.MadeOf parts
  detached : ∀ label held, draft.detached.lookup label = some held → held.MadeOf parts

/-- The clauses of the grammar hold such callbacks. -/
def Grammar.MadeOf (parts : Parts m κ ε) (grammar : Grammar m κ ε) : Prop :=
  ∀ clause ∈ Node.allClauses grammar.roots, clause.MadeOf parts

variable {parts : Parts m κ ε}

/-- The clauses of two forests are those of the first and those of the second. -/
theorem Node.allClauses_append (nodes others : List (Node m κ ε)) :
    Node.allClauses (nodes ++ others) = Node.allClauses nodes ++ Node.allClauses others := by
  induction nodes with
  | nil => rfl
  | cons node rest ih =>
    rw [List.cons_append, Node.allClauses, Node.allClauses, ih, List.append_assoc]

/-! ## Builders -/

namespace Builder.MadeOf

variable {builder child : Builder m κ ε}

/-- A builder starts with handlers and mappers, and nothing else. -/
theorem start {handlers : List (Handler m κ ε)} {mappers : Mappers m κ ε} (pattern : Pattern)
    (made : Handlers.MadeOf parts handlers) (made' : Mappers.MadeOf parts mappers) :
    (Builder.start pattern handlers mappers).MadeOf parts where
  clause := ⟨nofun, nofun, nofun, made'⟩
  handlers := made
  children := nofun

/-- A child starts with those of its parent. -/
theorem inherit (made : builder.MadeOf parts) (pattern : Pattern) :
    (builder.child pattern).MadeOf parts :=
  .start pattern made.handlers made.clause.mappers

/-- A requirement is added. -/
theorem require (made : builder.MadeOf parts) {requirement : Sender m κ → m Bool}
    (part : parts.requirement requirement) : (builder.require requirement).MadeOf parts where
  clause :=
    { made.clause with
      requirements := by
        intro other member
        rcases List.mem_append.mp member with earlier | last
        · exact made.clause.requirements other earlier
        · exact List.mem_singleton.mp last ▸ part }
  handlers := made.handlers
  children := made.children

/-- A source is set. -/
theorem offer (made : builder.MadeOf parts) {source : Completion.Source m κ ε}
    (part : parts.source source) : (builder.offer source).MadeOf parts where
  clause := { made.clause with source := fun _ same => Option.some.inj same ▸ part }
  handlers := made.handlers
  children := made.children

/-- The chain is bound to what the builder holds. -/
theorem rebind (made : builder.MadeOf parts) : builder.rebind.MadeOf parts where
  clause :=
    { made.clause with
      chain := fun _ same => Option.some.inj same ▸ ⟨made.handlers, made.clause.mappers⟩ }
  handlers := made.handlers
  children := made.children

/-- A handler is added, and the chain is bound to all of them. -/
theorem handle (made : builder.MadeOf parts) {handler : Handler m κ ε}
    (part : parts.handler handler.audience handler.body) : (builder.handle handler).MadeOf parts := by
  have handlers : Handlers.MadeOf parts (builder.handlers ++ [handler]) := by
    intro other member
    rcases List.mem_append.mp member with earlier | last
    · exact made.handlers other earlier
    · exact List.mem_singleton.mp last ▸ part
  exact Builder.MadeOf.rebind ⟨made.clause, handlers, made.children⟩

/-- A mapper is set. -/
theorem map (made : builder.MadeOf parts) (id : String) {mapper : Mapper m κ ε}
    (part : parts.mapper mapper) : (builder.map id mapper).MadeOf parts where
  clause :=
    { made.clause with
      mappers := by
        intro name held found
        rw [show (builder.map id mapper).build.clause.mappers = Assoc.put id mapper builder.mappers
          from rfl, Assoc.lookup_put] at found
        split at found
        · exact Option.some.inj found ▸ part
        · exact made.clause.mappers name held found }
  handlers := made.handlers
  children := made.children

/-- A finished child is put behind the others. -/
theorem attach (made : builder.MadeOf parts) (made' : child.MadeOf parts) :
    (builder.attach child).MadeOf parts where
  clause := made.clause
  handlers := made.handlers
  children := by
    intro clause member
    have split_ : Node.allClauses (builder.children ++ [child.build]) =
        Node.allClauses builder.children ++ Node.clauses child.build := by
      rw [Node.allClauses_append, Node.allClauses, Node.allClauses, List.append_nil]
    rw [show (builder.attach child).children = builder.children ++ [child.build] from rfl,
      split_, List.mem_append] at member
    rcases member with earlier | last
    · exact made.children clause earlier
    · rcases List.mem_cons.mp last with rfl | below
      · exact made'.clause
      · exact made'.children clause below

/-- The clauses of a finished node hold what its builder holds. -/
theorem clauses (made : builder.MadeOf parts) :
    ∀ clause ∈ Node.clauses builder.build, clause.MadeOf parts := by
  intro clause member
  rcases List.mem_cons.mp member with rfl | below
  · exact made.clause
  · exact made.children clause below

end Builder.MadeOf

/-! ## Declarations -/

mutual

/-- A step that hands over such callbacks leaves a draft that holds such callbacks. -/
theorem Declaration.madeOf_apply : ∀ (step : Declaration m κ ε ν) {draft : Draft m κ ε ν},
    step.MadeOf parts → draft.MadeOf parts → (step.apply draft).MadeOf parts
  | .require _, _, part, made => ⟨made.builder.require part, made.detached⟩
  | .offer _, _, part, made => ⟨made.builder.offer part, made.detached⟩
  | .handle _ _, _, part, made => ⟨made.builder.handle part, made.detached⟩
  | .rebind, _, _, made => ⟨made.builder.rebind, made.detached⟩
  | .map id _, _, part, made => ⟨made.builder.map id part, made.detached⟩
  | .note _, _, _, made => ⟨made.builder, made.detached⟩
  | .child pattern body, draft, part, made => by
    have inside : (draft.enter (draft.builder.child pattern)).MadeOf parts :=
      ⟨made.builder.inherit pattern, nofun⟩
    have inner := madeOf_applyAll body part inside
    exact ⟨made.builder.attach inner.builder, made.detached⟩
  | .detach label pattern, _, _, made => by
    refine ⟨made.builder, fun name held found => ?_⟩
    rw [Declaration.apply, Assoc.lookup_put] at found
    split at found
    · exact Option.some.inj found ▸ made.builder.inherit pattern
    · exact made.detached name held found
  | .edit label body, draft, part, made => by
    unfold Declaration.apply
    split
    next => exact made
    next held found =>
      have inside : (draft.enter held).MadeOf parts := ⟨made.detached label held found, nofun⟩
      have inner := madeOf_applyAll body part inside
      refine ⟨made.builder, fun name other found' => ?_⟩
      rw [Draft.leave, Assoc.lookup_put] at found'
      split at found'
      · exact Option.some.inj found' ▸ inner.builder
      · exact made.detached name other found'
  | .attach label, draft, _, made => by
    unfold Declaration.apply
    split
    next => exact made
    next held found =>
      refine ⟨made.builder.attach (made.detached label held found), fun name other found' => ?_⟩
      rw [Assoc.lookup_erase] at found'
      split at found'
      · cases found'
      · exact made.detached name other found'

/-- So do steps. -/
theorem Declaration.madeOf_applyAll : ∀ (steps : List (Declaration m κ ε ν)) {draft : Draft m κ ε ν},
    Declaration.AllMadeOf parts steps → draft.MadeOf parts →
      (Declaration.applyAll steps draft).MadeOf parts
  | [], _, _, made => made
  | step :: rest, _, part, made => madeOf_applyAll rest part.2 (step.madeOf_apply part.1 made)

end

/-- Steps that follow others hand over such callbacks when both do. -/
theorem Declaration.AllMadeOf.append {steps others : List (Declaration m κ ε ν)}
    (made : Declaration.AllMadeOf parts steps) (made' : Declaration.AllMadeOf parts others) :
    Declaration.AllMadeOf parts (steps ++ others) := by
  induction steps with
  | nil => exact made'
  | cons step rest ih => exact ⟨made.1, ih made.2⟩

/-! ## Grammars -/

namespace Grammar

variable {grammar : Grammar m κ ε}

/-- The empty grammar holds nothing. -/
theorem madeOf_empty : (Grammar.empty : Grammar m κ ε).MadeOf parts :=
  nofun

/-- The finished root of a declaration holds what its steps hand over. -/
theorem madeOf_draft (grammar : Grammar m κ ε) (name : String)
    {body : List (Declaration m κ ε ν)} (made : Declaration.AllMadeOf parts body) :
    ∀ clause ∈ Node.clauses (grammar.draft name body).builder.build, clause.MadeOf parts := by
  let draft : Draft m κ ε ν :=
    { builder := .root name, detached := [], declared := grammar.declared, notes := [] }
  have root : draft.MadeOf parts := ⟨.start _ nofun nofun, fun _ _ found => nomatch found⟩
  exact (Declaration.madeOf_applyAll body made root).builder.clauses

/-- Declaring a command adds what its steps hand over. -/
theorem MadeOf.declare (made : grammar.MadeOf parts) (name : String)
    {body : List (Declaration m κ ε ν)} (part : Declaration.AllMadeOf parts body) :
    (grammar.declare name body).MadeOf parts := by
  intro clause member
  rw [Grammar.declare, Grammar.register, Node.allClauses_append, List.mem_append] at member
  rcases member with earlier | last
  · exact made clause earlier
  · rw [Node.allClauses, Node.allClauses, List.append_nil] at last
    exact grammar.madeOf_draft name part clause last

/-- So does declaring it under several names. -/
theorem MadeOf.command (made : grammar.MadeOf parts) (name : String) (aliases : List String)
    {body : List (Declaration m κ ε ν)} (part : Declaration.AllMadeOf parts body) :
    (grammar.command name aliases body).MadeOf parts := by
  unfold Grammar.command
  induction name :: aliases generalizing grammar with
  | nil => exact made
  | cons label rest ih => exact ih (made.declare label part)

end Grammar

end CommandGrammar
