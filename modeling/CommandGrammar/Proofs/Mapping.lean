import CommandGrammar.Grammar.Script
import CommandGrammar.Proofs.Inheritance
import CommandGrammar.Proofs.Resolving

/-!
# Which mappers are in force

A node has for each argument the last mapper that was set for it, among those that its builder has
been handed down and its own; its chain has the same, with the own ones up to the last provision that
binds the chain (`MappersOf`). The two may differ: what is set after the chain was bound is seen by the
completion source of the node, and not by its handlers.

A composite argument sets its mapper on the builder it is declared on and opens its child right after
that (`Call.composite`). So the mapper is handed down to the child and to everything below it, and it is
in force in every chain there unless another is set for the argument on the way. The argument then
resolves to what this mapper gives, and its raw value never steps in.
-/

set_option autoImplicit false

namespace CommandGrammar

open Call (provisionsOn attachedTo registered)

variable {m : Type → Type} {κ ε : Type}

/-! ## The last mapper -/

namespace Provision

variable {first second provisions earlier earlier' own : List (Provision m κ ε)} {key : String}
  {mapper : Mapper m κ ε}

theorem lastMapper_of_silent (silent : ∀ provision ∈ provisions, provision.mapper? key = none) :
    lastMapper provisions key = none := by
  rw [lastMapper, List.filterMap_eq_nil_iff.mpr silent, List.getLast?_nil]

theorem lastMapper_append (silent : ∀ provision ∈ second, provision.mapper? key = none) :
    lastMapper (first ++ second) key = lastMapper first key := by
  rw [lastMapper, List.filterMap_append, List.filterMap_eq_nil_iff.mpr silent, List.append_nil,
    lastMapper]

/-- A mapper that is set last is the last one. -/
theorem lastMapper_of_last (silent : ∀ provision ∈ second, provision.mapper? key = none) :
    lastMapper (first ++ .map key mapper :: second) key = some mapper := by
  rw [List.append_cons, lastMapper_append silent, lastMapper_concat]
  have sets : mapper? key (.map key mapper) = some mapper := if_pos rfl
  rw [sets, Option.some_or]

/-- The provisions before the last one that binds are determined. -/
theorem BeforeBinding.unique (before : BeforeBinding own earlier)
    (before' : BeforeBinding own earlier') : earlier = earlier' := by
  obtain ⟨last, later, split_, binds, silent⟩ := before
  obtain ⟨last', later', split', binds', silent'⟩ := before'
  -- If one of the two stood before the other, the other would bind behind it.
  rw [split_] at split'
  rcases List.append_eq_append_iff.mp split' with ⟨between, rfl, rest⟩ | ⟨between, rfl, rest⟩
  · cases between with
    | nil => exact (List.append_nil _).symm
    | cons next between =>
      obtain ⟨rfl, rfl⟩ := List.cons.inj rest
      rw [silent last' (by simp)] at binds'
      cases binds'
  · cases between with
    | nil => exact List.append_nil _
    | cons next between =>
      obtain ⟨rfl, rfl⟩ := List.cons.inj rest
      rw [silent' last (by simp)] at binds
      cases binds

end Provision

/-! ## The mappers of a builder -/

section Line

variable {calls : List (Call m κ ε)} {bench : Bench m κ ε} {id : Nat}
  {inherited earlier : List (Provision m κ ε)} {builder : Builder m κ ε} {chain : Chain m κ ε}
  {key : String} {mapper : Mapper m κ ε}

/-- The chain of a builder has the mappers of the moment it was last bound. -/
theorem Builder.Tells.chain_mappers {own : List (Provision m κ ε)}
    (tells : builder.Tells inherited own) (chained : builder.chain = some chain)
    (before : Provision.BeforeBinding own earlier) (key : String) :
    chain.mappers.lookup key = Provision.lastMapper (inherited ++ earlier) key := by
  have bound := tells.chain
  rw [chained] at bound
  obtain ⟨_, earlier', before', mappers⟩ := bound
  rw [before.unique before', mappers]

/-- The mapper of a composite argument is handed down to everything below its child. -/
theorem Inherits.composite {before after : List (Call m κ ε)} {parent child : Nat} {form : Form}
    {source : Completion.Source m κ ε} {later : List (Provision m κ ε)}
    (made : Bench.empty.run calls = some bench) (inherits : Inherits calls id inherited)
    (split_ : calls = before ++ Call.composite parent child key form mapper source ++ after)
    (down : HandedDown calls child id later) :
    ∃ above, inherited = above ++ .map key mapper :: later := by
  have split' : calls = (before ++ [.provide parent (.map key mapper)]) ++
      .child child parent (.argument key form) :: (.provide child (.offer source) :: after) := by
    rw [split_, Call.composite]
    simp
  obtain ⟨above, _, parts⟩ := inherits.parts made split' down
  have sets : (Call.provide parent (.map key mapper)).provision? parent =
      some (.map key mapper) := if_pos rfl
  rw [Call.provisionsOn_concat, sets, Option.toList_some] at parts
  refine ⟨above ++ provisionsOn before parent, ?_⟩
  rw [parts]
  simp

end Line

/-! ## The mappers of every node -/

variable [Monad m]

/-- In the invocations of a chain, the argument resolves to what the mapper gives, and to nothing else
where the mapper gives nothing. -/
structure Chain.ResolvesBy (chain : Chain m κ ε) (key : String) (mapper : Mapper m κ ε) : Prop where
  lookup : chain.mappers.lookup key = some mapper
  /-- The mapper is set aside while it runs. -/
  resolve : ∀ sender input arguments,
    (Invocation.of sender input arguments chain.mappers).resolve key =
      mapper (Invocation.aside sender input arguments chain.mappers key)
  /-- That makes no difference where asking comes to an end. -/
  resolve_of_terminates : ∀ sender input arguments,
    chain.mappers.Terminates sender input arguments key →
    (Invocation.of sender input arguments chain.mappers).resolve key =
      mapper (Invocation.of sender input arguments chain.mappers)

/-- The mappers that the node of a builder has, and those of its chain. -/
structure MappersOf (calls : List (Call m κ ε)) (id : Nat) (clause : Clause m κ ε) : Prop where
  /-- The node has the last mapper for each argument, of those handed down and its own. -/
  node : ∃ inherited, Inherits calls id inherited ∧
    ∀ key, clause.mappers.lookup key = Provision.lastMapper (inherited ++ provisionsOn calls id) key
  /-- So has its chain, of those handed down and the own ones before the chain was last bound. -/
  chain : ∀ chain, clause.chain = some chain → ∃ inherited earlier, Inherits calls id inherited ∧
    Provision.BeforeBinding (provisionsOn calls id) earlier ∧
    ∀ key, chain.mappers.lookup key = Provision.lastMapper (inherited ++ earlier) key
  /-- At the child of a composite argument and below it, the mapper of the composite is in force in
  every chain, unless another was set for the argument later in the line. -/
  composite : ∀ chain, clause.chain = some chain →
    ∀ before after parent child key form mapper source later earlier,
      calls = before ++ Call.composite parent child key form mapper source ++ after →
      HandedDown calls child id later → Provision.BeforeBinding (provisionsOn calls id) earlier →
      (∀ provision ∈ later ++ earlier, provision.mapper? key = none) →
      chain.ResolvesBy key mapper
  /-- So it is for the calls that declaring a composite argument with some body makes. -/
  declared : ∀ chain, clause.chain = some chain →
    ∀ (ν : Type) (body : List (Declaration m κ ε ν)) before after place key form mapper source later
      earlier,
      calls = before ++
        (Declaration.callsAll (Declaration.composite key form mapper source body) place).1 ++ after →
      HandedDown calls place.opened id later → Provision.BeforeBinding (provisionsOn calls id) earlier →
      (∀ provision ∈ later ++ earlier, provision.mapper? key = none) →
      chain.ResolvesBy key mapper
  /-- An argument for which no mapper is set resolves to its raw value. -/
  raw : ∀ chain, clause.chain = some chain → ∀ inherited earlier key, Inherits calls id inherited →
    Provision.BeforeBinding (provisionsOn calls id) earlier →
    (∀ provision ∈ inherited ++ earlier, provision.mapper? key = none) →
    ∀ sender input arguments,
      (Invocation.of sender input arguments chain.mappers).resolve key =
        pure (((Invocation.of sender input arguments chain.mappers).raw? key).map Value.raw)

section Mappers

variable {calls : List (Call m κ ε)} {bench : Bench m κ ε} {id : Nat}
  {inherited earlier : List (Provision m κ ε)} {builder : Builder m κ ε} {chain : Chain m κ ε}
  {key : String} {mapper : Mapper m κ ε}

/-- A mapper in force gives the argument its value. -/
theorem Chain.resolvesBy_of_lookup (mapped : chain.mappers.lookup key = some mapper) :
    chain.ResolvesBy key mapper where
  lookup := mapped
  resolve := fun sender input arguments =>
    Invocation.resolve_of_mapper sender input arguments mapped
  resolve_of_terminates := fun sender input arguments ends =>
    Invocation.resolve_of_terminates sender input arguments ends mapped

/-- The mapper of a composite argument is in force in the chains at its child and below. -/
theorem Inherits.resolvesBy {before after : List (Call m κ ε)} {parent child : Nat} {form : Form}
    {source : Completion.Source m κ ε} {later : List (Provision m κ ε)}
    (made : Bench.empty.run calls = some bench) (inherits : Inherits calls id inherited)
    (tells : builder.Tells inherited (provisionsOn calls id)) (chained : builder.chain = some chain)
    (split_ : calls = before ++ Call.composite parent child key form mapper source ++ after)
    (down : HandedDown calls child id later)
    (bound : Provision.BeforeBinding (provisionsOn calls id) earlier)
    (silent : ∀ provision ∈ later ++ earlier, provision.mapper? key = none) :
    chain.ResolvesBy key mapper := by
  obtain ⟨above, rfl⟩ := inherits.composite made split_ down
  refine Chain.resolvesBy_of_lookup ?_
  rw [tells.chain_mappers chained bound key, List.append_assoc, List.cons_append]
  exact Provision.lastMapper_of_last silent

/-- The mappers of a clause that its provisions make. -/
theorem Told.mappersOf {clause : Clause m κ ε} (told : Told calls id clause)
    (made : Bench.empty.run calls = some bench) : MappersOf calls id clause := by
  obtain ⟨inherited, builder, inherits, tells, rfl⟩ := told
  refine ⟨⟨inherited, inherits, tells.mappers⟩, ?_, ?_, ?_, ?_⟩
  · intro chain chained
    have bound := tells.chain
    rw [show builder.chain = some chain from chained] at bound
    obtain ⟨_, earlier, before, mappers⟩ := bound
    exact ⟨inherited, earlier, inherits, before, mappers⟩
  · intro chain chained before after parent child key form mapper source later earlier split_ down
      bound silent
    exact inherits.resolvesBy made tells chained split_ down bound silent
  · intro chain chained ν body before after place key form mapper source later earlier split_ down
      bound silent
    rw [Declaration.callsAll_composite, ← List.append_assoc, List.append_assoc] at split_
    exact inherits.resolvesBy made tells chained split_ down bound silent
  · intro chain chained inherited' earlier key inherits' bound silent sender input arguments
    obtain rfl := inherits.unique (numbered_of_run made).nodup_opens inherits'
    refine Invocation.resolve_of_none sender input arguments ?_
    rw [tells.chain_mappers chained bound key]
    exact Provision.lastMapper_of_silent silent

/-- Whatever calls are made, every node and every chain has the last mappers that count for it. -/
theorem mappers_handed_down (made : Bench.empty.run calls = some bench) :
    bench.NodesFit calls (MappersOf calls) :=
  (accounts_of_run made).nodesFit fun _ _ told => told.mappersOf made

end Mappers

namespace Sample

/-- Flags are declared on a command, and a mapper is set on their node after its handler. -/
def mapping : List (Call Journal Unit Empty) :=
  .root 0 "give" ::
    (Call.composite 0 1 "how" .greedy (Mapper.flags "how" ["silent"]) (.flags ["silent"]) ++
      [ .provide 1 (.handle (writes 0 "flags")),
        .provide 1 (.map "late" (Mapper.flags "how" [])),
        .attach 0 1,
        .register 0 ])

end Sample

/-- The node has both mappers, and its chain that of the flags alone. -/
theorem mappers_handed_down_flags :
    ∃ bench, Bench.empty.run Sample.mapping = some bench ∧
      bench.NodesFit Sample.mapping (MappersOf Sample.mapping) ∧
      ((bench.grammar.node? [0, 0]).map fun node =>
        (Assoc.names node.clause.mappers, node.clause.chain.map fun chain =>
          Assoc.names chain.mappers)) = some (["how", "late"], some ["how"]) :=
  ⟨_, rfl, mappers_handed_down rfl, rfl⟩

end CommandGrammar
