import CommandGrammar.Grammar.Bench
import Mathlib.Data.List.Basic
import Mathlib.Data.List.Induction

/-!
# What calls make of their builders

A list of calls says of every builder what it becomes. Two things count for a builder: the provisions
made on it (`Call.provisionsOn`), and those that it has been handed down. A root is handed down
nothing; a child is handed down, from the calls before the one that opened it, what its parent had
been handed down and what was laid down on its parent (`HandedDown`). What is laid down on the parent
afterwards does not count, whatever becomes of the child in between.

`Builder.Tells` says that a builder is what its provisions make of it, and `Accounts` that all
builders of a bench are, those that are finished included: the forest of the grammar follows the calls
that attach and register builders, node by node (`Node.AllFollow`). One call preserves that
(`Accounts.step`), and so do all calls in a row (`accounts_of_run`).
-/

set_option autoImplicit false

namespace CommandGrammar

variable {m : Type → Type} {κ ε : Type}

/-- What is read off a list with one more member. -/
theorem filterMap_concat {α β : Type} (read : α → Option β) (members : List α) (last : α) :
    (members ++ [last]).filterMap read = members.filterMap read ++ (read last).toList := by
  rw [List.filterMap_append]
  cases reads : read last with
  | none => simp [reads]
  | some value => simp [reads]

/-! ## Reading provisions and calls -/

namespace Provision

/-- The handler that a provision declares. -/
def handler? : Provision m κ ε → Option (Handler m κ ε)
  | .handle handler => some handler
  | _ => none

/-- The requirement that a provision declares. -/
def requirement? : Provision m κ ε → Option (Sender m κ → m Bool)
  | .require requirement => some requirement
  | _ => none

/-- The mapper that a provision sets for an argument. -/
def mapper? (id : String) : Provision m κ ε → Option (Mapper m κ ε)
  | .map other mapper => if other = id then some mapper else none
  | _ => none

/-- Whether a provision binds the chain. -/
def binds : Provision m κ ε → Bool
  | .handle _ => true
  | .rebind => true
  | _ => false

/-- The last mapper that provisions set for an argument. -/
def lastMapper (provisions : List (Provision m κ ε)) (id : String) : Option (Mapper m κ ε) :=
  (provisions.filterMap (mapper? id)).getLast?

end Provision

namespace Call

/-- The builder that a call opens. -/
def opens? : Call m κ ε → Option Nat
  | .root id _ => some id
  | .child id _ _ => some id
  | _ => none

/-- The builder that a call finishes. -/
def finishes? : Call m κ ε → Option Nat
  | .attach _ held => some held
  | .register id => some id
  | _ => none

/-- The number of the handler that a call declares. -/
def serial? : Call m κ ε → Option Nat
  | .provide _ (.handle handler) => some handler.serial
  | _ => none

/-- The provision that a call makes on a builder. -/
def provision? (id : Nat) : Call m κ ε → Option (Provision m κ ε)
  | .provide builder provision => if builder = id then some provision else none
  | _ => none

/-- The builder that a call attaches to a builder. -/
def attaches? (id : Nat) : Call m κ ε → Option Nat
  | .attach parent held => if parent = id then some held else none
  | _ => none

/-- The builder that a call registers. -/
def registers? : Call m κ ε → Option Nat
  | .register id => some id
  | _ => none

/-- The provisions that calls make on a builder, in order. -/
def provisionsOn (calls : List (Call m κ ε)) (id : Nat) : List (Provision m κ ε) :=
  calls.filterMap (provision? id)

/-- The builders that calls attach to a builder, in order. -/
def attachedTo (calls : List (Call m κ ε)) (id : Nat) : List Nat :=
  calls.filterMap (attaches? id)

/-- The builders that calls register, in order. -/
def registered (calls : List (Call m κ ε)) : List Nat :=
  calls.filterMap registers?

/-- A provision stands among those made on a builder exactly when a call makes it. -/
theorem mem_provisionsOn {calls : List (Call m κ ε)} {id : Nat} {provision : Provision m κ ε} :
    provision ∈ provisionsOn calls id ↔ Call.provide id provision ∈ calls := by
  constructor
  · intro member
    obtain ⟨call, made, reads⟩ := List.mem_filterMap.mp member
    cases call with
    | provide builder other =>
      simp only [provision?] at reads
      split at reads
      next same =>
        cases reads
        exact same ▸ made
      next => cases reads
    | _ => cases reads
  · intro made
    exact List.mem_filterMap.mpr ⟨_, made, if_pos rfl⟩

theorem mem_attachedTo {calls : List (Call m κ ε)} {parent held : Nat} :
    held ∈ attachedTo calls parent ↔ Call.attach parent held ∈ calls := by
  constructor
  · intro member
    obtain ⟨call, made, reads⟩ := List.mem_filterMap.mp member
    cases call with
    | attach builder other =>
      simp only [attaches?] at reads
      split at reads
      next same =>
        cases reads
        exact same ▸ made
      next => cases reads
    | _ => cases reads
  · intro made
    exact List.mem_filterMap.mpr ⟨_, made, if_pos rfl⟩

theorem mem_registered {calls : List (Call m κ ε)} {id : Nat} :
    id ∈ registered calls ↔ Call.register id ∈ calls := by
  constructor
  · intro member
    obtain ⟨call, made, reads⟩ := List.mem_filterMap.mp member
    cases call with
    | register other =>
      cases reads
      exact made
    | _ => cases reads
  · intro made
    exact List.mem_filterMap.mpr ⟨_, made, rfl⟩

/-- One more call adds at most one provision. -/
theorem provisionsOn_concat (calls : List (Call m κ ε)) (call : Call m κ ε) (id : Nat) :
    provisionsOn (calls ++ [call]) id = provisionsOn calls id ++ (call.provision? id).toList :=
  filterMap_concat _ _ _

theorem attachedTo_concat (calls : List (Call m κ ε)) (call : Call m κ ε) (id : Nat) :
    attachedTo (calls ++ [call]) id = attachedTo calls id ++ (call.attaches? id).toList :=
  filterMap_concat _ _ _

theorem registered_concat (calls : List (Call m κ ε)) (call : Call m κ ε) :
    registered (calls ++ [call]) = registered calls ++ call.registers?.toList :=
  filterMap_concat _ _ _

end Call

/-! ## What is handed down -/

/-- What builder `id` has been handed down from builder `top` on, along the line in which every
builder was opened as a child of the one before it. -/
inductive HandedDown : List (Call m κ ε) → (top id : Nat) → List (Provision m κ ε) → Prop
  | here {before after : List (Call m κ ε)} {call : Call m κ ε} {top : Nat} :
      call.opens? = some top → HandedDown (before ++ call :: after) top top []
  | child {before after : List (Call m κ ε)} {top parent id : Nat} {pattern : Pattern}
      {provisions : List (Provision m κ ε)} :
      HandedDown before top parent provisions →
      HandedDown (before ++ .child id parent pattern :: after) top id
        (provisions ++ Call.provisionsOn before parent)

/-- What a builder has been handed down from the root of its line. -/
def Inherits (calls : List (Call m κ ε)) (id : Nat) (provisions : List (Provision m κ ε)) : Prop :=
  ∃ root name, Call.root root name ∈ calls ∧ HandedDown calls root id provisions

section HandedDown

variable {calls more : List (Call m κ ε)} {call : Call m κ ε} {top id : Nat}
  {provisions : List (Provision m κ ε)}

/-- Later calls do not change what a builder has been handed down. -/
theorem HandedDown.append (down : HandedDown calls top id provisions)
    (more : List (Call m κ ε)) : HandedDown (calls ++ more) top id provisions := by
  cases down with
  | here opens =>
    rw [List.append_assoc, List.cons_append]
    exact .here opens
  | child before =>
    rw [List.append_assoc, List.cons_append]
    exact .child before

theorem Inherits.append (inherits : Inherits calls id provisions) (more : List (Call m κ ε)) :
    Inherits (calls ++ more) id provisions := by
  obtain ⟨root, name, made, down⟩ := inherits
  exact ⟨root, name, List.mem_append_left _ made, down.append more⟩

/-- A new root is handed down nothing. -/
theorem Inherits.root (calls : List (Call m κ ε)) (id : Nat) (name : String) :
    Inherits (calls ++ [.root id name]) id [] :=
  ⟨id, name, List.mem_append_right _ List.mem_cons_self, .here rfl⟩

/-- A new child is handed down what counts for its parent at that time. -/
theorem Inherits.child {parent : Nat} (inherits : Inherits calls parent provisions) (id : Nat)
    (pattern : Pattern) :
    Inherits (calls ++ [.child id parent pattern]) id
      (provisions ++ Call.provisionsOn calls parent) := by
  obtain ⟨root, name, made, down⟩ := inherits
  exact ⟨root, name, List.mem_append_left _ made, .child down⟩

end HandedDown

/-! ## A builder and its provisions -/

/-- Of some provisions, `earlier` are those before the last one that binds the chain. -/
def Provision.BeforeBinding (own earlier : List (Provision m κ ε)) : Prop :=
  ∃ last later, own = earlier ++ last :: later ∧ last.binds = true ∧
    ∀ provision ∈ later, provision.binds = false

/-- The chain of a builder was bound by the last provision that binds one: it has all handlers, and
the mappers of that moment. -/
def Chain.BoundBy (inherited own : List (Provision m κ ε)) : Option (Chain m κ ε) → Prop
  | none => ∀ provision ∈ own, provision.binds = false
  | some chain =>
    chain.handlers = (inherited ++ own).filterMap Provision.handler? ∧
      ∃ earlier, Provision.BeforeBinding own earlier ∧
        ∀ id, chain.mappers.lookup id = Provision.lastMapper (inherited ++ earlier) id

/-- The builder is what the provisions make of it: those that it has been handed down, and its own. -/
structure Builder.Tells (inherited own : List (Provision m κ ε)) (builder : Builder m κ ε) :
    Prop where
  handlers : builder.handlers = (inherited ++ own).filterMap Provision.handler?
  mappers : ∀ id, builder.mappers.lookup id = Provision.lastMapper (inherited ++ own) id
  requirements : builder.requirements = own.filterMap Provision.requirement?
  chain : Chain.BoundBy inherited own builder.chain

section Tells

variable {inherited own : List (Provision m κ ε)} {builder : Builder m κ ε}

/-- A later mapper takes the place of an earlier one. -/
theorem Provision.lastMapper_concat (provisions : List (Provision m κ ε))
    (provision : Provision m κ ε) (id : String) :
    lastMapper (provisions ++ [provision]) id =
      (provision.mapper? id).or (lastMapper provisions id) := by
  unfold lastMapper
  rw [filterMap_concat]
  cases provision.mapper? id with
  | none => simp
  | some mapper => simp

/-- The chain stays bound to what it was bound to until a provision binds it anew. -/
theorem Chain.BoundBy.concat {chain : Option (Chain m κ ε)} (bound : BoundBy inherited own chain)
    {provision : Provision m κ ε} (silent : provision.binds = false) :
    BoundBy inherited (own ++ [provision]) chain := by
  have without : ∀ provisions : List (Provision m κ ε),
      (∀ other ∈ provisions, other.binds = false) →
        ∀ other ∈ provisions ++ [provision], other.binds = false := by
    intro provisions none_ other member
    rcases List.mem_append.mp member with earlier | last
    · exact none_ other earlier
    · rw [List.mem_singleton.mp last, silent]
  have handlers_ : (inherited ++ (own ++ [provision])).filterMap Provision.handler? =
      (inherited ++ own).filterMap Provision.handler? := by
    have undeclared : provision.handler? = none := by
      cases provision with
      | handle handler => cases silent
      | _ => rfl
    rw [← List.append_assoc, filterMap_concat, undeclared, Option.toList_none, List.append_nil]
  cases chain with
  | none => exact without own bound
  | some chain =>
    obtain ⟨handlers, earlier, ⟨last, later, rfl, binds, none_⟩, mappers⟩ := bound
    have before : Provision.BeforeBinding (earlier ++ last :: later ++ [provision]) earlier :=
      ⟨last, later ++ [provision], by simp, binds, without later none_⟩
    exact ⟨handlers.trans handlers_.symm, earlier, before, mappers⟩

theorem Builder.tells_root (name : String) :
    (Builder.root name : Builder m κ ε).Tells [] [] where
  handlers := rfl
  mappers := fun _ => rfl
  requirements := rfl
  chain := fun _ member => nomatch member

/-- A new child has been handed down what its parent has. -/
theorem Builder.Tells.child (tells : builder.Tells inherited own) (pattern : Pattern) :
    (builder.child pattern).Tells (inherited ++ own) [] where
  handlers := by
    rw [List.append_nil]
    exact tells.handlers
  mappers := fun id => by
    rw [List.append_nil]
    exact tells.mappers id
  requirements := rfl
  chain := fun _ member => nomatch member

theorem Builder.Tells.attach (tells : builder.Tells inherited own) (child : Builder m κ ε) :
    (builder.attach child).Tells inherited own where
  handlers := tells.handlers
  mappers := tells.mappers
  requirements := tells.requirements
  chain := tells.chain

/-- Binding the chain takes the handlers and the mappers that are there. -/
theorem Builder.Tells.bound (tells : builder.Tells inherited own) {provision : Provision m κ ε}
    (binds : provision.binds = true) {handlers : List (Handler m κ ε)}
    (handlers_ : handlers = (inherited ++ (own ++ [provision])).filterMap Provision.handler?) :
    Chain.BoundBy inherited (own ++ [provision]) (some ⟨handlers, builder.mappers⟩) :=
  ⟨handlers_, own, ⟨provision, [], rfl, binds, List.forall_mem_nil _⟩, tells.mappers⟩

/-- One more provision makes of the builder what all of them make of it. -/
theorem Builder.Tells.provide (tells : builder.Tells inherited own)
    (provision : Provision m κ ε) :
    (builder.provide provision).Tells inherited (own ++ [provision]) := by
  have handlers : (inherited ++ (own ++ [provision])).filterMap Provision.handler? =
      builder.handlers ++ provision.handler?.toList := by
    rw [tells.handlers, ← List.append_assoc, filterMap_concat]
  have requirements : (own ++ [provision]).filterMap Provision.requirement? =
      builder.requirements ++ provision.requirement?.toList := by
    rw [tells.requirements, filterMap_concat]
  have mappers : ∀ id, Provision.lastMapper (inherited ++ (own ++ [provision])) id =
      (provision.mapper? id).or (builder.mappers.lookup id) := fun id => by
    rw [← List.append_assoc, Provision.lastMapper_concat, tells.mappers]
  -- A provision speaks of one thing at most, and the others stay as they are.
  have unhandled (silent : provision.handler? = none) :
      builder.handlers = (inherited ++ (own ++ [provision])).filterMap Provision.handler? := by
    rw [handlers, silent, Option.toList_none, List.append_nil]
  have unrequired (silent : provision.requirement? = none) :
      builder.requirements = (own ++ [provision]).filterMap Provision.requirement? := by
    rw [requirements, silent, Option.toList_none, List.append_nil]
  have unmapped (silent : ∀ id, provision.mapper? id = none) (id : String) :
      builder.mappers.lookup id =
        Provision.lastMapper (inherited ++ (own ++ [provision])) id := by
    rw [mappers, silent, Option.none_or]
  cases provision with
  | require requirement =>
    exact ⟨unhandled rfl, unmapped fun _ => rfl, requirements.symm, tells.chain.concat rfl⟩
  | offer source =>
    exact ⟨unhandled rfl, unmapped fun _ => rfl, unrequired rfl, tells.chain.concat rfl⟩
  | map other mapper =>
    refine ⟨unhandled rfl, fun id => ?_, unrequired rfl, tells.chain.concat rfl⟩
    rw [mappers]
    show (Assoc.put other mapper builder.mappers).lookup id = _
    rw [Assoc.lookup_put]
    by_cases same : other = id
    · simp [Provision.mapper?, same]
    · simp [Provision.mapper?, same, Ne.symm same]
  | rebind =>
    exact ⟨unhandled rfl, unmapped fun _ => rfl, unrequired rfl, tells.bound rfl (unhandled rfl)⟩
  | handle handler =>
    exact ⟨handlers.symm, unmapped fun _ => rfl, unrequired rfl, tells.bound rfl handlers.symm⟩

end Tells

/-! ## Nodes and the builders they come from -/

mutual

/-- The node is that of a builder whose children are `children`, down to its leaves, and every clause
fits its builder. -/
def Node.Follows (children : Nat → List Nat) (fits : Nat → Clause m κ ε → Prop) :
    Node m κ ε → (id : Nat) → Prop
  | .mk clause nodes, id => fits id clause ∧ Node.AllFollow children fits nodes (children id)

/-- The nodes are those of the builders, one by one. -/
def Node.AllFollow (children : Nat → List Nat) (fits : Nat → Clause m κ ε → Prop) :
    List (Node m κ ε) → (ids : List Nat) → Prop
  | [], ids => ids = []
  | node :: rest, ids =>
    ∃ id others, ids = id :: others ∧ node.Follows children fits id ∧
      Node.AllFollow children fits rest others

end

section Follows

variable {children children' : Nat → List Nat} {fits fits' : Nat → Clause m κ ε → Prop}

mutual

/-- A node that follows its builder goes on doing so while nothing changes for the builders of its
clauses. -/
theorem Node.Follows.imp
    (keep : ∀ id clause, fits id clause → fits' id clause ∧ children' id = children id) :
    ∀ {node : Node m κ ε} {id : Nat}, node.Follows children fits id →
      node.Follows children' fits' id
  | .mk clause nodes, id, follows => by
    obtain ⟨own, below⟩ := follows
    obtain ⟨own', same⟩ := keep id clause own
    exact ⟨own', same ▸ Node.AllFollow.imp keep below⟩

theorem Node.AllFollow.imp
    (keep : ∀ id clause, fits id clause → fits' id clause ∧ children' id = children id) :
    ∀ {nodes : List (Node m κ ε)} {ids : List Nat}, Node.AllFollow children fits nodes ids →
      Node.AllFollow children' fits' nodes ids
  | [], _, follow => follow
  | _ :: _, _, follow => by
    obtain ⟨id, others, rfl, first, rest⟩ := follow
    exact ⟨id, others, rfl, first.imp keep, rest.imp keep⟩

end

theorem Node.AllFollow.concat {nodes : List (Node m κ ε)} {ids : List Nat} {node : Node m κ ε}
    {id : Nat} (follow : Node.AllFollow children fits nodes ids)
    (last : node.Follows children fits id) :
    Node.AllFollow children fits (nodes ++ [node]) (ids ++ [id]) := by
  induction nodes generalizing ids with
  | nil =>
    cases (follow : ids = [])
    exact ⟨id, [], rfl, last, rfl⟩
  | cons first rest ih =>
    obtain ⟨firstId, others, rfl, follows, behind⟩ := follow
    exact ⟨firstId, others ++ [id], rfl, follows, ih behind⟩

end Follows

end CommandGrammar
