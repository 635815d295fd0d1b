import CommandGrammar.Proofs.Making

/-!
# Every builder of a bench is accounted for

After any calls that can be made, each builder at hand is what its provisions make of it, its children
follow the builders attached to it, and the roots of the grammar follow the registered ones
(`accounts_of_run`). Of a finished builder the same holds for good: it is no longer at hand, so that
no call can speak of it, and its clause stays what its provisions have made of it (`Finished`).

One call is looked at by its constructor (`Bench.Steps`). It touches at most two builders, and all
others stay as they are (`Held.step_other`); `Accounts.held_step` has one case for each call.
-/

set_option autoImplicit false

namespace CommandGrammar

open Call (provisionsOn attachedTo registered provisionsOn_concat attachedTo_concat
  registered_concat)

variable {m : Type → Type} {κ ε : Type}

/-! ## One call -/

namespace Bench

/-- A call that can be made, and the bench after it. -/
inductive Steps (bench : Bench m κ ε) : Call m κ ε → Bench m κ ε → Prop
  | root {name : String} :
      Steps bench (.root bench.opened name) (bench.openNext (.root name))
  | child {parent : Nat} {pattern : Pattern} {builder : Builder m κ ε} :
      bench.builders parent = some builder →
      Steps bench (.child bench.opened parent pattern) (bench.openNext (builder.child pattern))
  | provide {id declared : Nat} {provision : Provision m κ ε} {builder : Builder m κ ε} :
      bench.builders id = some builder → provision.countFrom bench.declared = some declared →
      Steps bench (.provide id provision)
        { bench.lay id (some (builder.provide provision)) with declared }
  | attach {parent child : Nat} {builder held : Builder m κ ε} :
      parent ≠ child → bench.builders child = some held → bench.builders parent = some builder →
      Steps bench (.attach parent child)
        ((bench.lay child none).lay parent (some (builder.attach held)))
  | register {id : Nat} {held : Builder m κ ε} :
      bench.builders id = some held →
      Steps bench (.register id) { bench.lay id none with roots := bench.roots ++ [held.build] }

variable {bench next : Bench m κ ε} {call : Call m κ ε} {calls : List (Call m κ ε)} {id : Nat}

theorem builders_lay (bench : Bench m κ ε) (id other : Nat) (builder : Option (Builder m κ ε)) :
    (bench.lay id builder).builders other = if other = id then builder else bench.builders other :=
  rfl

theorem builders_openNext (bench : Bench m κ ε) (opened : Builder m κ ε) (id : Nat) :
    (bench.openNext opened).builders id =
      if id = bench.opened then some opened else bench.builders id :=
  rfl

/-- Every call that is made is one that can be made. -/
theorem steps_of_step (made : bench.step call = some next) : bench.Steps call next := by
  cases call with
  | root id name =>
    simp only [step] at made
    split at made
    next fresh =>
      cases made
      exact fresh ▸ .root
    next => cases made
  | child id parent pattern =>
    obtain ⟨builder, held, made⟩ := Option.bind_eq_some_iff.mp made
    split at made
    next fresh =>
      cases made
      exact fresh ▸ .child held
    next => cases made
  | provide id provision =>
    obtain ⟨builder, held, made⟩ := Option.bind_eq_some_iff.mp made
    obtain ⟨declared, counted, made⟩ := Option.bind_eq_some_iff.mp made
    cases made
    exact .provide held counted
  | attach parent child =>
    obtain ⟨held, atChild, made⟩ := Option.bind_eq_some_iff.mp made
    obtain ⟨builder, atParent, made⟩ := Option.bind_eq_some_iff.mp made
    cases made
    rw [builders_lay] at atParent
    split at atParent
    next => cases atParent
    next other => exact .attach other atChild atParent
  | register id =>
    obtain ⟨held, atId, made⟩ := Option.bind_eq_some_iff.mp made
    cases made
    exact .register atId

/-- Every call that can be made is made. -/
theorem Steps.made (steps : bench.Steps call next) : bench.step call = some next := by
  cases steps with
  | root => exact if_pos rfl
  | child atParent =>
    refine Option.bind_eq_some_iff.mpr ⟨_, atParent, ?_⟩
    exact if_pos rfl
  | provide atId counted =>
    refine Option.bind_eq_some_iff.mpr ⟨_, atId, ?_⟩
    exact Option.bind_eq_some_iff.mpr ⟨_, counted, rfl⟩
  | attach other atChild atParent =>
    refine Option.bind_eq_some_iff.mpr ⟨_, atChild, ?_⟩
    refine Option.bind_eq_some_iff.mpr ⟨_, ?_, rfl⟩
    rw [builders_lay, if_neg other]
    exact atParent
  | register atId => exact Option.bind_eq_some_iff.mpr ⟨_, atId, rfl⟩

theorem step_eq_some_iff : bench.step call = some next ↔ bench.Steps call next :=
  ⟨steps_of_step, Steps.made⟩

/-- Calls can be made if those up to some point can be, and then the others. -/
theorem run_append {first second : List (Call m κ ε)} :
    bench.run (first ++ second) = some next ↔
      ∃ middle, bench.run first = some middle ∧ middle.run second = some next := by
  rw [run, List.foldlM_append]
  exact Option.bind_eq_some_iff

theorem run_cons :
    bench.run (call :: calls) = some next ↔
      ∃ after, bench.Steps call after ∧ after.run calls = some next := by
  simp only [← step_eq_some_iff]
  exact Option.bind_eq_some_iff

theorem run_concat :
    bench.run (calls ++ [call]) = some next ↔
      ∃ before, bench.run calls = some before ∧ before.Steps call next := by
  have alone : ∀ before : Bench m κ ε, before.run [call] = some next ↔ before.Steps call next := by
    intro before
    rw [run_cons]
    constructor
    · rintro ⟨after, steps, ⟨⟩⟩
      exact steps
    · intro steps
      exact ⟨next, steps, rfl⟩
  simp only [run_append, alone]

/-- What holds before the first call, and is preserved by every call that can be made, holds after all
calls. -/
theorem run_induction {motive : List (Call m κ ε) → Bench m κ ε → Prop} (start : motive [] empty)
    (steps : ∀ {calls bench call next}, motive calls bench → bench.Steps call next →
      motive (calls ++ [call]) next)
    (made : empty.run calls = some bench) : motive calls bench := by
  -- Calls are made from the front, so that the last one is the step of the induction.
  induction calls using List.reverseRecOn generalizing bench with
  | nil =>
    cases made
    exact start
  | append_singleton calls call ih =>
    obtain ⟨before, earlier, last⟩ := run_concat.mp made
    exact steps (ih earlier) last

theorem Steps.opened_le (steps : bench.Steps call next) : bench.opened ≤ next.opened := by
  cases steps with
  | root => exact Nat.le_succ _
  | child _ => exact Nat.le_succ _
  | provide _ _ => exact Nat.le_refl _
  | attach _ _ _ => exact Nat.le_refl _
  | register _ => exact Nat.le_refl _

/-- A call makes provisions only on builders at hand. -/
theorem Steps.provision?_eq_none (steps : bench.Steps call next)
    (gone : bench.builders id = none) : call.provision? id = none := by
  cases steps with
  | @provide other _ _ _ held _ =>
    refine if_neg fun same => ?_
    rw [same, gone] at held
    cases held
  | _ => rfl

/-- A call attaches builders only to builders at hand. -/
theorem Steps.attaches?_eq_none (steps : bench.Steps call next)
    (gone : bench.builders id = none) : call.attaches? id = none := by
  cases steps with
  | @attach parent _ _ _ _ _ held =>
    refine if_neg fun same => ?_
    rw [same, gone] at held
    cases held
  | _ => rfl

/-- A finished builder does not come back. -/
theorem Steps.builders_eq_none (steps : bench.Steps call next) (gone : bench.builders id = none)
    (old : id < bench.opened) : next.builders id = none := by
  cases steps with
  | root => exact (if_neg (Nat.ne_of_lt old)).trans gone
  | child _ => exact (if_neg (Nat.ne_of_lt old)).trans gone
  | @provide other _ _ _ held _ =>
    refine (if_neg fun same => ?_).trans gone
    rw [← same, gone] at held
    cases held
  | @attach parent child _ _ _ _ held =>
    refine (if_neg fun same => ?_).trans ?_
    · rw [← same, gone] at held
      cases held
    · rw [builders_lay, gone, ite_self]
  | register _ =>
    show (if _ then none else bench.builders id) = none
    rw [gone, ite_self]

/-- A builder that a call finishes was at hand, and is no longer. -/
theorem Steps.builders_of_finishes (steps : bench.Steps call next)
    (finishes : call.finishes? = some id) :
    (∃ held, bench.builders id = some held) ∧ next.builders id = none := by
  cases steps with
  | @attach parent child builder held other atChild _ =>
    cases finishes
    refine ⟨⟨held, atChild⟩, ?_⟩
    rw [builders_lay, if_neg (Ne.symm other), builders_lay, if_pos rfl]
  | @register _ held atId =>
    cases finishes
    exact ⟨⟨held, atId⟩, if_pos rfl⟩
  | _ => cases finishes

end Bench

/-! ## The account of a builder -/

/-- The clause is what the provisions of a builder have made of it. -/
def Told (calls : List (Call m κ ε)) (id : Nat) (clause : Clause m κ ε) : Prop :=
  ∃ inherited, ∃ builder : Builder m κ ε, Inherits calls id inherited ∧
    builder.Tells inherited (provisionsOn calls id) ∧ builder.build.clause = clause

/-- The builder is finished: it is no longer at hand, and the clause of its node is what its provisions
have made of it. -/
def Finished (calls : List (Call m κ ε)) (bench : Bench m κ ε) (id : Nat) (clause : Clause m κ ε) :
    Prop :=
  bench.builders id = none ∧ id < bench.opened ∧ Told calls id clause

/-- The builder at hand is what its provisions make of it, and its children follow the builders that
were attached to it. -/
def Held (calls : List (Call m κ ε)) (bench : Bench m κ ε) (id : Nat) (builder : Builder m κ ε) :
    Prop :=
  id < bench.opened ∧
    (∃ inherited, Inherits calls id inherited ∧
      builder.Tells inherited (provisionsOn calls id)) ∧
    Node.AllFollow (attachedTo calls) (Finished calls bench) builder.children (attachedTo calls id)

/-- Calls account for a bench. -/
structure Accounts (calls : List (Call m κ ε)) (bench : Bench m κ ε) : Prop where
  held : ∀ id builder, bench.builders id = some builder → Held calls bench id builder
  roots : Node.AllFollow (attachedTo calls) (Finished calls bench) bench.roots (registered calls)
  /-- Nothing was said of a builder before it was opened. -/
  unused : ∀ id, bench.opened ≤ id → provisionsOn calls id = [] ∧ attachedTo calls id = []

section Step

variable {calls : List (Call m κ ε)} {bench next : Bench m κ ε} {call : Call m κ ε} {id : Nat}
  {clause : Clause m κ ε} {builder held : Builder m κ ε}

/-- What is finished stays as it is. -/
theorem Finished.step (finished : Finished calls bench id clause) (steps : bench.Steps call next) :
    Finished (calls ++ [call]) next id clause ∧
      attachedTo (calls ++ [call]) id = attachedTo calls id := by
  obtain ⟨gone, old, inherited, builder, inherits, tells, same⟩ := finished
  constructor
  · refine ⟨steps.builders_eq_none gone old, Nat.lt_of_lt_of_le old steps.opened_le, inherited,
      builder, inherits.append _, ?_, same⟩
    rw [provisionsOn_concat, steps.provision?_eq_none gone, Option.toList_none, List.append_nil]
    exact tells
  · rw [attachedTo_concat, steps.attaches?_eq_none gone, Option.toList_none, List.append_nil]

theorem follow_step {nodes : List (Node m κ ε)} {ids : List Nat}
    (follow : Node.AllFollow (attachedTo calls) (Finished calls bench) nodes ids)
    (steps : bench.Steps call next) :
    Node.AllFollow (attachedTo (calls ++ [call])) (Finished (calls ++ [call]) next) nodes ids :=
  follow.imp fun _ _ finished => finished.step steps

/-- A builder that a call does not speak of stays as it is. -/
theorem Held.step_other (account : Held calls bench id builder) (steps : bench.Steps call next)
    (unprovided : call.provision? id = none) (unattached : call.attaches? id = none) :
    Held (calls ++ [call]) next id builder := by
  obtain ⟨old, ⟨inherited, inherits, tells⟩, follow⟩ := account
  refine ⟨Nat.lt_of_lt_of_le old steps.opened_le, ⟨inherited, inherits.append _, ?_⟩, ?_⟩
  · rw [provisionsOn_concat, unprovided, Option.toList_none, List.append_nil]
    exact tells
  · rw [attachedTo_concat, unattached, Option.toList_none, List.append_nil]
    exact follow_step follow steps

/-- A builder on which a provision is made is what one more provision makes of it. -/
theorem Held.step_provide {provision : Provision m κ ε} (account : Held calls bench id builder)
    (steps : bench.Steps (.provide id provision) next) :
    Held (calls ++ [.provide id provision]) next id (builder.provide provision) := by
  obtain ⟨old, ⟨inherited, inherits, tells⟩, follow⟩ := account
  have children : (builder.provide provision).children = builder.children := by
    cases provision <;> rfl
  have reads : (Call.provide id provision).provision? id = some provision := if_pos rfl
  refine ⟨Nat.lt_of_lt_of_le old steps.opened_le, ⟨inherited, inherits.append _, ?_⟩, ?_⟩
  · rw [provisionsOn_concat, reads]
    exact tells.provide provision
  · rw [attachedTo_concat, children]
    exact (List.append_nil _).symm ▸ follow_step follow steps

/-- The node of a builder that is finished follows it. -/
theorem Held.follows (account : Held calls bench id held) (steps : bench.Steps call next)
    (finishes : call.finishes? = some id) :
    held.build.Follows (attachedTo (calls ++ [call])) (Finished (calls ++ [call]) next) id := by
  obtain ⟨⟨_, atHand⟩, gone⟩ := steps.builders_of_finishes finishes
  have silent : call.provision? id = none ∧ call.attaches? id = none := by
    cases steps with
    | @attach parent child _ _ other _ _ =>
      cases finishes
      exact ⟨rfl, if_neg other⟩
    | register _ => exact ⟨rfl, rfl⟩
    | _ => cases finishes
  obtain ⟨old, ⟨inherited, inherits, tells⟩, follow⟩ := account.step_other steps silent.1 silent.2
  exact ⟨⟨gone, old, inherited, held, inherits, tells, rfl⟩, follow⟩

/-- A builder to which another is attached has one more child. -/
theorem Held.step_attach {parent child : Nat} (account : Held calls bench parent builder)
    (other : Held calls bench child held) (steps : bench.Steps (.attach parent child) next) :
    Held (calls ++ [.attach parent child]) next parent (builder.attach held) := by
  obtain ⟨old, ⟨inherited, inherits, tells⟩, follow⟩ := account
  have reads : (Call.attach parent child : Call m κ ε).attaches? parent = some child := if_pos rfl
  refine ⟨Nat.lt_of_lt_of_le old steps.opened_le, ⟨inherited, inherits.append _, ?_⟩, ?_⟩
  · rw [provisionsOn_concat]
    exact (List.append_nil _).symm ▸ tells.attach held
  · rw [attachedTo_concat, reads]
    exact (follow_step follow steps).concat (other.follows steps rfl)

theorem accounts_empty : Accounts ([] : List (Call m κ ε)) Bench.empty where
  held := fun _ _ atHand => nomatch atHand
  roots := rfl
  unused := fun _ _ => ⟨rfl, rfl⟩

/-- A builder that is not yet opened is not spoken of. -/
theorem Accounts.unused_step (accounts : Accounts calls bench) (steps : bench.Steps call next)
    (later : bench.opened ≤ id) :
    provisionsOn (calls ++ [call]) id = [] ∧ attachedTo (calls ++ [call]) id = [] := by
  have gone : bench.builders id = none := by
    cases atHand : bench.builders id with
    | none => rfl
    | some builder => exact absurd (accounts.held id builder atHand).1 (Nat.not_lt.mpr later)
  obtain ⟨unprovided, unattached⟩ := accounts.unused id later
  rw [provisionsOn_concat, attachedTo_concat, unprovided, unattached,
    steps.provision?_eq_none gone, steps.attaches?_eq_none gone]
  exact ⟨rfl, rfl⟩

/-- A builder that was just opened has no provision of its own yet, and no child. -/
theorem Accounts.held_new {inherited : List (Provision m κ ε)} (accounts : Accounts calls bench)
    (steps : bench.Steps call next) (opened : next.opened = bench.opened + 1)
    (inherits : Inherits (calls ++ [call]) bench.opened inherited)
    (tells : builder.Tells inherited []) (leaf : builder.children = []) :
    Held (calls ++ [call]) next bench.opened builder := by
  obtain ⟨unprovided, unattached⟩ := accounts.unused_step steps (Nat.le_refl _)
  refine ⟨opened ▸ Nat.lt_succ_self _, ⟨inherited, inherits, unprovided ▸ tells⟩, ?_⟩
  rw [leaf, unattached]
  rfl

/-- A call adds to the roots the node that it registers, if it registers one. -/
theorem Accounts.roots_step (accounts : Accounts calls bench) (steps : bench.Steps call next) :
    Node.AllFollow (attachedTo (calls ++ [call])) (Finished (calls ++ [call]) next) next.roots
      (registered (calls ++ [call])) := by
  have kept := follow_step accounts.roots steps
  rw [registered_concat]
  cases steps with
  | @register finished held atId =>
    have steps : bench.Steps (.register finished) _ := .register atId
    exact kept.concat ((accounts.held finished held atId).follows steps rfl)
  | _ => exact (List.append_nil _).symm ▸ kept

/-- A builder that was just opened is accounted for, and the others are as they were. -/
theorem Accounts.held_openNext {inherited : List (Provision m κ ε)} {opened : Builder m κ ε}
    (accounts : Accounts calls bench) (steps : bench.Steps call (bench.openNext opened))
    (silent : call.provision? = fun _ => none) (unattached : call.attaches? = fun _ => none)
    (inherits : Inherits (calls ++ [call]) bench.opened inherited)
    (tells : opened.Tells inherited []) (leaf : opened.children = [])
    (atHand : (bench.openNext opened).builders id = some builder) :
    Held (calls ++ [call]) (bench.openNext opened) id builder := by
  rw [Bench.builders_openNext] at atHand
  split at atHand
  next new =>
    cases atHand
    subst new
    exact accounts.held_new steps rfl inherits tells leaf
  next =>
    exact (accounts.held id builder atHand).step_other steps (congrFun silent id)
      (congrFun unattached id)

/-- A call leaves every builder at hand accounted for. -/
theorem Accounts.held_step (accounts : Accounts calls bench) (steps : bench.Steps call next)
    (atHand : next.builders id = some builder) : Held (calls ++ [call]) next id builder := by
  cases steps with
  | @root name =>
    exact accounts.held_openNext .root rfl rfl (.root _ _ _) (Builder.tells_root name) rfl atHand
  | @child parent pattern opener atParent =>
    obtain ⟨_, ⟨inherited, inherits, tells⟩, _⟩ := accounts.held parent opener atParent
    exact accounts.held_openNext (.child atParent) rfl rfl (inherits.child _ _) (tells.child pattern)
      rfl atHand
  | @provide target declared provision before atTarget counted =>
    have steps : bench.Steps (.provide target provision) _ := .provide atTarget counted
    replace atHand : (bench.lay target (some (before.provide provision))).builders id =
      some builder := atHand
    rw [Bench.builders_lay] at atHand
    split at atHand
    next same =>
      cases atHand
      subst same
      exact (accounts.held id before atTarget).step_provide steps
    next other =>
      exact (accounts.held id builder atHand).step_other steps (if_neg (Ne.symm other)) rfl
  | @attach parent child before held different atChild atParent =>
    have steps : bench.Steps (.attach parent child) _ := .attach different atChild atParent
    rw [Bench.builders_lay] at atHand
    split at atHand
    next same =>
      cases atHand
      subst same
      exact (accounts.held id before atParent).step_attach (accounts.held child held atChild) steps
    next other =>
      -- The child is gone, and any third builder is where it was.
      rw [Bench.builders_lay] at atHand
      split at atHand
      next => cases atHand
      next => exact (accounts.held id builder atHand).step_other steps rfl (if_neg (Ne.symm other))
  | @register finished held atId =>
    have steps : bench.Steps (.register finished) _ := .register atId
    replace atHand : (bench.lay finished none).builders id = some builder := atHand
    rw [Bench.builders_lay] at atHand
    split at atHand
    next => cases atHand
    next => exact (accounts.held id builder atHand).step_other steps rfl rfl

/-- One call preserves the accounts. -/
theorem Accounts.step (accounts : Accounts calls bench) (steps : bench.Steps call next) :
    Accounts (calls ++ [call]) next where
  held := fun _ _ atHand => accounts.held_step steps atHand
  roots := accounts.roots_step steps
  unused := fun _ later => accounts.unused_step steps (Nat.le_trans steps.opened_le later)

/-- Calls account for the bench that they lead to. -/
theorem accounts_of_run (made : Bench.empty.run calls = some bench) : Accounts calls bench :=
  Bench.run_induction accounts_empty (fun accounts steps => accounts.step steps) made

/-- Every node fits the builder that it comes from: those of the grammar, and those of the builders
that are still at hand, down to their leaves. -/
structure Bench.NodesFit (calls : List (Call m κ ε)) (bench : Bench m κ ε)
    (fits : Nat → Clause m κ ε → Prop) : Prop where
  roots : Node.AllFollow (attachedTo calls) fits bench.roots (registered calls)
  held : ∀ id builder, bench.builders id = some builder →
    builder.build.Follows (attachedTo calls) fits id

/-- What holds of every clause that its provisions make holds of every node. -/
theorem Accounts.nodesFit {fits : Nat → Clause m κ ε → Prop} (accounts : Accounts calls bench)
    (fitting : ∀ id clause, Told calls id clause → fits id clause) : bench.NodesFit calls fits := by
  have keep : ∀ id clause, Finished calls bench id clause →
      fits id clause ∧ attachedTo calls id = attachedTo calls id := by
    rintro id clause ⟨_, _, told⟩
    exact ⟨fitting id clause told, rfl⟩
  refine ⟨accounts.roots.imp keep, fun id builder atHand => ?_⟩
  obtain ⟨_, ⟨inherited, inherits, tells⟩, follow⟩ := accounts.held id builder atHand
  exact ⟨fitting id _ ⟨inherited, builder, inherits, tells, rfl⟩, follow.imp keep⟩

end Step

end CommandGrammar
