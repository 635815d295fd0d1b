import CommandGrammar.Builder.Composite

/-!
# What declaring a composite argument attaches

Declaring a composite argument attaches a child to the builder at hand, after its mapper was set there. The
body of the argument is carried out on the child, and may say otherwise about it: another source takes the
place of the one that the argument came with, and another mapper that of its mapper. As long as the body
does not, both are what they were, the mapper in every chain that is bound on the way as well
(`Declaration.Composed`). What the child matches no step can change.

What the body says about children of its own does not matter. They have their own builders.
-/

set_option autoImplicit false

namespace CommandGrammar

variable {m : Type → Type} {κ ε ν : Type}

/-! ## What steps leave alone -/

/-- The mapper is in force for an argument, at the builder and in its chain. -/
structure Builder.Maps (builder : Builder m κ ε) (id : String) (mapper : Mapper m κ ε) : Prop where
  own : builder.mappers.lookup id = some mapper
  chain : ∀ chain, builder.chain = some chain → chain.mappers.lookup id = some mapper

/-- A chain that is bound anew has the mappers of its builder. -/
theorem Builder.Maps.rebind {builder : Builder m κ ε} {id : String} {mapper : Mapper m κ ε}
    (maps : builder.Maps id mapper) : builder.rebind.Maps id mapper where
  own := maps.own
  chain := by
    rintro chain ⟨⟩
    exact maps.own

namespace Declaration

/-- No step changes what the builder at hand matches. -/
theorem pattern_apply (step : Declaration m κ ε ν) (draft : Draft m κ ε ν) :
    (step.apply draft).builder.pattern = draft.builder.pattern := by
  cases step with
  | edit label body =>
    unfold apply
    split <;> rfl
  | attach label =>
    unfold apply
    split <;> rfl
  | _ =>
    unfold apply
    rfl

/-- Nor do any number of steps. -/
theorem pattern_applyAll (steps : List (Declaration m κ ε ν)) (draft : Draft m κ ε ν) :
    (applyAll steps draft).builder.pattern = draft.builder.pattern := by
  induction steps generalizing draft with
  | nil => rw [applyAll]
  | cons step rest ih => rw [applyAll, ih, step.pattern_apply]

/-- A step that offers nothing at its own level leaves the source of the builder at hand as it is. -/
theorem source_apply {step : Declaration m κ ε ν} (silent : ∀ source, step ≠ .offer source)
    (draft : Draft m κ ε ν) : (step.apply draft).builder.source = draft.builder.source := by
  cases step with
  | offer source => exact absurd rfl (silent source)
  | edit label body =>
    unfold apply
    split <;> rfl
  | attach label =>
    unfold apply
    split <;> rfl
  | _ =>
    unfold apply
    rfl

/-- So do any number of such steps. -/
theorem source_applyAll {steps : List (Declaration m κ ε ν)}
    (silent : ∀ source, Declaration.offer source ∉ steps) (draft : Draft m κ ε ν) :
    (applyAll steps draft).builder.source = draft.builder.source := by
  induction steps generalizing draft with
  | nil => rw [applyAll]
  | cons step rest ih =>
    rw [applyAll, ih fun source member => silent source (List.mem_cons_of_mem _ member)]
    refine source_apply (fun source same => ?_) draft
    subst same
    exact silent source List.mem_cons_self

/-- A step that does not set another mapper for an argument leaves the one in force. -/
theorem maps_apply {step : Declaration m κ ε ν} {id : String} {mapper : Mapper m κ ε}
    (silent : ∀ other, step ≠ .map id other) {draft : Draft m κ ε ν}
    (maps : draft.builder.Maps id mapper) : (step.apply draft).builder.Maps id mapper := by
  cases step with
  | map key other =>
    unfold apply
    have apart : id ≠ key := by
      rintro rfl
      exact silent other rfl
    refine ⟨?_, maps.chain⟩
    show (Assoc.put key other draft.builder.mappers).lookup id = _
    rw [Assoc.lookup_put, if_neg apart]
    exact maps.own
  | handle audience body =>
    unfold apply
    exact Builder.Maps.rebind ⟨maps.own, maps.chain⟩
  | rebind =>
    unfold apply
    exact maps.rebind
  | edit label body =>
    unfold apply
    split <;> exact maps
  | attach label =>
    unfold apply
    split
    · exact maps
    · exact ⟨maps.own, maps.chain⟩
  | _ =>
    unfold apply
    exact ⟨maps.own, maps.chain⟩

/-- So do any number of such steps. -/
theorem maps_applyAll {steps : List (Declaration m κ ε ν)} {id : String} {mapper : Mapper m κ ε}
    (silent : ∀ other, Declaration.map id other ∉ steps) {draft : Draft m κ ε ν}
    (maps : draft.builder.Maps id mapper) : (applyAll steps draft).builder.Maps id mapper := by
  induction steps generalizing draft with
  | nil =>
    rw [applyAll]
    exact maps
  | cons step rest ih =>
    rw [applyAll]
    refine ih (fun other member => silent other (List.mem_cons_of_mem _ member)) (maps_apply ?_ maps)
    rintro other rfl
    exact silent other List.mem_cons_self

/-! ## Composite arguments -/

/-- What declaring a composite argument comes to: a child is attached to the builder at hand, on which the
mapper is set. The child matches the argument. It has the source and the mapper of the argument, in its
chain as well, if the body does not say otherwise. -/
structure Composed (id : String) (form : Form) (mapper : Mapper m κ ε)
    (source : Completion.Source m κ ε) (body : List (Declaration m κ ε ν))
    (draft after : Draft m κ ε ν) (child : Builder m κ ε) : Prop where
  attached : after.builder = (draft.builder.map id mapper).attach child
  pattern : child.pattern = .argument id form
  keeps : (∀ source, Declaration.offer source ∉ body) → child.source = some source
  maps : (∀ other, Declaration.map id other ∉ body) → child.Maps id mapper

/-- Declaring a composite argument attaches a child. -/
theorem exists_composed [Monad m] (id : String) (form : Form) (mapper : Mapper m κ ε)
    (source : Completion.Source m κ ε) (body : List (Declaration m κ ε ν)) (draft : Draft m κ ε ν) :
    ∃ child, Composed id form mapper source body draft
      (applyAll (composite id form mapper source body) draft) child := by
  let mapped := draft.builder.map id mapper
  let started := draft.enter ((mapped.child (.argument id form)).offer source)
  refine ⟨(applyAll body started).builder, ?_, ?_, ?_, ?_⟩
  · simp only [composite, argument, applyAll, apply]
    rfl
  · rw [pattern_applyAll]
    rfl
  · intro silent
    rw [source_applyAll silent]
    rfl
  · intro silent
    refine maps_applyAll silent ⟨?_, nofun⟩
    show (Assoc.put id mapper draft.builder.mappers).lookup id = _
    rw [Assoc.lookup_put, if_pos rfl]

end Declaration

end CommandGrammar
