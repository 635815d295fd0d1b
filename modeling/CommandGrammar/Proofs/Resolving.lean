import CommandGrammar.Chain
import Mathlib.Data.Nat.Init

/-!
# What an argument resolves to

An argument with a mapper has the value that its mapper gives in the invocation, and none where the
mapper gives none (`Invocation.resolve_of_mapper`); an argument without one has its raw value
(`Invocation.resolve_of_none`). That resolving is total, it sets a mapper aside while that one runs, and
the invocation that the mapper is given differs from the one at hand in that alone (`Invocation.aside`).

The difference never shows where asking comes to an end. If an argument's mapper does not ask for the
argument, be it through other mappers, then the arguments that it asks for in the end can be ranked so
that each asks for arguments of a lower rank only, and the value of the argument is that of its mapper in
the invocation at hand (`Invocation.resolve_of_terminates`). Which arguments a mapper asks for may depend
on the answers it is given, and it is enough that the ranks fit the answers that it is given here
(`Mappers.Grounded`). That holds where they fit all answers (`Mappers.Ranked.terminates`), and for a mapper
that works with the text of its argument alone and asks for nothing (`Mappers.terminates_of_asksNothing`).
-/

set_option autoImplicit false

namespace CommandGrammar

variable {m : Type → Type} {κ ε : Type}

/-- The mapper makes the same of two invocations of a line that differ at most in how arguments
outside of `visible` resolve. -/
def Mapper.AsksOnly (mapper : Mapper m κ ε) (sender : Sender m κ) (input : String)
    (arguments : Bindings) (ids : List String) (visible : String → Prop) : Prop :=
  ∀ first second : String → m (Option (Value ε)), (∀ id, visible id → first id = second id) →
    mapper ⟨sender, input, arguments, ids, first⟩ = mapper ⟨sender, input, arguments, ids, second⟩

/-- On this line, the mappers of the arguments in `asked` ask only for such arguments again, and for
those of a lower rank than their own. -/
def Mappers.Ranked (mappers : Mappers m κ ε) (sender : Sender m κ) (input : String)
    (arguments : Bindings) (ids : List String) (asked : String → Prop) (rank : String → Nat) : Prop :=
  ∀ id mapper, asked id → mappers.lookup id = some mapper →
    Mapper.AsksOnly mapper sender input arguments ids fun other => asked other ∧ rank other < rank id

/-- On this line, every argument in `asked` comes to its value by asking, if at all, for arguments in
`asked` of a lower rank: answers that agree on these would make no difference. Unlike `Mappers.Ranked` this
is about the answers that are given and no others. -/
def Mappers.Grounded [Monad m] (mappers : Mappers m κ ε) (sender : Sender m κ) (input : String)
    (arguments : Bindings) (ids : List String) (asked : String → Prop) (rank : String → Nat) : Prop :=
  ∀ id mapper, asked id → mappers.lookup id = some mapper →
    ∀ answers : String → m (Option (Value ε)),
      (∀ other, asked other ∧ rank other < rank id →
        resolveWith sender input arguments ids mappers other = answers other) →
      mapper ⟨sender, input, arguments, ids, resolveWith sender input arguments ids mappers⟩ =
        mapper ⟨sender, input, arguments, ids, answers⟩

/-- Asking for the value of the argument comes to an end. -/
def Mappers.Terminates [Monad m] (mappers : Mappers m κ ε) (sender : Sender m κ) (input : String)
    (arguments : Bindings) (id : String) : Prop :=
  ∃ asked rank, asked id ∧
    mappers.Grounded sender input arguments (Assoc.names mappers) asked rank

section Resolve

variable [Monad m] (sender : Sender m κ) (input : String) (arguments : Bindings)
  {mappers mappers' : Mappers m κ ε} {ids : List String} {asked : String → Prop}
  {rank : String → Nat} {id : String} {mapper : Mapper m κ ε}

/-- The invocation that the mapper of an argument is given: its own argument resolves to the raw
value. -/
def Invocation.aside (mappers : Mappers m κ ε) (id : String) : Invocation m κ ε :=
  { Invocation.of sender input arguments mappers with
    resolve := resolveWith sender input arguments (Assoc.names mappers) (Assoc.erase id mappers) }

/-- An argument with a mapper resolves to what the mapper gives, with the mapper set aside. -/
theorem resolveWith_of_mapper (mapped : mappers.lookup id = some mapper) :
    resolveWith sender input arguments ids mappers id =
      mapper ⟨sender, input, arguments, ids,
        resolveWith sender input arguments ids (Assoc.erase id mappers)⟩ := by
  rw [resolveWith]
  split
  next unmapped =>
    rw [mapped] at unmapped
    cases unmapped
  next found =>
    rw [mapped] at found
    cases found
    rfl

theorem resolveWith_of_none (unmapped : mappers.lookup id = none) :
    resolveWith sender input arguments ids mappers id =
      pure ((arguments.lookup id).map fun binding => .raw binding.value) := by
  rw [resolveWith]
  split
  next => rfl
  next mapped =>
    rw [unmapped] at mapped
    cases mapped

/-- Asking comes to an end where the ranks fit all answers. -/
theorem Mappers.Ranked.terminates
    (ranked : mappers.Ranked sender input arguments (Assoc.names mappers) asked rank)
    (known : asked id) : mappers.Terminates sender input arguments id :=
  ⟨asked, rank, known, fun other mapper known' mapped answers agree =>
    ranked other mapper known' mapped _ answers agree⟩

/-- A mapper that asks for nothing comes to an end. -/
theorem Mappers.terminates_of_asksNothing (mapped : mappers.lookup id = some mapper)
    (nothing : mapper.AsksOnly sender input arguments (Assoc.names mappers) fun _ => False) :
    mappers.Terminates sender input arguments id := by
  have ranked : mappers.Ranked sender input arguments (Assoc.names mappers) (fun other => other = id)
      fun _ => 0 := by
    rintro other mapper' rfl mapped' first second -
    obtain rfl : mapper = mapper' := Option.some.inj (mapped.symm.trans mapped')
    exact nothing first second fun _ no => no.elim
  exact ranked.terminates sender input arguments rfl

/-- Mappers that are the same for arguments up to the rank of this one may take the place of those at hand:
its mapper makes the same of them. -/
theorem resolveWith_eq_of_grounded
    (grounded : mappers.Grounded sender input arguments ids asked rank) (known : asked id)
    (mapped : mappers.lookup id = some mapper)
    (agree : ∀ other, rank other ≤ rank id → mappers'.lookup other = mappers.lookup other) :
    resolveWith sender input arguments ids mappers' id =
      mapper ⟨sender, input, arguments, ids, resolveWith sender input arguments ids mappers⟩ := by
  generalize level : rank id = bound at agree
  induction bound using Nat.strongRecOn generalizing id mapper mappers' with
  | ind bound ih =>
    have same := agree id (Nat.le_of_eq level)
    rw [resolveWith_of_mapper sender input arguments (same.trans mapped)]
    refine (grounded id mapper known mapped _ fun other ⟨known', lower⟩ => ?_).symm
    -- What the mapper asks for has a lower rank, where setting it aside makes no difference.
    have agree' : ∀ below, rank below ≤ rank other →
        (Assoc.erase id mappers').lookup below = mappers.lookup below := by
      intro below under
      have different : below ≠ id := by
        rintro rfl
        omega
      rw [Assoc.lookup_erase, if_neg different]
      exact agree below (by omega)
    cases mapped' : mappers.lookup other with
    | none =>
      have unmapped := (agree' other (Nat.le_refl _)).trans mapped'
      rw [resolveWith_of_none sender input arguments mapped',
        resolveWith_of_none sender input arguments unmapped]
    | some mapper' =>
      rw [ih (rank other) (level ▸ lower) known' mapped' rfl (fun _ _ => rfl),
        ih (rank other) (level ▸ lower) known' mapped' rfl agree']

namespace Invocation

/-- The value of an argument with a mapper is what the mapper gives, none included. -/
theorem resolve_of_mapper (mapped : mappers.lookup id = some mapper) :
    (Invocation.of sender input arguments mappers).resolve id =
      mapper (aside sender input arguments mappers id) :=
  resolveWith_of_mapper sender input arguments mapped

/-- The value of an argument without a mapper is its raw value, if it has one. -/
theorem resolve_of_none (unmapped : mappers.lookup id = none) :
    (Invocation.of sender input arguments mappers).resolve id =
      pure (((Invocation.of sender input arguments mappers).raw? id).map Value.raw) := by
  refine (resolveWith_of_none sender input arguments unmapped).trans ?_
  rw [raw?, parsed?, Option.map_map]
  rfl

/-- Where asking comes to an end, setting the mapper aside makes no difference. -/
theorem resolve_of_terminates (ends : mappers.Terminates sender input arguments id)
    (mapped : mappers.lookup id = some mapper) :
    (Invocation.of sender input arguments mappers).resolve id =
      mapper (Invocation.of sender input arguments mappers) := by
  obtain ⟨asked, rank, known, grounded⟩ := ends
  exact resolveWith_eq_of_grounded sender input arguments grounded known mapped fun _ _ => rfl

end Invocation

end Resolve

end CommandGrammar
