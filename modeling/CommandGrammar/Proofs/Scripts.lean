import CommandGrammar.Grammar.Script
import CommandGrammar.Proofs.Access
import CommandGrammar.Proofs.Resolving
import CommandGrammar.Shell.Commands

/-!
# Declarations make calls

What is proved of all calls on builders holds of the grammars that declarations make, because a
declaration makes such calls: `Declaration.calls` writes them down, and making them on a bench comes to
the same as carrying the declaration out (`Declaration.carried`). The children of a declaration are
attached to the builders that they were opened on (`Declaration.settled`), whichever of them are
detached, edited and attached in between. So every grammar of declared commands is `Grammar.Made`, the
one of the shell among them (`Shell.made_grammar`).

The calls of a scope speak of the builder at hand, of the children that were detached in it, and of
builders that they open themselves. Every other builder stays as it is (`Place.Keeps`), and that is
what lets the calls of a body stand between the calls around it.
-/

set_option autoImplicit false

namespace CommandGrammar

open Call (Homed)

variable {m : Type → Type} {κ ε ν : Type}

/-! ## Benches and drafts -/

/-- The steps at a place may speak of a builder: the one at hand, or a detached child. -/
def Place.Knows (place : Place) (id : Nat) : Prop :=
  id = place.current ∨ ∃ label, place.detached.lookup label = some id

/-- What a draft holds lies on the bench, under the numbers of the place. -/
structure Represents (bench : Bench m κ ε) (place : Place) (draft : Draft m κ ε ν) : Prop where
  current : bench.builders place.current = some draft.builder
  detached : ∀ label,
    (place.detached.lookup label).map bench.builders = (draft.detached.lookup label).map some
  opened : bench.opened = place.opened
  declared : bench.declared = place.declared
  numbered : draft.declared = place.declared
  known_lt : ∀ id, place.Knows id → id < place.opened
  apart : ∀ label, place.detached.lookup label ≠ some place.current
  distinct : ∀ first second id, place.detached.lookup first = some id →
    place.detached.lookup second = some id → first = second

/-- Between two benches, the calls from one place to another have touched what they know and what they
have opened themselves, and nothing else. -/
structure Place.Keeps (place later : Place) (bench next : Bench m κ ε) : Prop where
  roots : next.roots = bench.roots
  others : ∀ id, id < place.opened → ¬ place.Knows id → next.builders id = bench.builders id
  current : later.current = place.current
  opened : place.opened ≤ later.opened
  known : ∀ id, later.Knows id → place.Knows id ∨ place.opened ≤ id

/-- Making the calls that lead from one place to another comes to the draft `after`. -/
def Carried (bench : Bench m κ ε) (place : Place) (made : List (Call m κ ε) × Place)
    (after : Draft m κ ε ν) : Prop :=
  ∃ next, bench.run made.1 = some next ∧ Represents next made.2 after ∧
    place.Keeps made.2 bench next

section Carried

variable {bench next : Bench m κ ε} {place later : Place} {draft after : Draft m κ ε ν}
  {made others : List (Call m κ ε)} {label : String} {id : Nat}

/-- A detached child lies where it lay, if its place was not touched. -/
theorem Represents.detached_congr (represents : Represents bench place draft)
    (same : ∀ id, place.detached.lookup label = some id → next.builders id = bench.builders id) :
    (place.detached.lookup label).map next.builders = (draft.detached.lookup label).map some := by
  rw [← represents.detached label]
  cases found : place.detached.lookup label with
  | none => rfl
  | some id => rw [Option.map_some, Option.map_some, same id found]

/-- A detached child of the draft is one of the place, and the other way round. -/
theorem Represents.lookup_detached (represents : Represents bench place draft) (label : String) :
    (place.detached.lookup label = none ∧ draft.detached.lookup label = none) ∨
      ∃ id held, place.detached.lookup label = some id ∧
        draft.detached.lookup label = some held ∧ bench.builders id = some held := by
  have same := represents.detached label
  cases atPlace : place.detached.lookup label with
  | none =>
    rw [atPlace] at same
    exact .inl ⟨rfl, Option.map_eq_none_iff.mp same.symm⟩
  | some id =>
    rw [atPlace] at same
    obtain ⟨held, atDraft, lies⟩ := Option.map_eq_some_iff.mp same.symm
    exact .inr ⟨id, held, rfl, atDraft, lies.symm⟩

theorem Place.Keeps.refl (place : Place) (bench : Bench m κ ε) : place.Keeps place bench bench where
  roots := rfl
  others := fun _ _ _ => rfl
  current := rfl
  opened := Nat.le_refl _
  known := fun _ known => .inl known

/-- Calls behind others touch what those know and open. -/
theorem Place.Keeps.trans {middle : Bench m κ ε} {last : Place}
    (first : place.Keeps later bench middle) (second : later.Keeps last middle next) :
    place.Keeps last bench next where
  roots := second.roots.trans first.roots
  others := by
    intro id old unknown
    -- A builder that is not known at first is not known later either, as it was opened before.
    have unknown' : ¬ later.Knows id := by
      intro known
      rcases first.known id known with before | new
      · exact unknown before
      · exact absurd old (Nat.not_lt.mpr new)
    rw [second.others id (Nat.lt_of_lt_of_le old first.opened) unknown']
    exact first.others id old unknown
  current := second.current.trans first.current
  opened := Nat.le_trans first.opened second.opened
  known := by
    intro id known
    rcases second.known id known with known' | new
    · exact first.known id known'
    · exact .inr (Nat.le_trans first.opened new)

theorem Carried.append {rest : List (Call m κ ε) × Place} {last : Draft m κ ε ν}
    (first : Carried bench place (made, later) after)
    (second : ∀ next, Represents next later after → Carried next later rest last) :
    Carried bench place (made ++ rest.1, rest.2) last := by
  obtain ⟨middle, runs, represents, keeps⟩ := first
  obtain ⟨next, runs', represents', keeps'⟩ := second middle represents
  exact ⟨next, Bench.run_append.mpr ⟨middle, runs, runs'⟩, represents', keeps.trans keeps'⟩

theorem Provision.countFrom_handle (handler : Handler m κ ε) :
    (Provision.handle handler).countFrom handler.serial = some (handler.serial + 1) :=
  if_pos rfl

/-- The builder at hand becomes another one, the detached children lie where they lay, and builders and
handlers may have been added. -/
theorem Represents.turn {builder : Builder m κ ε} {opened declared drafted : Nat}
    {notes : List (ν × Builder m κ ε)} (represents : Represents bench place draft)
    (current : next.builders place.current = some builder)
    (others : ∀ id, id < place.opened → id ≠ place.current → next.builders id = bench.builders id)
    (opened_ : next.opened = opened) (declared_ : next.declared = declared)
    (numbered : drafted = declared) (grown : place.opened ≤ opened) :
    Represents next { place with opened, declared }
      { draft with builder, declared := drafted, notes } where
  current := current
  detached := by
    refine fun label => represents.detached_congr fun id found => ?_
    refine others id (represents.known_lt id (.inr ⟨label, found⟩)) ?_
    rintro rfl
    exact represents.apart label found
  opened := opened_
  declared := declared_
  numbered := numbered
  known_lt := fun id known => Nat.lt_of_lt_of_le (represents.known_lt id known) grown
  apart := represents.apart
  distinct := represents.distinct

/-- Calls that touch older builders only where they stand keep the rest. -/
theorem Place.Keeps.turn {opened declared : Nat} (roots : next.roots = bench.roots)
    (others : ∀ id, id < place.opened → id ≠ place.current → next.builders id = bench.builders id)
    (grown : place.opened ≤ opened) :
    place.Keeps { place with opened, declared } bench next where
  roots := roots
  others := fun id old unknown => others id old fun same => unknown (.inl same)
  current := rfl
  opened := grown
  known := fun _ known => .inl known

/-- A provision is made on the builder at hand. -/
theorem Represents.provide {provision : Provision m κ ε} {declared : Nat}
    (represents : Represents bench place draft)
    (counted : provision.countFrom place.declared = some declared) :
    Carried bench place ([.provide place.current provision], { place with declared })
      { draft with builder := draft.builder.provide provision, declared } := by
  have counted' : provision.countFrom bench.declared = some declared :=
    represents.declared ▸ counted
  have steps := Bench.Steps.provide represents.current counted'
  have others : ∀ id, id < place.opened → id ≠ place.current →
      (if id = place.current then some (draft.builder.provide provision) else bench.builders id) =
        bench.builders id := fun id _ other => if_neg other
  exact ⟨_, Bench.run_cons.mpr ⟨_, steps, rfl⟩,
    represents.turn (if_pos rfl) others represents.opened rfl rfl (Nat.le_refl _),
    .turn rfl others (Nat.le_refl _)⟩

/-- A provision that declares no handler leaves the next numbers as they are. -/
theorem Represents.provide_silent (represents : Represents bench place draft)
    (provision : Provision m κ ε)
    (silent : provision.countFrom place.declared = some place.declared) :
    Carried bench place ([.provide place.current provision], place)
      { draft with builder := draft.builder.provide provision } := by
  have provided := represents.provide silent
  have same : { draft with
        builder := draft.builder.provide provision
        declared := place.declared } =
      { draft with builder := draft.builder.provide provision } :=
    congrArg (fun declared => { draft with builder := draft.builder.provide provision, declared })
      represents.numbered.symm
  exact same ▸ provided

theorem Represents.steps_child (represents : Represents bench place draft) (pattern : Pattern) :
    bench.Steps (.child place.opened place.current pattern)
      (bench.openNext (draft.builder.child pattern)) := by
  rw [← represents.opened]
  exact .child represents.current

/-- What a draft holds lies where it lay when one more builder is opened. -/
theorem Represents.openNext (represents : Represents bench place draft) (opened : Builder m κ ε) :
    (bench.openNext opened).builders place.opened = some opened ∧
      (∀ id, id ≠ place.opened → (bench.openNext opened).builders id = bench.builders id) ∧
      Represents (bench.openNext opened) place.openNext draft := by
  have others : ∀ id, id ≠ place.opened →
      (bench.openNext opened).builders id = bench.builders id := by
    intro id other
    rw [Bench.builders_openNext, if_neg (represents.opened.symm ▸ other)]
  have old : ∀ id, place.Knows id → id ≠ place.opened := fun id known =>
    Nat.ne_of_lt (represents.known_lt id known)
  refine ⟨?_, others, ?_⟩
  · rw [Bench.builders_openNext, if_pos represents.opened.symm]
  · refine { current := (others _ (old _ (.inl rfl))).trans represents.current
             detached := ?_
             opened := congrArg (· + 1) represents.opened
             declared := represents.declared, numbered := represents.numbered
             known_lt := fun id known => Nat.lt_succ_of_lt (represents.known_lt id known)
             apart := represents.apart, distinct := represents.distinct }
    intro label
    exact represents.detached_congr fun id found => others id (old id (.inr ⟨label, found⟩))

/-- A builder that no step may speak of yet is put aside under a name. -/
theorem Represents.put {held : Builder m κ ε} (represents : Represents bench place draft)
    (label : String) (lies : bench.builders id = some held) (old : id < place.opened)
    (fresh : ¬ place.Knows id) :
    Represents bench { place with detached := Assoc.put label id place.detached }
      { draft with detached := Assoc.put label held draft.detached } := by
  have put : ∀ other builder, (Assoc.put label id place.detached).lookup other = some builder →
      (other = label ∧ builder = id) ∨ place.detached.lookup other = some builder := by
    intro other builder found
    rw [Assoc.lookup_put] at found
    split at found
    next same => exact .inl ⟨same, (Option.some.inj found).symm⟩
    next => exact .inr found
  refine { current := represents.current, detached := fun other => ?_, opened := represents.opened
           declared := represents.declared, numbered := represents.numbered
           known_lt := ?_, apart := fun other found => ?_
           distinct := fun first second builder atFirst atSecond => ?_ }
  · rw [Assoc.lookup_put, Assoc.lookup_put]
    split
    next => exact congrArg some lies
    next => exact represents.detached other
  · rintro builder (rfl | ⟨other, found⟩)
    · exact represents.known_lt _ (.inl rfl)
    · rcases put other builder found with ⟨_, rfl⟩ | before
      · exact old
      · exact represents.known_lt builder (.inr ⟨other, before⟩)
  · rcases put other _ found with ⟨_, same⟩ | before
    · exact fresh (.inl same.symm)
    · exact represents.apart other before
  · rcases put first builder atFirst with ⟨rfl, rfl⟩ | before
    · rcases put second _ atSecond with ⟨rfl, _⟩ | before'
      · rfl
      · exact absurd (.inr ⟨second, before'⟩) fresh
    · rcases put second builder atSecond with ⟨rfl, rfl⟩ | before'
      · exact absurd (.inr ⟨first, before⟩) fresh
      · exact represents.distinct first second builder before before'

/-- A child is opened on the builder at hand and put aside under a name. -/
theorem Represents.detach (represents : Represents bench place draft) (label : String)
    (pattern : Pattern) :
    Carried bench place
      ([.child place.opened place.current pattern],
        { place.openNext with detached := Assoc.put label place.opened place.detached })
      { draft with
        detached := Assoc.put label (draft.builder.child pattern) draft.detached } := by
  have steps := represents.steps_child pattern
  obtain ⟨new, others, opened⟩ := represents.openNext (draft.builder.child pattern)
  have fresh : ¬ place.Knows place.opened := fun known =>
    Nat.lt_irrefl _ (represents.known_lt _ known)
  refine ⟨_, Bench.run_cons.mpr ⟨_, steps, rfl⟩,
    opened.put label new (Nat.lt_succ_self _) fresh, ?_⟩
  refine ⟨rfl, fun id older _ => others id (Nat.ne_of_lt older), rfl, Nat.le_succ _, ?_⟩
  rintro id (rfl | ⟨other, found⟩)
  · exact .inl (.inl rfl)
  · rw [Assoc.lookup_put] at found
    split at found
    next =>
      cases found
      exact .inr (Nat.le_refl _)
    next => exact .inl (.inr ⟨other, found⟩)

theorem Place.lookup_forget {other : String} {builder : Nat}
    (found : (Assoc.erase label place.detached).lookup other = some builder) :
    place.detached.lookup other = some builder ∧ other ≠ label := by
  rw [Assoc.lookup_erase] at found
  split at found
  next => cases found
  next different => exact ⟨found, different⟩

/-- A detached child may be forgotten, and then nothing is asked of the builder that it names. -/
theorem Represents.forget (represents : Represents bench place draft)
    (found : place.detached.lookup label = some id)
    (others : ∀ other, other ≠ id → next.builders other = bench.builders other)
    (opened : next.opened = bench.opened) (declared : next.declared = bench.declared) :
    Represents next { place with detached := Assoc.erase label place.detached }
      { draft with detached := Assoc.erase label draft.detached } where
  current := by
    refine (others _ ?_).trans represents.current
    rintro rfl
    exact represents.apart label found
  detached := by
    intro other
    rw [Assoc.lookup_erase, Assoc.lookup_erase]
    split
    next => rfl
    next different =>
      refine represents.detached_congr fun builder atOther => others builder ?_
      rintro rfl
      exact different (represents.distinct other label builder atOther found)
  opened := opened.trans represents.opened
  declared := declared.trans represents.declared
  numbered := represents.numbered
  known_lt := by
    rintro builder (rfl | ⟨other, kept⟩)
    · exact represents.known_lt _ (.inl rfl)
    · exact represents.known_lt _ (.inr ⟨other, (Place.lookup_forget kept).1⟩)
  apart := fun other kept => represents.apart other (Place.lookup_forget kept).1
  distinct := fun first second builder kept kept' =>
    represents.distinct first second builder (Place.lookup_forget kept).1
      (Place.lookup_forget kept').1

/-- A detached child is attached to the builder at hand. -/
theorem Represents.attach {held : Builder m κ ε} (represents : Represents bench place draft)
    (found : place.detached.lookup label = some id) (lies : bench.builders id = some held) :
    Carried bench place
      ([.attach place.current id], { place with detached := Assoc.erase label place.detached })
      { draft with
        builder := draft.builder.attach held
        detached := Assoc.erase label draft.detached } := by
  have apart : place.current ≠ id := by
    rintro rfl
    exact represents.apart label found
  have steps := Bench.Steps.attach apart lies represents.current
  have cleared : ∀ other, other ≠ id → (bench.lay id none).builders other = bench.builders other :=
    fun other different => if_neg different
  have forgotten := represents.forget found cleared rfl rfl
  have others : ∀ other, other < place.opened → other ≠ place.current →
      ((bench.lay id none).lay place.current (some (draft.builder.attach held))).builders other =
        (bench.lay id none).builders other := fun other _ different => if_neg different
  refine ⟨_, Bench.run_cons.mpr ⟨_, steps, rfl⟩,
    forgotten.turn (if_pos rfl) others forgotten.opened forgotten.declared forgotten.numbered
      (Nat.le_refl _), ?_⟩
  refine ⟨rfl, fun other old unknown => ?_, rfl, Nat.le_refl _, ?_⟩
  · refine (others other old fun same => unknown (.inl same)).trans (cleared other ?_)
    rintro rfl
    exact unknown (.inr ⟨label, found⟩)
  · rintro builder (rfl | ⟨other, kept⟩)
    · exact .inl (.inl rfl)
    · exact .inl (.inr ⟨other, (Place.lookup_forget kept).1⟩)

/-- The steps of a scope begin at its builder, with nothing detached. -/
theorem Represents.enter {builder : Builder m κ ε} (represents : Represents bench place draft)
    (lies : bench.builders id = some builder) (old : id < place.opened) :
    Represents bench (place.enter id) (draft.enter builder) where
  current := lies
  detached := fun _ => rfl
  opened := represents.opened
  declared := represents.declared
  numbered := represents.numbered
  known_lt := by
    rintro other (rfl | ⟨label, found⟩)
    · exact old
    · cases found
  apart := fun _ found => nomatch found
  distinct := fun _ _ _ found => nomatch found

/-- Steps on a detached child change that child alone. -/
theorem Represents.edit {made : List (Call m κ ε) × Place} (represents : Represents bench place draft)
    (found : place.detached.lookup label = some id) (inner : Carried bench (place.enter id) made after) :
    Carried bench place (made.1, made.2.leave place)
      (after.leave draft.builder (Assoc.put label after.builder draft.detached)) := by
  obtain ⟨next, runs, represents', keeps⟩ := inner
  -- Inside, nothing but the child is known, so that all other builders lie where they lay.
  have others : ∀ builder, builder < place.opened → builder ≠ id →
      next.builders builder = bench.builders builder := by
    intro builder old different
    refine keeps.others builder old ?_
    rintro (same | ⟨_, none_⟩)
    · exact different same
    · cases none_
  have lies : next.builders id = some after.builder := by
    have current := represents'.current
    rwa [keeps.current] at current
  have known_lt : ∀ builder, place.Knows builder → builder < place.opened := represents.known_lt
  refine ⟨next, runs, ?_, ?_⟩
  · refine ⟨?_, fun other => ?_, represents'.opened, represents'.declared, represents'.numbered, ?_,
      represents.apart, represents.distinct⟩
    · refine (others _ (known_lt _ (.inl rfl)) ?_).trans represents.current
      rintro rfl
      exact represents.apart label found
    · show (place.detached.lookup other).map next.builders =
        ((Assoc.put label after.builder draft.detached).lookup other).map some
      rw [Assoc.lookup_put]
      split
      next same =>
        rw [same, found, Option.map_some, lies]
        rfl
      next different =>
        refine represents.detached_congr fun builder atOther => ?_
        refine others builder (known_lt _ (.inr ⟨other, atOther⟩)) ?_
        rintro rfl
        exact different (represents.distinct other label builder atOther found)
    · exact fun builder known => Nat.lt_of_lt_of_le (known_lt builder known) keeps.opened
  · refine ⟨keeps.roots, fun builder old unknown => others builder old ?_, rfl, keeps.opened,
      fun _ known => .inl known⟩
    rintro rfl
    exact unknown (.inr ⟨label, found⟩)

/-- A scope opens a child, makes the calls of its body on it, and attaches it. -/
theorem Represents.scope {made : List (Call m κ ε) × Place} {pattern : Pattern}
    (represents : Represents bench place draft)
    (inner : Carried (bench.openNext (draft.builder.child pattern))
      (place.openNext.enter place.opened) made after) :
    Carried bench place
      (.child place.opened place.current pattern ::
          (made.1 ++ [.attach place.current place.opened]), made.2.leave place)
      (after.leave (draft.builder.attach after.builder) draft.detached) := by
  obtain ⟨_, before, _⟩ := represents.openNext (draft.builder.child pattern)
  obtain ⟨middle, runs, represents', keeps⟩ := inner
  -- The body knows nothing but its own builder, so that all older builders lie where they lay.
  have older : ∀ builder, builder < place.opened → middle.builders builder = bench.builders builder := by
    intro builder old
    refine (keeps.others builder (Nat.lt_succ_of_lt old) ?_).trans (before builder (Nat.ne_of_lt old))
    rintro (same | ⟨_, none_⟩)
    · exact absurd same (Nat.ne_of_lt old)
    · cases none_
  have current_lt : place.current < place.opened := represents.known_lt _ (.inl rfl)
  have atCurrent : middle.builders place.current = some draft.builder :=
    (older _ current_lt).trans represents.current
  have atChild : middle.builders place.opened = some after.builder := by
    have current := represents'.current
    rwa [keeps.current] at current
  have steps := Bench.Steps.attach (Nat.ne_of_lt current_lt) atChild atCurrent
  have others : ∀ builder, builder < place.opened → builder ≠ place.current →
      ((middle.lay place.opened none).lay place.current
          (some (draft.builder.attach after.builder))).builders builder =
        bench.builders builder := by
    intro builder old different
    rw [Bench.builders_lay, if_neg different, Bench.builders_lay, if_neg (Nat.ne_of_lt old)]
    exact older builder old
  have grown : place.opened ≤ made.2.opened := Nat.le_of_succ_le keeps.opened
  have body := Bench.run_concat.mpr ⟨middle, runs, steps⟩
  exact ⟨_, Bench.run_cons.mpr ⟨_, represents.steps_child pattern, body⟩,
    represents.turn (if_pos rfl) others represents'.opened represents'.declared represents'.numbered
      grown,
    .turn keeps.roots others grown⟩

end Carried

namespace Declaration

mutual

/-- Making the calls of a step comes to carrying the step out. -/
theorem carried : ∀ (step : Declaration m κ ε ν) {bench : Bench m κ ε} {place : Place}
    {draft : Draft m κ ε ν}, Represents bench place draft →
    Carried bench place (step.calls place) (step.apply draft)
  | .require requirement, _, _, _, represents => represents.provide_silent (.require requirement) rfl
  | .offer source, _, _, _, represents => represents.provide_silent (.offer source) rfl
  | .handle audience body, bench, place, draft, represents => by
    have numbered := represents.numbered
    have provided : Carried bench place _ _ :=
      represents.provide (Provision.countFrom_handle ⟨audience, place.declared, body⟩)
    rw [calls, apply, numbered]
    exact provided
  | .rebind, _, _, _, represents => represents.provide_silent .rebind rfl
  | .map id mapper, _, _, _, represents => represents.provide_silent (.map id mapper) rfl
  | .child pattern body, bench, place, draft, represents => by
    obtain ⟨new, _, opened⟩ := represents.openNext (draft.builder.child pattern)
    exact represents.scope (carriedAll body (opened.enter new (Nat.lt_succ_self _)))
  | .detach label pattern, _, _, _, represents => represents.detach label pattern
  | .edit label body, bench, _, _, represents => by
    rw [calls, apply]
    rcases represents.lookup_detached label with ⟨absent, absent'⟩ | ⟨id, held, found, found', lies⟩
    · rw [absent, absent']
      exact ⟨bench, rfl, represents, .refl _ _⟩
    · rw [found, found']
      have old := represents.known_lt id (.inr ⟨label, found⟩)
      exact represents.edit found (carriedAll body (represents.enter lies old))
  | .attach label, bench, _, _, represents => by
    rw [calls, apply]
    rcases represents.lookup_detached label with ⟨absent, absent'⟩ | ⟨id, held, found, found', lies⟩
    · rw [absent, absent']
      exact ⟨bench, rfl, represents, .refl _ _⟩
    · rw [found, found']
      exact represents.attach found lies
  | .note subject, bench, _, _, represents =>
    ⟨bench, rfl, ⟨represents.current, represents.detached, represents.opened, represents.declared,
      represents.numbered, represents.known_lt, represents.apart, represents.distinct⟩, .refl _ _⟩

theorem carriedAll : ∀ (steps : List (Declaration m κ ε ν)) {bench : Bench m κ ε} {place : Place}
    {draft : Draft m κ ε ν}, Represents bench place draft →
    Carried bench place (callsAll steps place) (applyAll steps draft)
  | [], bench, _, _, represents => ⟨bench, rfl, represents, .refl _ _⟩
  | step :: rest, _, _, _, represents =>
    (carried step represents).append fun _ represents' => carriedAll rest represents'

end

end Declaration

/-! ## Children are attached where they were opened -/

/-- Of the calls so far, those that attach a child do so to the builder it was opened on, and the
detached children of the place were opened on the builder at hand. -/
structure Place.Settled (place : Place) (made : List (Call m κ ε)) : Prop where
  homed : Homed made
  opened : ∀ label id, place.detached.lookup label = some id →
    ∃ pattern, Call.child id place.current pattern ∈ made

section Settled

variable {place : Place} {made : List (Call m κ ε)}

/-- One more call goes with the others if it attaches or registers what they have opened for it. -/
theorem Call.Homed.concat (homed : Homed made) (call : Call m κ ε)
    (attached : ∀ parent held, call = .attach parent held →
      ∃ pattern, Call.child held parent pattern ∈ made)
    (registered : ∀ id, call = .register id → ∃ name, Call.root id name ∈ made) :
    Homed (made ++ [call]) where
  attached := by
    intro parent held member
    have found : ∃ pattern, Call.child held parent pattern ∈ made := by
      rcases List.mem_append.mp member with earlier | last
      · exact homed.attached parent held earlier
      · exact attached parent held (List.mem_singleton.mp last).symm
    obtain ⟨pattern, opened⟩ := found
    exact ⟨pattern, List.mem_append_left _ opened⟩
  registered := by
    intro id member
    have found : ∃ name, Call.root id name ∈ made := by
      rcases List.mem_append.mp member with earlier | last
      · exact homed.registered id earlier
      · exact registered id (List.mem_singleton.mp last).symm
    obtain ⟨name, opened⟩ := found
    exact ⟨name, List.mem_append_left _ opened⟩

theorem Place.Settled.more (settled : place.Settled made) {more : List (Call m κ ε)}
    (homed : Homed (made ++ more)) : place.Settled (made ++ more) where
  homed := homed
  opened := by
    intro label id found
    obtain ⟨pattern, opened⟩ := settled.opened label id found
    exact ⟨pattern, List.mem_append_left _ opened⟩

theorem Place.Settled.provide (settled : place.Settled made) (id : Nat)
    (provision : Provision m κ ε) : place.Settled (made ++ [.provide id provision]) :=
  settled.more (settled.homed.concat _ (fun _ _ same => nomatch same) fun _ same => nomatch same)

theorem Call.Homed.child (homed : Homed made) (id parent : Nat) (pattern : Pattern) :
    Homed (made ++ [.child id parent pattern]) :=
  homed.concat _ (fun _ _ same => nomatch same) fun _ same => nomatch same

theorem Call.Homed.attach {parent held : Nat} {pattern : Pattern} (homed : Homed made)
    (opened : Call.child held parent pattern ∈ made) : Homed (made ++ [.attach parent held]) := by
  refine homed.concat _ ?_ fun _ same => nomatch same
  rintro _ _ ⟨⟩
  exact ⟨pattern, opened⟩

theorem Place.settled_enter (homed : Homed made) (place : Place) (id : Nat) :
    (place.enter id).Settled made :=
  ⟨homed, fun _ _ found => nomatch found⟩

theorem Place.Settled.detach (settled : place.Settled made) (label : String) (pattern : Pattern) :
    Place.Settled
      { place.openNext with detached := Assoc.put label place.opened place.detached }
      (made ++ [.child place.opened place.current pattern]) := by
  have opens := settled.homed.child place.opened place.current pattern
  refine ⟨opens, fun other id found => ?_⟩
  replace found : (Assoc.put label place.opened place.detached).lookup other = some id := found
  rw [Assoc.lookup_put] at found
  split at found
  next =>
    cases found
    exact ⟨pattern, List.mem_append_right _ List.mem_cons_self⟩
  next => exact (settled.more opens).opened other id found

theorem Place.Settled.attach {label : String} {held : Nat} (settled : place.Settled made)
    (found : place.detached.lookup label = some held) :
    Place.Settled { place with detached := Assoc.erase label place.detached }
      (made ++ [.attach place.current held]) := by
  obtain ⟨pattern, opened⟩ := settled.opened label held found
  have homed := settled.homed.attach opened
  refine ⟨homed, fun other id kept => ?_⟩
  exact (settled.more homed).opened other id (Place.lookup_forget kept).1

/-- A scope attaches the child that it has opened. -/
theorem Place.Settled.scope {body : List (Call m κ ε)} {inner : Place} {pattern : Pattern}
    (settled : place.Settled made)
    (within : inner.Settled (made ++ [.child place.opened place.current pattern] ++ body)) :
    (inner.leave place).Settled
      (made ++ (.child place.opened place.current pattern ::
        (body ++ [.attach place.current place.opened]))) := by
  have opened : Call.child place.opened place.current pattern ∈
      made ++ [.child place.opened place.current pattern] ++ body := by simp
  have homed := within.homed.attach opened
  have order : made ++ [.child place.opened place.current pattern] ++ body ++
      [.attach place.current place.opened] =
        made ++ (.child place.opened place.current pattern ::
          (body ++ [.attach place.current place.opened])) := by simp
  rw [order] at homed
  exact ⟨homed, (settled.more homed).opened⟩

end Settled

namespace Declaration

mutual

/-- The calls of a step attach children to the builders they were opened on. -/
theorem settled : ∀ (step : Declaration m κ ε ν) {place : Place} {made : List (Call m κ ε)},
    place.Settled made → (step.calls place).2.Settled (made ++ (step.calls place).1)
  | .require _, _, _, settled => settled.provide _ _
  | .offer _, _, _, settled => settled.provide _ _
  | .handle _ _, _, _, settled => ⟨(settled.provide _ _).homed, (settled.provide _ _).opened⟩
  | .rebind, _, _, settled => settled.provide _ _
  | .map _ _, _, _, settled => settled.provide _ _
  | .child pattern body, place, _, settled => by
    have opens := settled.homed.child place.opened place.current pattern
    exact settled.scope (settledAll body (Place.settled_enter opens place.openNext place.opened))
  | .detach label pattern, _, _, settled => settled.detach label pattern
  | .edit label body, place, made, settled => by
    rw [calls]
    cases found : place.detached.lookup label with
    | none => exact (List.append_nil made).symm ▸ settled
    | some held =>
      have inner := settledAll body (Place.settled_enter settled.homed place held)
      exact ⟨inner.homed, (settled.more inner.homed).opened⟩
  | .attach label, place, made, settled => by
    rw [calls]
    cases found : place.detached.lookup label with
    | none => exact (List.append_nil made).symm ▸ settled
    | some held => exact settled.attach found
  | .note _, _, made, settled => (List.append_nil made).symm ▸ settled

theorem settledAll : ∀ (steps : List (Declaration m κ ε ν)) {place : Place}
    {made : List (Call m κ ε)}, place.Settled made →
    (callsAll steps place).2.Settled (made ++ (callsAll steps place).1)
  | [], _, made, settled => (List.append_nil made).symm ▸ settled
  | step :: rest, place, made, settled => by
    have others := settledAll rest (Declaration.settled step settled)
    rw [callsAll]
    exact List.append_assoc made _ _ ▸ others

end

end Declaration

/-! ## Declared grammars -/

namespace Bench

variable {bench : Bench m κ ε} {calls : List (Call m κ ε)}

theorem represents_root (bench : Bench m κ ε) (name : String) :
    Represents (bench.openNext (.root name)) bench.rootPlace
      ({ builder := .root name, detached := [], declared := bench.declared, notes := [] } :
        Draft m κ ε ν) where
  current := if_pos rfl
  detached := fun _ => rfl
  opened := rfl
  declared := rfl
  numbered := rfl
  known_lt := by
    rintro id (rfl | ⟨_, found⟩)
    · exact Nat.lt_succ_self _
    · cases found
  apart := fun _ found => nomatch found
  distinct := fun _ _ _ found => nomatch found

/-- Making the calls of a command comes to declaring it. -/
theorem run_script (bench : Bench m κ ε) (name : String) (body : List (Declaration m κ ε ν)) :
    ∃ next, bench.run (bench.script name body) = some next ∧
      next.grammar = bench.grammar.declare name body := by
  obtain ⟨after, made, represents, keeps⟩ :=
    Declaration.carriedAll body (bench.represents_root name)
  have atRoot := represents.current
  rw [keeps.current] at atRoot
  have registers := Bench.Steps.register atRoot
  refine ⟨_, run_cons.mpr ⟨_, .root, run_concat.mpr ⟨after, made, registers⟩⟩, ?_⟩
  have roots : after.roots = bench.roots := keeps.roots
  have declared : after.declared = _ := represents.declared.trans represents.numbered.symm
  show Grammar.mk (after.roots ++ [_]) after.declared = _
  rw [roots, declared]
  rfl

/-- The calls of a command attach its children to the builders that they were opened on. -/
theorem homed_script (homed : Homed calls) (bench : Bench m κ ε) (name : String)
    (body : List (Declaration m κ ε ν)) : Homed (calls ++ bench.script name body) := by
  have opens := homed.concat (.root bench.opened name) (fun _ _ same => nomatch same)
    fun _ same => nomatch same
  have begins : bench.rootPlace.Settled (calls ++ [.root bench.opened name]) :=
    ⟨opens, fun _ _ found => nomatch found⟩
  have inner := Declaration.settledAll body begins
  have registers := inner.homed.concat (.register bench.opened) (fun _ _ same => nomatch same) <| by
    rintro _ ⟨⟩
    exact ⟨name, by simp⟩
  have order : calls ++ bench.script name body = calls ++ [.root bench.opened name] ++
      (Declaration.callsAll body bench.rootPlace).1 ++ [.register bench.opened] := by
    simp [script]
  rw [order]
  exact registers

end Bench

/-- The grammar is what some calls make, all of whose children are attached where they were opened. -/
def Grammar.Made (grammar : Grammar m κ ε) : Prop :=
  ∃ calls bench, Bench.empty.run calls = some bench ∧ Homed calls ∧ bench.grammar = grammar

namespace Grammar

variable {grammar : Grammar m κ ε}

theorem made_empty : (Grammar.empty : Grammar m κ ε).Made := by
  refine ⟨[], .empty, rfl, ⟨?_, ?_⟩, rfl⟩
  · exact fun _ _ none_ => nomatch none_
  · exact fun _ none_ => nomatch none_

/-- Declaring a command makes its calls. -/
theorem Made.declare (made : grammar.Made) (name : String) (body : List (Declaration m κ ε ν)) :
    (grammar.declare name body).Made := by
  obtain ⟨calls, bench, runs, homed, rfl⟩ := made
  obtain ⟨next, script, same⟩ := bench.run_script name body
  exact ⟨_, next, Bench.run_append.mpr ⟨bench, runs, script⟩, Bench.homed_script homed bench name body,
    same⟩

theorem Made.command (made : grammar.Made) (name : String) (aliases : List String)
    (body : List (Declaration m κ ε ν)) : (grammar.command name aliases body).Made := by
  unfold Grammar.command
  induction name :: aliases generalizing grammar with
  | nil => exact made
  | cons label rest ih => exact ih (made.declare label body)

theorem Made.declareAll (made : grammar.Made)
    (commands : List (String × List (Declaration m κ ε ν))) :
    (commands.foldl (fun grammar command => grammar.declare command.1 command.2) grammar).Made := by
  induction commands generalizing grammar with
  | nil => exact made
  | cons command rest ih => exact ih (made.declare command.1 command.2)

end Grammar

/-- The demonstration grammar is made by calls, for any roster. -/
theorem Shell.made_grammar (roster : Roster) (showIdentity : Nat → String) :
    (Shell.grammar roster showIdentity).Made :=
  (Grammar.made_empty.command _ _ _).declareAll _

end CommandGrammar
