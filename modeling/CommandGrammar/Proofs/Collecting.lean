import CommandGrammar.Completion.Collection
import CommandGrammar.Proofs.Taking
import Mathlib.Data.List.Perm.Basic

/-!
# Collecting answers in any order

What an answer comes to is settled when it is asked for, whenever its task ends: some offers, or none
where the scheduler has stopped or the task breaks off (`Pending.Comes`). The collector has at all times
found what the answers that were taken come to (`Collection.Sound`). One event keeps that, and so does a
whole schedule; an answer that has become known stays known. So a collector that has taken all answers
has found the offers of all of them, in ascending order and each once, and a collector takes all of them
once the tasks have ended (`delivers_of_comes`).

Nothing is asked of the effects that tasks have, on each other or on anything else, as long as each of
them comes to what it comes to.
-/

set_option autoImplicit false

namespace CommandGrammar

variable {m : Type → Type} {α β γ : Type}

/-- What visits come to, one after the other, is what each of them comes to. -/
theorem Yields.mapM [Monad m] [LawfulMonad m] {good : γ → β → Prop} {visit : α → m β}
    {members : List α} {values : List γ}
    (gives : List.Forall₂ (fun member value => Yields (good value) (visit member)) members values) :
    Yields (List.Forall₂ good values) (members.mapM visit) := by
  induction gives with
  | nil => exact .pure_ .nil
  | cons first _ ih =>
    rw [List.mapM_cons]
    exact first.bind fun _ here => ih.bind fun _ after => .pure_ (.cons here after)

namespace Completion

/-- The texts that answers come to, in ascending order, each once. An answer that is lost comes to
nothing. -/
def offered (values : List (Option (List String))) : List String :=
  Ascending.ofList (values.flatMap (·.getD []))

/-- A text is among the offered ones when one of the answers that come to anything has it. -/
theorem mem_offered {values : List (Option (List String))} {text : String} :
    text ∈ offered values ↔ ∃ offers, some offers ∈ values ∧ text ∈ offers := by
  rw [offered, Ascending.mem_ofList, List.mem_flatMap]
  constructor
  · rintro ⟨value, member, listed⟩
    cases value with
    | none => exact absurd listed List.not_mem_nil
    | some offers => exact ⟨offers, member, listed⟩
  · rintro ⟨offers, member, listed⟩
    exact ⟨some offers, member, listed⟩

/-- The offered texts are a list of their own kind. -/
theorem pairwise_offered (values : List (Option (List String))) :
    (offered values).Pairwise (· < ·) :=
  Ascending.pairwise_ofList _

/-- The order of the answers does not matter. -/
theorem offered_perm {values values' : List (Option (List String))} (perm : values.Perm values') :
    offered values = offered values' :=
  Ascending.eq_of_mem_iff (pairwise_offered _) (pairwise_offered _) fun text => by
    simp only [mem_offered, perm.mem_iff]

/-- One more answer adds what it comes to. -/
theorem offered_concat (values : List (Option (List String))) (value : Option (List String)) :
    Ascending.insertAll (value.getD []) (offered values) = offered (values ++ [value]) := by
  refine Ascending.eq_of_mem_iff (Ascending.pairwise_insertAll (pairwise_offered _) _)
    (pairwise_offered _) fun text => ?_
  rw [Ascending.mem_insertAll, offered, offered, Ascending.mem_ofList, Ascending.mem_ofList,
    List.flatMap_append, List.mem_append, List.flatMap_singleton, or_comm]

variable [Monad m]

/-- An answer comes to some offers, or to none at all. -/
def Pending.Comes (value : Option (List String)) : Pending m → Prop
  | .ready offers => value = some offers
  | .waiting work => Yields (· = value) work.run
  | .lost => value = none

/-- What is known of an answer is what it comes to. -/
theorem Pending.Comes.offers {value : Option (List String)} {answer : Pending m}
    (comes : answer.Comes value) {offers : List String} (known : answer.offers? = some offers) :
    offers = value.getD [] := by
  cases answer with
  | waiting work => cases known
  | ready found =>
    cases known
    rw [show value = some _ from comes]
    rfl
  | lost =>
    cases known
    rw [show value = none from comes]
    rfl

namespace Collection

/-- Whatever has been taken comes to what has been found. -/
structure Sound (values : List (Option (List String))) (collection : Collection m) : Prop where
  answers : List.Forall₂ Pending.Comes values collection.answers
  taken_le : collection.taken ≤ values.length
  found : collection.found = offered (values.take collection.taken)

/-- The answer at a position is known, if there is one. -/
def Known (collection : Collection m) (position : Nat) : Prop :=
  ∀ answer, collection.answers[position]? = some answer → answer.offers?.isSome = true

variable {values : List (Option (List String))} {collection : Collection m}

/-- To begin with nothing is found. -/
theorem sound_start {answers : List (Pending m)} (comes : List.Forall₂ Pending.Comes values answers) :
    Sound values (start answers) where
  answers := comes
  taken_le := Nat.zero_le _
  found := rfl

/-- When the next answer is known it is taken, and what it comes to is found. -/
theorem take_of_known (sound : Sound values collection) (known : collection.Known collection.taken)
    (more : collection.taken < values.length) :
    collection.take =
      { collection with
        taken := collection.taken + 1
        found := offered (values.take (collection.taken + 1)) } := by
  have inside : collection.taken < collection.answers.length := sound.answers.length_eq ▸ more
  obtain ⟨offers, offers_⟩ := Option.isSome_iff_exists.mp (known _ (List.getElem?_eq_getElem inside))
  have comes : (collection.answers[collection.taken]).Comes values[collection.taken] :=
    (List.forall₂_iff_get.mp sound.answers).2 _ more inside
  rw [take, List.getElem?_eq_getElem inside, Option.bind_some, offers_]
  dsimp only
  rw [comes.offers offers_, sound.found, offered_concat, List.take_append_getElem more]

omit [Monad m] in
/-- When it is not known nothing is taken. -/
theorem take_eq_self (unknown : collection.answers[collection.taken]?.bind Pending.offers? = none) :
    collection.take = collection := by
  rw [take, unknown]

/-- Taking an answer, or none, keeps what has been found right. -/
theorem Sound.take (sound : Sound values collection) : Sound values collection.take := by
  cases next : collection.answers[collection.taken]?.bind Pending.offers? with
  | none =>
    rw [take_eq_self next]
    exact sound
  | some offers =>
    obtain ⟨answer, at_, offers_⟩ := Option.bind_eq_some_iff.mp next
    have more : collection.taken < values.length := by
      rw [sound.answers.length_eq]
      exact (List.getElem?_eq_some_iff.mp at_).1
    have known : collection.Known collection.taken := fun other same => by
      rw [at_] at same
      cases same
      rw [offers_]
      rfl
    rw [take_of_known sound known more]
    exact ⟨sound.answers, more, rfl⟩

omit [Monad m] in
/-- Taking leaves the answers as they are. -/
theorem answers_take : collection.take.answers = collection.answers := by
  unfold take
  split <;> rfl

variable [LawfulMonad m]

/-- A task that has ended leaves an answer that is known, and comes to the same. -/
theorem settle_gives {value : Option (List String)} {answer : Pending m}
    (comes : answer.Comes value) :
    Yields (fun settled => settled.Comes value ∧ settled.offers?.isSome = true) answer.settle := by
  cases answer with
  | ready offers => exact .pure_ ⟨comes, rfl⟩
  | lost => exact .pure_ ⟨comes, rfl⟩
  | waiting work =>
    have runs : Yields (· = value) work.run := comes
    refine runs.bind fun found same => ?_
    subst same
    cases found with
    | none => exact .pure_ ⟨rfl, rfl⟩
    | some offers => exact .pure_ ⟨rfl, rfl⟩

/-- What an event keeps: what has been found is right, and what is known stays so. -/
structure Step (values : List (Option (List String))) (before : Collection m) (ended : List Nat)
    (after : Collection m) : Prop where
  sound : Sound values after
  known : ∀ position, before.Known position ∨ position ∈ ended → after.Known position

/-- The task of one answer ends. -/
theorem settle_step (sound : Sound values collection) (position : Nat) :
    Yields (Step values collection [position]) (collection.settle position) := by
  unfold settle
  split
  next answer at_ =>
    obtain ⟨inside, here⟩ := List.getElem?_eq_some_iff.mp at_
    have inside' : position < values.length := sound.answers.length_eq ▸ inside
    have comes : answer.Comes values[position] :=
      here ▸ (List.forall₂_iff_get.mp sound.answers).2 _ inside' inside
    refine (settle_gives comes).bind fun settled ⟨comes', known⟩ => .pure_ ?_
    refine ⟨⟨?_, sound.taken_le, sound.found⟩, ?_⟩
    · refine List.forall₂_iff_get.mpr ⟨?_, fun other inValues inAnswers => ?_⟩
      · rw [List.length_set, sound.answers.length_eq]
      · by_cases same : position = other
        · subst same
          simpa using comes'
        · have inAnswers' : other < collection.answers.length :=
            sound.answers.length_eq ▸ inValues
          have still := (List.forall₂_iff_get.mp sound.answers).2 other inValues inAnswers'
          simpa [List.getElem_set_ne same] using still
    · intro other before answer' at_'
      by_cases same : position = other
      · subst same
        rw [List.getElem?_set_self inside] at at_'
        cases at_'
        exact known
      · rw [List.getElem?_set_ne same] at at_'
        rcases before with held | ended
        · exact held answer' at_'
        · exact absurd (List.mem_singleton.mp ended).symm same
  next outside =>
    refine .pure_ ⟨sound, fun other before => ?_⟩
    rcases before with held | ended
    · exact held
    · intro answer at_
      rw [List.mem_singleton.mp ended, outside] at at_
      cases at_

/-- The tasks that end in a schedule, by the positions of their answers. -/
def ended (schedule : List Event) : List Nat :=
  schedule.filterMap fun event =>
    match event with
    | .ends position => some position
    | .takes => none

/-- Any event keeps what has been found right. -/
theorem step_gives (sound : Sound values collection) (event : Event) :
    Yields (Step values collection (ended [event])) (collection.step event) := by
  cases event with
  | ends position => exact settle_step sound position
  | takes =>
    refine .pure_ ⟨sound.take, fun position before => ?_⟩
    rcases before with held | none_
    · intro answer at_
      rw [answers_take] at at_
      exact held answer at_
    · exact absurd none_ List.not_mem_nil

/-- So does a schedule, and when a task has ended in it its answer is known. -/
theorem run_gives (schedule : List Event) (sound : Sound values collection) :
    Yields (Step values collection (ended schedule)) (collection.run schedule) := by
  induction schedule generalizing collection with
  | nil => exact .pure_ ⟨sound, fun position before => before.elim id fun none_ => nomatch none_⟩
  | cons event rest ih =>
    have split_ : ended (event :: rest) = ended [event] ++ ended rest :=
      List.filterMap_append (l := [event])
    rw [run, List.foldlM_cons]
    refine (step_gives sound event).bind fun middle first => (ih first.sound).imp fun after later => ?_
    refine ⟨later.sound, fun position before => later.known position ?_⟩
    rw [split_, List.mem_append] at before
    rcases before with held | now | then_
    · exact .inl (first.known position (.inl held))
    · exact .inl (first.known position (.inr now))
    · exact .inr then_

/-- Where all answers are known, looking for the next one often enough takes all of them. -/
theorem run_takes (count : Nat) (sound : Sound values collection)
    (known : ∀ position, collection.Known position)
    (enough : values.length ≤ collection.taken + count) :
    Yields (fun after => Sound values after ∧ after.taken = values.length)
      (collection.run (List.replicate count .takes)) := by
  induction count generalizing collection with
  | zero => exact .pure_ ⟨sound, Nat.le_antisymm sound.taken_le enough⟩
  | succ count ih =>
    rw [List.replicate_succ, run, List.foldlM_cons]
    show Yields _ (pure collection.take >>= fun after => after.run (List.replicate count .takes))
    rw [pure_bind]
    refine ih sound.take (fun position answer at_ => ?_) ?_
    · rw [answers_take] at at_
      exact known position answer at_
    · by_cases more : collection.taken < values.length
      · rw [take_of_known sound (known _) more]
        show values.length ≤ collection.taken + 1 + count
        omega
      · have all : collection.taken = values.length :=
          Nat.le_antisymm sound.taken_le (Nat.not_lt.mp more)
        have none_ : collection.answers[collection.taken]? = none :=
          List.getElem?_eq_none (Nat.le_of_eq (sound.answers.length_eq.symm.trans all.symm))
        rw [take_eq_self (by rw [none_]; rfl), all]
        exact Nat.le_add_right _ _

end Collection

/-! ## One list, whatever the order -/

/-- Collecting some answers gives one list. -/
structure Delivers (answers : List (Pending m)) (list : List String) : Prop where
  /-- In whatever order the tasks end, and whenever the collector looks: what it has when it has taken
  all answers is the list. -/
  only : ∀ schedule,
    Yields (fun collection => collection.isDone = true → collection.found = list)
      ((Collection.start answers).run schedule)
  /-- When all tasks have ended, in any order, the collector takes all answers. -/
  eventually : ∀ schedule,
    (∀ position work, answers[position]? = some (.waiting work) → .ends position ∈ schedule) →
    Yields (fun collection => collection.isDone = true ∧ collection.found = list)
      ((Collection.start answers).run (schedule ++ List.replicate answers.length .takes))
  /-- Waiting for them in the order of their delays gives the list. -/
  collects : Yields (· = list) (collect answers)

variable [LawfulMonad m] {values : List (Option (List String))} {answers : List (Pending m)}

omit [LawfulMonad m] in
/-- What answers come to is what those that need no waiting offer, and what the work of the others comes
to. -/
theorem exists_late (comes : List.Forall₂ Pending.Comes values answers) :
    ∃ late : List (Option (List String)),
      List.Forall₂ (fun (work : Job m (Option (List String))) value => Yields (· = value) work.run)
        (answers.filterMap Pending.work?) late ∧
      ∀ text, text ∈ values.flatMap (·.getD []) ↔
        text ∈ answers.flatMap Pending.readyOffers ∨ text ∈ late.flatMap (·.getD []) := by
  induction comes with
  | nil => exact ⟨[], .nil, by simp⟩
  | @cons value answer _ rest first _ ih =>
    obtain ⟨late, runs, mem_iff⟩ := ih
    cases answer with
    | ready offers =>
      refine ⟨late, runs, fun text => ?_⟩
      rw [show value = some offers from first]
      simp [mem_iff, Pending.readyOffers, or_assoc]
    | waiting work =>
      refine ⟨value :: late, .cons first runs, fun text => ?_⟩
      simp [mem_iff, Pending.readyOffers, or_left_comm]
    | lost =>
      refine ⟨late, runs, fun text => ?_⟩
      rw [show value = none from first]
      simp [mem_iff, Pending.readyOffers]

/-- Waiting for the answers in the order of their delays gives what they come to. -/
theorem collect_gives (comes : List.Forall₂ Pending.Comes values answers) :
    Yields (· = offered values) (collect answers) := by
  obtain ⟨late, runs, mem_iff⟩ := exists_late comes
  obtain ⟨late', runs', perm⟩ := List.perm_comp_forall₂ (List.mergeSort_perm _ _) runs
  refine (Yields.mapM runs').bind fun found same => .pure_ ?_
  have same' : found = late' := List.forall₂_eq_eq_eq ▸ same.flip
  refine Ascending.eq_of_mem_iff (Ascending.pairwise_ofList _) (pairwise_offered _) fun text => ?_
  rw [Ascending.mem_ofList, offered, Ascending.mem_ofList, mem_iff, List.mem_append, same',
    (perm.flatMap_right _).mem_iff]

/-- Answers that come to something deliver it, in one list. -/
theorem delivers_of_comes (comes : List.Forall₂ Pending.Comes values answers) :
    Delivers answers (offered values) where
  only := by
    intro schedule
    refine (Collection.run_gives schedule (Collection.sound_start comes)).imp fun after step done => ?_
    have all : values.length ≤ after.taken := by
      rw [step.sound.answers.length_eq]
      exact of_decide_eq_true done
    rw [step.sound.found, List.take_of_length_le all]
  eventually := by
    intro schedule ends
    rw [Collection.run, List.foldlM_append]
    refine (Collection.run_gives schedule (Collection.sound_start comes)).bind fun middle step => ?_
    have known : ∀ position, middle.Known position := by
      intro position
      refine step.known position ?_
      cases at_ : answers[position]? with
      | none =>
        refine .inl fun answer found => ?_
        rw [show answers[position]? = some answer from found] at at_
        cases at_
      | some pending =>
        cases pending with
        | waiting work =>
          exact .inr (List.mem_filterMap.mpr ⟨_, ends position work at_, rfl⟩)
        | ready offers | lost =>
          refine .inl fun answer found => ?_
          rw [show answers[position]? = some answer from found] at at_
          cases at_
          rfl
    have enough : values.length ≤ middle.taken + answers.length := by
      rw [comes.length_eq]
      exact Nat.le_add_left _ _
    refine (Collection.run_takes answers.length step.sound known enough).imp ?_
    rintro after ⟨sound, taken⟩
    refine ⟨decide_eq_true (Nat.le_of_eq (sound.answers.length_eq.symm.trans taken.symm)), ?_⟩
    rw [sound.found, taken, List.take_length]
  collects := collect_gives comes

end Completion

end CommandGrammar
