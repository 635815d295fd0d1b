import CommandGrammar.Collection.Ascending
import CommandGrammar.Grammar.Registration
import CommandGrammar.Proofs.Asking
import CommandGrammar.Proofs.Refusal

/-!
# Later commands leave lines alone

A command that is registered later stands behind those that are there (`Grammar.prefix_performAll`), and
so the paths that a line has then begin with the ones it had before (`tries_mono`). Whatever is read off
these paths from the left is kept: the first full path, and with it the node that the line selects and
its arguments; of the failures that are kept the place, unless one lies deeper; and the nodes that are
asked for completions, which are asked before the new ones.

For what a completion comes to the sources must be functions of what they are asked
(`Completion.Source.Functional`). It is then a function of the nodes that are asked, and grows with them.
-/

set_option autoImplicit false

namespace CommandGrammar

open Text

variable {m : Type → Type} {κ ε ν : Type}

/-! ## What registering adds -/

namespace Grammar

variable (grammar : Grammar m κ ε)

/-- A root is put behind the others. -/
theorem prefix_register (draft : Draft m κ ε ν) : grammar.roots <+: (grammar.register draft).roots :=
  List.prefix_append _ _

/-- Several are put there one after the other. -/
theorem prefix_registerAll (drafts : List (Draft m κ ε ν)) :
    grammar.roots <+: (grammar.registerAll drafts).roots := by
  unfold registerAll
  induction drafts generalizing grammar with
  | nil => exact List.prefix_refl _
  | cons draft rest ih => exact (grammar.prefix_register draft).trans (ih (grammar.register draft))

/-- So are the roots of a command and its aliases. -/
theorem prefix_command (name : String) (aliases : List String) (body : List (Declaration m κ ε ν)) :
    grammar.roots <+: (grammar.command name aliases body).roots := by
  unfold command
  induction name :: aliases generalizing grammar with
  | nil => exact List.prefix_refl _
  | cons label rest ih =>
    exact (grammar.prefix_register (grammar.draft label body)).trans (ih (grammar.declare label body))

/-- Whatever calls are made, the roots stay where they are. -/
theorem prefix_performAll (calls : List (Registration m κ ε ν)) :
    grammar.roots <+: (grammar.performAll calls).roots := by
  unfold performAll
  induction calls generalizing grammar with
  | nil => exact List.prefix_refl _
  | cons call rest ih =>
    have step : grammar.roots <+: (grammar.perform call).roots := by
      cases call with
      | register draft => exact grammar.prefix_register draft
      | registerAll drafts => exact grammar.prefix_registerAll drafts
      | command name aliases body => exact grammar.prefix_command name aliases body
    exact step.trans (ih (grammar.perform call))

end Grammar

/-! ## The paths, and what is read off them -/

/-- The tries of a forest begin with those of any beginning of it. -/
theorem tries_mono (line : List Char) (usable : Clause m κ ε → Bool) {nodes all : List (Node m κ ε)}
    (begins : nodes <+: all) (start : Nat) :
    tries line usable nodes start <+: tries line usable all start := by
  obtain ⟨more, rfl⟩ := begins
  induction nodes with
  | nil =>
    rw [tries]
    exact List.nil_prefix
  | cons node rest ih =>
    rw [List.cons_append, tries, tries]
    exact (List.prefix_append_right_inj _).mpr (ih.map Path.later)

/-- The clauses of a forest hold those of any beginning of it. -/
theorem Node.allClauses_mono {nodes all : List (Node m κ ε)} (begins : nodes <+: all) :
    Node.allClauses nodes ⊆ Node.allClauses all := by
  obtain ⟨more, rfl⟩ := begins
  induction nodes with
  | nil => exact List.nil_subset _
  | cons node rest ih =>
    rw [List.cons_append, Node.allClauses, Node.allClauses]
    exact List.append_subset.mpr
      ⟨List.subset_append_left _ _, List.Subset.trans ih (List.subset_append_right _ _)⟩

namespace Search

variable {line : List Char} {paths all : List (Path m κ ε)} {trail : Trail}

/-- What the beginning of a list of tries selects is what the list selects, by the same path. -/
theorem ofTries_found_mono {node : Node m κ ε} {arguments : Bindings} (begins : paths <+: all)
    (found : ofTries line trail paths = .found node arguments) :
    ofTries line trail all = .found node arguments ∧
      ∃ path, paths.find? (Path.endsLine line) = some path ∧
        all.find? (Path.endsLine line) = some path ∧ path.last.node = node := by
  obtain ⟨others, rfl⟩ := begins
  unfold ofTries at found ⊢
  cases first : paths.find? (Path.endsLine line) with
  | none =>
    rw [first] at found
    cases found
  | some path =>
    rw [first] at found
    have still : (paths ++ others).find? (Path.endsLine line) = some path := by
      rw [List.find?_append, first, Option.some_or]
    rw [still]
    cases found
    exact ⟨rfl, path, rfl, rfl, rfl⟩

/-- Where the whole list selects nothing, its deepest failure lies no less deep than that of its
beginning, and is the same unless it lies deeper. -/
theorem ofTries_missed_mono {failure : Failure} {deepest : Option Failure} (begins : paths <+: all)
    (before : ofTries line trail paths = .missed (some failure))
    (after : ofTries line trail all = .missed deepest) :
    ∃ kept, deepest = some kept ∧ failure.position ≤ kept.position ∧
      (kept.position = failure.position → kept = failure) := by
  obtain ⟨others, rfl⟩ := begins
  unfold ofTries at before after
  split at before
  next => cases before
  next =>
    split at after
    next => cases after
    next =>
      have kept := Search.missed.inj before
      rw [List.filterMap_append, List.foldl_append, kept] at after
      rw [← Search.missed.inj after]
      exact Failure.foldl_deeper_of_some failure _

end Search

/-! ## What sources offer that are functions -/

namespace Completion

/-- What the source offers depends on nothing but what it is asked: asking it, and the work it leaves, do
nothing. -/
def Source.Functional [Monad m] : Source m κ ε → Prop
  | .immediate offer => ∀ query, ∃ texts, offer query = pure texts
  | .deferred _ work => ∀ query, ∃ found, (work query).run = pure found

/-- The answer comes to these texts. -/
def Pending.Gives [Monad m] : Pending m → List String → Prop
  | .ready offers, texts => texts = offers
  | .waiting work, texts => ∃ found, work.run = pure found ∧ texts = found.getD []
  | .lost, texts => texts = []

/-- The work that is awaited is the work of the answers. -/
theorem mem_awaited_iff {answers : List (Pending m)} {work : Job m (Option (List String))} :
    work ∈ byDelay (answers.filterMap Pending.work?) ↔ .waiting work ∈ answers := by
  rw [byDelay, List.mem_mergeSort, List.mem_filterMap]
  constructor
  · rintro ⟨answer, member, same⟩
    cases answer with
    | waiting held =>
      cases same
      exact member
    | ready offers => cases same
    | lost => cases same
  · exact fun member => ⟨_, member, rfl⟩

variable [Monad m] [LawfulMonad m]

/-- Visits that do nothing give their values. -/
theorem mapM_eq_pure {α β : Type} {visit : β → m α} {value : β → α} {members : List β}
    (gives : ∀ member ∈ members, visit member = pure (value member)) :
    members.mapM visit = pure (members.map value) := by
  induction members with
  | nil => rfl
  | cons member rest ih =>
    rw [List.mapM_cons, gives member List.mem_cons_self, pure_bind,
      ih fun other behind => gives other (List.mem_cons_of_mem _ behind), pure_bind, List.map_cons]

/-- A source that is a function is asked without effect, and its answer comes to some texts. -/
theorem Source.Functional.ask {source : Source m κ ε} (functional : source.Functional)
    (query : Query m κ ε) : ∃ answer, source.ask query = pure answer ∧ ∃ texts, answer.Gives texts := by
  cases source with
  | immediate offer =>
    obtain ⟨texts, offers⟩ := functional query
    exact ⟨.ready texts, by rw [Source.ask, offers, pure_bind], texts, rfl⟩
  | deferred scheduler work =>
    cases scheduler with
    | running =>
      obtain ⟨found, runs⟩ := functional query
      exact ⟨.waiting (work query), rfl, found.getD [], found, runs, rfl⟩
    | stopped => exact ⟨.lost, rfl, [], rfl⟩

/-- Collecting answers gives the texts that each of them comes to. -/
theorem collect_eq_pure {answers : List (Pending m)} {texts : Pending m → List String}
    (gives : ∀ answer ∈ answers, answer.Gives (texts answer)) :
    ∃ collected, collect answers = pure collected ∧
      ∀ text, text ∈ collected ↔ ∃ answer ∈ answers, text ∈ texts answer := by
  -- Of each piece of work that is awaited, what it finds.
  have finds : ∀ work : Job m (Option (List String)), ∃ found, .waiting work ∈ answers →
      work.run = pure found ∧ texts (.waiting work) = found.getD [] := by
    intro work
    by_cases member : .waiting work ∈ answers
    · obtain ⟨found, runs, same⟩ := gives _ member
      exact ⟨found, fun _ => ⟨runs, same⟩⟩
    · exact ⟨none, fun listed => absurd listed member⟩
  choose found finds using finds
  have late : (byDelay (answers.filterMap Pending.work?)).mapM (fun work => work.run) = pure _ :=
    mapM_eq_pure fun work member => (finds work (mem_awaited_iff.mp member)).1
  refine ⟨_, by rw [collect, late, pure_bind], fun text => ?_⟩
  rw [Ascending.mem_ofList, List.mem_append, List.mem_flatMap, List.flatMap_map, List.mem_flatMap]
  constructor
  · rintro (⟨answer, member, offered⟩ | ⟨work, awaited, offered⟩)
    · refine ⟨answer, member, ?_⟩
      have same := gives answer member
      cases answer with
      | ready offers =>
        rw [show texts (.ready offers) = offers from same]
        exact offered
      | waiting work => cases offered
      | lost => cases offered
    · have member := mem_awaited_iff.mp awaited
      exact ⟨_, member, (finds work member).2 ▸ offered⟩
  · rintro ⟨answer, member, offered⟩
    have same := gives answer member
    cases answer with
    | ready offers => exact .inl ⟨_, member, same ▸ offered⟩
    | waiting work =>
      exact .inr ⟨work, mem_awaited_iff.mpr member, (finds work member).2 ▸ offered⟩
    | lost =>
      rw [show texts .lost = [] from same] at offered
      cases offered

end Completion

/-- The completion sources of a forest are functions of what they are asked. -/
def Node.SourcesFunctional [Monad m] (nodes : List (Node m κ ε)) : Prop :=
  ∀ clause ∈ Node.allClauses nodes, ∀ source, clause.source = some source → source.Functional

section Completing

variable [Monad m] [LawfulMonad m] {sender : Sender m κ} {usable : Clause m κ ε → Bool} {input : String}

/-- The nodes of such a forest are asked without effect, and each answer comes to some texts. -/
theorem Node.SourcesFunctional.exists_answer {nodes : List (Node m κ ε)}
    (functional : Node.SourcesFunctional nodes) :
    ∃ answer : Clause m κ ε → Completion.Query m κ ε → Completion.Pending m,
      ∃ texts : Completion.Pending m → List String, ∀ clause ∈ Node.allClauses nodes, ∀ query,
        clause.offers query = pure (answer clause query) ∧
          (answer clause query).Gives (texts (answer clause query)) := by
  have answers : ∀ clause : Clause m κ ε, ∀ query, ∃ answer, clause ∈ Node.allClauses nodes →
      clause.offers query = pure answer ∧ ∃ texts, answer.Gives texts := by
    intro clause query
    by_cases member : clause ∈ Node.allClauses nodes
    · unfold Clause.offers
      cases source_ : clause.source with
      | some source =>
        obtain ⟨answer, asks, gives⟩ := (functional clause member source source_).ask query
        exact ⟨answer, fun _ => ⟨asks, gives⟩⟩
      | none =>
        cases clause.pattern with
        | literal name => exact ⟨_, fun _ => ⟨rfl, _, rfl⟩⟩
        | argument name form => exact ⟨_, fun _ => ⟨rfl, _, rfl⟩⟩
    · exact ⟨.lost, fun listed => absurd listed member⟩
  have comes : ∀ pending : Completion.Pending m, ∃ texts, (∃ texts, pending.Gives texts) →
      pending.Gives texts := by
    intro pending
    by_cases some_ : ∃ texts, pending.Gives texts
    · obtain ⟨texts, gives⟩ := some_
      exact ⟨texts, fun _ => gives⟩
    · exact ⟨[], fun gives => absurd gives some_⟩
  choose answer answers using answers
  choose texts comes using comes
  refine ⟨answer, texts, fun clause member query => ?_⟩
  obtain ⟨asks, gives⟩ := answers clause query member
  exact ⟨asks, comes _ gives⟩

/-- What is offered for a line is what the answers of the nodes that are asked come to. -/
theorem Grammar.completions_eq_pure {grammar : Grammar m κ ε}
    {answer : Clause m κ ε → Completion.Query m κ ε → Completion.Pending m}
    {texts : Completion.Pending m → List String} (decided : Decided sender usable grammar.roots)
    (answers : ∀ clause ∈ Node.allClauses grammar.roots, ∀ query,
      clause.offers query = pure (answer clause query) ∧
        (answer clause query).Gives (texts (answer clause query))) (input : String) :
    ∃ offered, grammar.completions input sender = pure offered ∧ ∀ text, text ∈ offered ↔
      ∃ path ∈ (tries input.toList usable grammar.roots 0).filter (Path.isAsked input.toList),
        text ∈ texts (answer path.last.node.clause (path.query input.toList sender [])) := by
  have member : ∀ path ∈ (tries input.toList usable grammar.roots 0).filter
      (Path.isAsked input.toList), path.last.node.clause ∈ Node.allClauses grammar.roots :=
    fun path listed => (mem_tries.mp (List.mem_filter.mp listed).1).clause_mem
  have completes : grammar.complete input sender = pure _ :=
    (complete_eq_visits decided).trans
      (Completion.mapM_eq_pure fun path listed => (answers _ (member path listed) _).1)
  have gives : ∀ given ∈ ((tries input.toList usable grammar.roots 0).filter
      (Path.isAsked input.toList)).map fun path =>
        answer path.last.node.clause (path.query input.toList sender []), given.Gives (texts given) := by
    intro given listed
    obtain ⟨path, asked, rfl⟩ := List.mem_map.mp listed
    exact (answers _ (member path asked) _).2
  obtain ⟨offered, collects, mem_iff⟩ := Completion.collect_eq_pure gives
  refine ⟨offered, by rw [completions, completes, pure_bind, collects], fun text => ?_⟩
  rw [mem_iff]
  simp only [List.mem_map, exists_exists_and_eq_and]

/-- What is offered for a line is offered as well when there are more roots. -/
theorem Grammar.completions_mono {earlier later : Grammar m κ ε} (begins : earlier.roots <+: later.roots)
    (decided : Decided sender usable later.roots) (functional : Node.SourcesFunctional later.roots) :
    ∃ before after, earlier.completions input sender = pure before ∧
      later.completions input sender = pure after ∧ before ⊆ after := by
  have within := Node.allClauses_mono begins
  obtain ⟨answer, texts, answers⟩ := functional.exists_answer
  have decided' : Decided sender usable earlier.roots := fun clause member =>
    decided clause (within member)
  obtain ⟨before, offersBefore, memBefore⟩ :=
    completions_eq_pure decided' (fun clause member => answers clause (within member)) input
  obtain ⟨after, offersAfter, memAfter⟩ := completions_eq_pure decided answers input
  refine ⟨before, after, offersBefore, offersAfter, fun text offered => ?_⟩
  obtain ⟨path, asked, offers⟩ := (memBefore text).mp offered
  have still := ((tries_mono input.toList usable begins 0).filter _).subset asked
  exact (memAfter text).mpr ⟨path, still, offers⟩

end Completing

/-! ## Lines before and after -/

namespace Grammar

variable [Monad m] [LawfulMonad m] [DecidableEq κ] {sender : Sender m κ}
  {usable : Clause m κ ε → Bool}

/-- What a line comes to in a grammar, and in another one that has more roots. -/
structure LeavesAlone (earlier later : Grammar m κ ε) (input : String) (sender : Sender m κ)
    (usable : Clause m κ ε → Bool) (before after : Search m κ ε) : Prop where
  selects : earlier.select input.toList sender = pure before
  selects_later : later.select input.toList sender = pure after
  /-- A node that was selected is selected still, with the same arguments and at the same place: the path
  to it was the first full path and still is. Running the line does the same. -/
  found : ∀ node arguments, before = .found node arguments →
    after = .found node arguments ∧
      (∃ path, IsFirst (FullPath input.toList usable earlier.roots) path ∧
        IsFirst (FullPath input.toList usable later.roots) path ∧ path.last.node = node) ∧
      later.execute input sender = earlier.execute input sender
  /-- Where a failure was told and nothing is selected still, a failure is told that lies no less deep,
  for the same reason if it lies as deep. -/
  missed : ∀ failure deepest, before = .missed (some failure) → after = .missed deepest →
    earlier.execute input sender =
        pure (.error (.invalidSyntax failure.position failure.reason)) ∧
      ∃ position reason, failure.position ≤ position ∧
        (position = failure.position → reason = failure.reason) ∧
        later.execute input sender = pure (.error (.invalidSyntax position reason))
  /-- Whatever was offered is offered still. -/
  completes : ∃ offered offered', earlier.completions input sender = pure offered ∧
    later.completions input sender = pure offered' ∧ offered ⊆ offered'

/-- Commands that are registered later leave every line alone. -/
theorem registrations_leave_lines_alone (grammar : Grammar m κ ε) (calls : List (Registration m κ ε ν))
    (decided : Decided sender usable (grammar.performAll calls).roots)
    (functional : Node.SourcesFunctional (grammar.performAll calls).roots) (input : String) :
    ∃ before after,
      grammar.LeavesAlone (grammar.performAll calls) input sender usable before after := by
  have begins := grammar.prefix_performAll calls
  have decided' : Decided sender usable grammar.roots := fun clause member =>
    decided clause (Node.allClauses_mono begins member)
  have tries_ := tries_mono input.toList usable begins 0
  have selects : grammar.select input.toList sender = _ := select_eq_ofTries decided'
  have selects' : (grammar.performAll calls).select input.toList sender = _ := select_eq_ofTries decided
  refine ⟨_, _, selects, selects', fun node arguments found => ?_,
    fun failure deepest missed missed' => ?_, completions_mono begins decided functional⟩
  · obtain ⟨found', path, first, first', node_⟩ := Search.ofTries_found_mono tries_ found
    rw [found] at selects
    rw [found'] at selects'
    refine ⟨found', ⟨path, ?_, ?_, node_⟩, by rw [execute_of_found selects, execute_of_found selects']⟩
    · exact isFirst_of_find? (pairwise_tries _ 0) (fun _ => fullPath_iff) first
    · exact isFirst_of_find? (pairwise_tries _ 0) (fun _ => fullPath_iff) first'
  · obtain ⟨kept, rfl, deep, same⟩ := Search.ofTries_missed_mono tries_ missed missed'
    rw [missed] at selects
    rw [missed'] at selects'
    exact ⟨execute_of_missed selects, kept.position, kept.reason, deep,
      fun level => congrArg Failure.reason (same level), execute_of_missed selects'⟩

end Grammar

namespace Sample

/-- Offers two names. -/
def names : Completion.Source Journal Unit Empty :=
  .immediate fun _ => pure ["ann", "bob"]

/-- Two calls that add to the sample grammar: a number behind "tell all" that only operators see, and
under two names a word that names are offered for. -/
def calls : List (Registration Journal Unit Empty Unit) :=
  [ .register (grammar.draft "tell"
      [.literal "all" [.argument "level" .anyInteger [.require operates]]]),
    .command "give" ["hand"] [.argument "target" .word [.offer names]] ]

/-- What the clauses of the grown grammar require and offer. -/
theorem clause_calls : ∀ clause ∈ Node.allClauses (grammar.performAll calls).roots,
    (∀ requirement ∈ clause.requirements, requirement = operates) ∧
      ∀ source, clause.source = some source → source = names := by
  simp [Node.allClauses, Node.clauses, grammar, node, calls, Grammar.performAll, Grammar.perform,
    Grammar.register, Grammar.draft, Grammar.command, Grammar.declare, Declaration.applyAll,
    Declaration.apply, Declaration.literal, Declaration.argument, Draft.enter, Draft.leave, Builder.root,
    Builder.start, Builder.child, Builder.require, Builder.offer, Builder.attach, Builder.build]

end Sample

/-- A guest's line that fails at a number fails there still, although a command of the same name was
added. -/
theorem Grammar.registrations_leave_lines_alone_level :
    Decided Sample.guest Sample.usable (Sample.grammar.performAll Sample.calls).roots ∧
      Node.SourcesFunctional (Sample.grammar.performAll Sample.calls).roots ∧
      (∃ before after, Sample.grammar.LeavesAlone (Sample.grammar.performAll Sample.calls)
        "tell ann 5x" Sample.guest Sample.usable before after) ∧
      ((Sample.grammar.execute "tell ann 5x" Sample.guest).run []).1 =
        .error (.invalidSyntax 9 .expectedSeparator) := by
  have decided : Decided Sample.guest Sample.usable (Sample.grammar.performAll Sample.calls).roots := by
    refine decided_of_requirements fun clause member requirement asked => ?_
    rw [(Sample.clause_calls clause member).1 requirement asked]
    rfl
  have functional : Node.SourcesFunctional (Sample.grammar.performAll Sample.calls).roots := by
    intro clause member source held
    rw [(Sample.clause_calls clause member).2 source held]
    exact fun _ => ⟨_, rfl⟩
  exact ⟨decided, functional, registrations_leave_lines_alone _ _ decided functional _, rfl⟩

end CommandGrammar
