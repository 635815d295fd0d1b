import CommandGrammar.Proofs.Selection
import Mathlib.Data.List.Induction

/-!
# The error of a line that selects nothing

A line without a full path is refused, and the error tells of one failure: of all the nodes below a
root that do not match where they are tried, the one that is tried deepest in the line, and of those
at one offset the first in the order of declaration. When there is no such node, because no root
matches or because every branch ends before a node could fail, the command is unknown.

The search keeps one failure and replaces it only by a deeper one. That this leaves the first of the
deepest (`Failure.foldl_deeper_eq_some`) is a fact about the order in which the failures come in; that
they come in by address is `pairwise_tries`.
-/

set_option autoImplicit false

namespace CommandGrammar

variable {m : Type → Type} {κ ε : Type}

/-! ## The first of the deepest failures -/

namespace Failure

/-- Without a failure there is no deepest one, and only then. -/
theorem foldl_deeper_eq_none {failures : List Failure} :
    failures.foldl deeper none = none ↔ failures = [] := by
  induction failures using List.reverseRecOn with
  | nil => simp
  | append_singleton earlier last ih =>
    rw [List.foldl_concat]
    constructor
    · intro none_
      unfold deeper at none_
      split at none_
      · cases none_
      · split at none_ <;> cases none_
    · intro empty
      exact absurd empty (by simp)

/-- The failure that is kept lies deeper than every one before it, and none behind it lies deeper
still. -/
theorem foldl_deeper_eq_some {failures : List Failure} {failure : Failure}
    (kept : failures.foldl deeper none = some failure) :
    ∃ before after, failures = before ++ failure :: after ∧
      (∀ earlier ∈ before, earlier.position < failure.position) ∧
      ∀ later ∈ after, later.position ≤ failure.position := by
  induction failures using List.reverseRecOn generalizing failure with
  | nil => cases kept
  | append_singleton earlier last ih =>
    rw [List.foldl_concat] at kept
    cases deepest : earlier.foldl deeper none with
    | none =>
      rw [deepest] at kept
      cases kept
      rw [foldl_deeper_eq_none.mp deepest]
      exact ⟨[], [], rfl, by simp, by simp⟩
    | some best =>
      obtain ⟨before, after, rfl, shallower, notDeeper⟩ := ih deepest
      rw [deepest, deeper] at kept
      split at kept
      next deeper_ =>
        cases kept
        refine ⟨before ++ best :: after, [], rfl, ?_, by simp⟩
        intro other member
        rcases List.mem_append.mp member with first | second
        · exact Nat.lt_trans (shallower other first) deeper_
        · rcases List.mem_cons.mp second with rfl | behind
          · exact deeper_
          · exact Nat.lt_of_le_of_lt (notDeeper other behind) deeper_
      next notDeeper_ =>
        cases kept
        refine ⟨before, after ++ [last], by simp, shallower, ?_⟩
        intro other member
        rcases List.mem_append.mp member with first | second
        · exact notDeeper other first
        · rw [List.mem_singleton.mp second]
          exact Nat.le_of_not_lt notDeeper_

/-- Once a failure is kept, one is kept that lies no less deep, and another one only if it lies deeper. -/
theorem foldl_deeper_of_some (failure : Failure) (failures : List Failure) :
    ∃ kept, failures.foldl deeper (some failure) = some kept ∧ failure.position ≤ kept.position ∧
      (kept.position = failure.position → kept = failure) := by
  induction failures generalizing failure with
  | nil => exact ⟨failure, rfl, Nat.le_refl _, fun _ => rfl⟩
  | cons next rest ih =>
    rw [List.foldl_cons, deeper]
    split
    next less =>
      obtain ⟨kept, same, deep, _⟩ := ih next
      refine ⟨kept, same, Nat.le_trans (Nat.le_of_lt less) deep, fun level => ?_⟩
      exact absurd (level ▸ deep) (Nat.not_le.mpr less)
    next => exact ih failure

/-- Failures that do not lie deeper change nothing. -/
theorem foldl_deeper_of_le {best : Failure} {failures : List Failure}
    (notDeeper : ∀ failure ∈ failures, failure.position ≤ best.position) :
    failures.foldl deeper (some best) = some best := by
  induction failures with
  | nil => rfl
  | cons next rest ih =>
    rw [List.foldl_cons, deeper, if_neg (Nat.not_lt.mpr (notDeeper next List.mem_cons_self))]
    exact ih fun failure member => notDeeper failure (List.mem_cons_of_mem _ member)

/-- The failure that is kept of a list is kept when the list comes again, however often. -/
theorem foldl_deeper_replicate {count : Nat} (pos : 0 < count) (failures : List Failure) :
    (List.replicate count failures).flatten.foldl deeper none = failures.foldl deeper none := by
  have again : failures.foldl deeper (failures.foldl deeper none) = failures.foldl deeper none := by
    cases kept : failures.foldl deeper none with
    | none => rw [foldl_deeper_eq_none.mp kept, List.foldl_nil]
    | some best =>
      obtain ⟨before, after, rfl, shallower, notDeeper⟩ := foldl_deeper_eq_some kept
      refine foldl_deeper_of_le fun failure member => ?_
      rcases List.mem_append.mp member with earlier | later
      · exact Nat.le_of_lt (shallower failure earlier)
      · rcases List.mem_cons.mp later with rfl | behind
        · exact Nat.le_refl _
        · exact notDeeper failure behind
  obtain ⟨more, rfl⟩ := Nat.exists_eq_succ_of_ne_zero (Nat.ne_of_gt pos)
  induction more with
  | zero => rw [List.replicate_one, List.flatten_cons, List.flatten_nil, List.append_nil]
  | succ more ih =>
    rw [List.replicate_succ', List.flatten_append, List.foldl_append, ih (Nat.succ_pos more),
      List.flatten_cons, List.flatten_nil, List.append_nil, again]

end Failure

/-! ## Failures below the roots -/

/-- A path through usable nodes whose last node stands below a root and does not match. -/
structure FailsBelow (line : List Char) (usable : Clause m κ ε → Bool) (roots : List (Node m κ ε))
    (path : Path m κ ε) : Prop where
  tried : Tried line usable roots 0 path
  below : path.above ≠ []
  fails : ∃ reason, path.last.outcome = .error reason

/-- The first in the order of declaration of the failures that lie deepest in the line. -/
structure FirstDeepest (line : List Char) (usable : Clause m κ ε → Bool)
    (roots : List (Node m κ ε)) (path : Path m κ ε) : Prop where
  deepest : ∀ other, FailsBelow line usable roots other → other.last.start ≤ path.last.start
  first : IsFirst (fun other =>
    FailsBelow line usable roots other ∧ other.last.start = path.last.start) path

section Below

variable {line : List Char} {usable : Clause m κ ε → Bool} {roots : List (Node m κ ε)}

/-- A path ends in a failure when its last node stands below a root and does not match. -/
theorem Path.failure?_eq_some_iff {path : Path m κ ε} {failure : Failure} :
    path.failure? = some failure ↔
      path.above ≠ [] ∧ path.last.start = failure.position ∧
        path.last.outcome = .error failure.reason := by
  unfold Path.failure?
  cases above : path.above with
  | nil => simp
  | cons attempt rest => simp [Attempt.failure?_eq_some_iff]

/-- The failures below the roots are the listed paths that end in one. -/
theorem failsBelow_iff {path : Path m κ ε} :
    FailsBelow line usable roots path ↔
      path ∈ tries line usable roots 0 ∧ ∃ failure, path.failure? = some failure := by
  constructor
  · rintro ⟨tried, below, reason, fails⟩
    exact ⟨mem_tries.mpr tried, ⟨path.last.start, reason⟩,
      Path.failure?_eq_some_iff.mpr ⟨below, rfl, fails⟩⟩
  · rintro ⟨listed, failure, fails⟩
    obtain ⟨below, _, outcome⟩ := Path.failure?_eq_some_iff.mp fails
    exact ⟨mem_tries.mp listed, below, failure.reason, outcome⟩

/-- When no failure is kept, nothing fails below a root. -/
theorem not_failsBelow_of_none
    (none_ : ((tries line usable roots 0).filterMap Path.failure?).foldl Failure.deeper none = none)
    (path : Path m κ ε) : ¬ FailsBelow line usable roots path := by
  intro fails
  obtain ⟨listed, failure, ends⟩ := failsBelow_iff.mp fails
  have member : failure ∈ (tries line usable roots 0).filterMap Path.failure? :=
    List.mem_filterMap.mpr ⟨path, listed, ends⟩
  rw [Failure.foldl_deeper_eq_none.mp none_] at member
  cases member

/-- Where a failure below a root stands to the one that is kept: it lies less deep, or it is the same,
or it comes later and lies no deeper. -/
theorem exists_kept {failure : Failure}
    (kept : ((tries line usable roots 0).filterMap Path.failure?).foldl Failure.deeper none =
      some failure) :
    ∃ path, path ∈ tries line usable roots 0 ∧ path.failure? = some failure ∧
      ∀ other, FailsBelow line usable roots other →
        other.last.start < path.last.start ∨ other = path ∨
          other.last.start ≤ path.last.start ∧ path.address < other.address := by
  obtain ⟨before, after, failures, shallower, notDeeper⟩ := Failure.foldl_deeper_eq_some kept
  obtain ⟨earlier, rest, listed, rfl, behind⟩ := List.filterMap_eq_append_iff.mp failures
  obtain ⟨silent, path, later, rfl, quiet, ends, rfl⟩ := List.filterMap_eq_cons_iff.mp behind
  have ordered : (tries line usable roots 0).Pairwise fun first second =>
    first.address < second.address := pairwise_tries roots 0
  rw [listed] at ordered
  have position := (Path.failure?_eq_some_iff.mp ends).2.1
  refine ⟨path, by simp [listed], ends, ?_⟩
  intro other fails
  -- The list falls into the paths before the kept failure, those that end in none, and the rest.
  obtain ⟨member, failure', ends'⟩ := failsBelow_iff.mp fails
  have position' := (Path.failure?_eq_some_iff.mp ends').2.1
  rw [position, position']
  rw [listed] at member
  rcases List.mem_append.mp member with first | second
  · exact .inl (shallower failure' (List.mem_filterMap.mpr ⟨other, first, ends'⟩))
  · rcases List.mem_append.mp second with none_ | last
    · rw [quiet other none_] at ends'
      cases ends'
    · rcases List.mem_cons.mp last with same | last
      · exact .inr (.inl same)
      · refine .inr (.inr ⟨notDeeper failure' (List.mem_filterMap.mpr ⟨other, last, ends'⟩), ?_⟩)
        have fromPath := (List.pairwise_append.mp (List.pairwise_append.mp ordered).2.1).2.1
        exact List.rel_of_pairwise_cons fromPath last

/-- The failure that is kept is the first of the deepest. -/
theorem firstDeepest_of_some {failure : Failure}
    (kept : ((tries line usable roots 0).filterMap Path.failure?).foldl Failure.deeper none =
      some failure) :
    ∃ path, FirstDeepest line usable roots path ∧ path.last.start = failure.position ∧
      path.last.outcome = .error failure.reason := by
  obtain ⟨path, listed, ends, placed⟩ := exists_kept kept
  obtain ⟨_, position, outcome⟩ := Path.failure?_eq_some_iff.mp ends
  have fails : FailsBelow line usable roots path := failsBelow_iff.mpr ⟨listed, failure, ends⟩
  refine ⟨path, ⟨?_, ⟨fails, rfl⟩, ?_⟩, position, outcome⟩
  · intro other fails'
    rcases placed other fails' with shallower | rfl | ⟨notDeeper, _⟩
    · exact Nat.le_of_lt shallower
    · exact Nat.le_refl _
    · exact notDeeper
  · rintro other ⟨fails', level⟩
    rcases placed other fails' with shallower | same | ⟨_, before⟩
    · exact absurd level (Nat.ne_of_lt shallower)
    · exact .inl same
    · exact .inr before

end Below

namespace Grammar

variable [Monad m] [LawfulMonad m] [DecidableEq κ] {grammar : Grammar m κ ε} {input : String}
  {sender : Sender m κ} {usable : Clause m κ ε → Bool}

/-- What the error of a refused line tells. -/
structure RefusesWith (grammar : Grammar m κ ε) (input : String) (sender : Sender m κ)
    (usable : Clause m κ ε → Bool) (error : DispatchError) : Prop where
  /-- The line is answered with the error, and nothing is run. -/
  refuses : grammar.execute input sender = pure (.error error)
  /-- The command is unknown exactly when nothing fails below a root. -/
  unknown_iff : error = .unknownCommand input ↔
    ∀ path, ¬ FailsBelow input.toList usable grammar.roots path
  /-- Otherwise the error tells the first of the deepest failures. -/
  tells : ∀ path, FailsBelow input.toList usable grammar.roots path →
    ∃ first reason, FirstDeepest input.toList usable grammar.roots first ∧
      first.last.outcome = .error reason ∧ error = .invalidSyntax first.last.start reason

/-- A line without a full path is refused with the first of its deepest failures below a root, and as
an unknown command when there is none. -/
theorem execute_refuses_with_first_deepest (decided : Decided sender usable grammar.roots)
    (none_ : ∀ path, ¬ FullPath input.toList usable grammar.roots path) :
    ∃ error, RefusesWith grammar input sender usable error := by
  have selects : grammar.select input.toList sender = _ := select_eq_ofTries decided
  have missed : (tries input.toList usable grammar.roots 0).find? (Path.endsLine input.toList) =
      none := List.find?_eq_none.mpr fun path listed ends =>
    none_ path (fullPath_iff.mpr ⟨listed, ends⟩)
  rw [Search.ofTries, missed] at selects
  have refuses := execute_of_missed selects
  cases kept : ((tries input.toList usable grammar.roots 0).filterMap Path.failure?).foldl
      Failure.deeper Trail.empty.deepest with
  | none =>
    have quiet := not_failsBelow_of_none kept
    rw [kept] at refuses
    refine ⟨_, refuses, ⟨fun _ => quiet, fun _ => rfl⟩, ?_⟩
    intro path fails
    exact absurd fails (quiet path)
  | some failure =>
    obtain ⟨first, deepest, position, outcome⟩ := firstDeepest_of_some kept
    rw [kept] at refuses
    refine ⟨_, refuses, ⟨?_, ?_⟩, ?_⟩
    · intro unknown
      cases unknown
    · intro quiet
      exact absurd deepest.first.has.1 (quiet first)
    · intro _ _
      exact ⟨first, failure.reason, deepest, outcome, by rw [position]; rfl⟩

/-- A guest's line that fails at a number first and at a fixed word further left then. -/
theorem execute_refuses_with_first_deepest_level :
    (∀ path, ¬ FullPath "tell ann 5x".toList Sample.usable Sample.grammar.roots path) ∧
      (∃ error, RefusesWith Sample.grammar "tell ann 5x" Sample.guest Sample.usable error) ∧
      ((Sample.grammar.execute "tell ann 5x" Sample.guest).run []).1 =
        .error (.invalidSyntax 9 .expectedSeparator) := by
  have none_ : ∀ path, ¬ FullPath "tell ann 5x".toList Sample.usable Sample.grammar.roots path := by
    intro path full
    obtain ⟨listed, ends⟩ := fullPath_iff.mp full
    have goes : ∀ path ∈ tries "tell ann 5x".toList Sample.usable Sample.grammar.roots 0,
        ¬ path.endsLine "tell ann 5x".toList = true := List.find?_eq_none.mp rfl
    exact goes path listed ends
  exact ⟨none_, execute_refuses_with_first_deepest Sample.decided none_, rfl⟩

end Grammar

end CommandGrammar
