import CommandGrammar.Proofs.Moving
import CommandGrammar.Proofs.Refusal
import CommandGrammar.Proofs.Renumbering

/-!
# One command under several labels

A command that is declared under a name and its aliases can be run by any of them, with the same tail of
the line behind it. The lines select nodes at the same place below the roots, with equal arguments that
stand as far behind the labels, or they fail in the same way as far behind the labels, or match nothing
alike. Completing the lines asks the same nodes about the same text.

Labels hold no space, and so a label is matched by the roots that have it and by no others
(`consume_label`). What is tried below such a root is what is tried below the model of the command on the
tail by itself, moved behind the label (`Path.inner`, `inner_tries`). A label that was given twice has two
roots. The second of them changes nothing of what is selected and of the failure that is told, but it is
asked for completions like the first: each node is asked once for every time its label was given.
-/

set_option autoImplicit false

namespace CommandGrammar

open Text

variable {m : Type → Type} {κ ε ν : Type}

/-! ## Labels -/

/-- Two texts without spaces are the same when they stand before a space or the end of one line. -/
theorem Text.eq_of_atBoundary {first second tail after : List Char} (firstFree : ' ' ∉ first)
    (secondFree : ' ' ∉ second) (tailEnds : Pattern.atBoundary tail = true)
    (afterEnds : Pattern.atBoundary after = true) (same : first ++ tail = second ++ after) :
    first = second := by
  have word : ∀ text rest : List Char, ' ' ∉ text → Pattern.atBoundary rest = true →
      (text ++ rest).takeWhile (· != ' ') = text := by
    intro text rest free ends
    have kept : ∀ c ∈ text, (c != ' ') = true := fun c member =>
      bne_iff_ne.mpr fun space => free (space ▸ member)
    rw [List.takeWhile_append_of_pos kept]
    cases rest with
    | nil => exact List.append_nil text
    | cons c behind =>
      obtain rfl : c = ' ' := of_decide_eq_true ends
      exact List.append_nil text
  rw [← word first tail firstFree tailEnds, same, word second after secondFree afterEnds]

/-- The label stands at the start of the line. -/
theorem consume_label (label : String) {tail : List Char} (ends : Pattern.atBoundary tail = true) :
    (Pattern.literal label).consume (label.toList ++ tail) 0 =
      .ok (byteLength label.toList, none) := by
  show (Pattern.literal label).consume ([] ++ (label.toList ++ tail)) (byteLength []) = _
  exact Pattern.consume_literal_iff.mpr ⟨tail, rfl, ends, rfl, rfl⟩

/-- No other label stands there. -/
theorem eq_of_consume_label {label other : String} {tail : List Char} {stop : Nat}
    {parsed : Option Binding} (free : ' ' ∉ label.toList) (otherFree : ' ' ∉ other.toList)
    (ends : Pattern.atBoundary tail = true)
    (takes : (Pattern.literal other).consume (label.toList ++ tail) 0 = .ok (stop, parsed)) :
    other = label ∧ stop = byteLength label.toList := by
  have takes' : (Pattern.literal other).consume ([] ++ (label.toList ++ tail)) (byteLength []) =
    .ok (stop, parsed) := takes
  obtain ⟨after, same, afterEnds, rfl, _⟩ := Pattern.consume_literal_iff.mp takes'
  have labels := Text.eq_of_atBoundary free otherFree ends afterEnds same
  exact ⟨String.toList_inj.mp labels.symm, congrArg byteLength labels.symm⟩

/-! ## Below the roots -/

/-- Whether the path leads below its first node. -/
def Path.isBelow (path : Path m κ ε) : Bool :=
  !path.above.isEmpty

/-- The path seen from below its first node, down nodes without numbers. -/
def Path.inner (path : Path m κ ε) : Path m κ ε :=
  Path.unnumbered ⟨path.address.tail, path.above.tail, path.last⟩

theorem Path.isBelow_iff {path : Path m κ ε} : path.isBelow = true ↔ path.above ≠ [] := by
  simp [Path.isBelow]

/-- The failures of paths are told by those that lead below their first nodes. -/
theorem Path.filterMap_failure?_eq (paths : List (Path m κ ε)) :
    paths.filterMap Path.failure? =
      ((paths.filter Path.isBelow).map Path.inner).filterMap fun path => path.last.failure? := by
  rw [List.filterMap_map, List.filterMap_filter]
  congr 1
  funext path
  obtain ⟨address, above, last⟩ := path
  cases above <;> rfl

theorem Path.inner_later (path : Path m κ ε) : path.later.inner = path.inner := by
  obtain ⟨address, above, last⟩ := path
  cases address <;> rfl

theorem Path.unnumbered_moved (distance : Nat) (path : Path m κ ε) :
    (path.moved distance).unnumbered = path.unnumbered.moved distance := by
  obtain ⟨address, above, last⟩ := path
  simp only [Path.moved, Path.unnumbered, List.map_map]
  rfl

/-- What is tried on a text below the model of a command. -/
def Node.triesBelow (usable : Clause m κ ε → Bool) (model : Node m κ ε) (tail : List Char) :
    List (Path m κ ε) :=
  if usable model.clause then tries tail usable (Node.unnumberedAll model.children) 1 else []

/-- Who may use a node depends on nothing but what it requires. -/
def ByRequirements (usable : Clause m κ ε → Bool) : Prop :=
  ∀ clause other : Clause m κ ε, clause.requirements = other.requirements →
    usable clause = usable other

section Tries

variable {usable : Clause m κ ε → Bool} {model root : Node m κ ε} {labels : List String}
  {roots : List (Node m κ ε)} {label : String} {rest : List Char}

theorem consume_eq_error {label other : String} {tail : List Char} (free : ' ' ∉ label.toList)
    (otherFree : ' ' ∉ other.toList) (ends : Pattern.atBoundary tail = true) (different : other ≠ label) :
    ∃ reason, (Pattern.literal other).consume (label.toList ++ tail) 0 = .error reason := by
  cases outcome : (Pattern.literal other).consume (label.toList ++ tail) 0 with
  | error reason => exact ⟨reason, rfl⟩
  | ok token => exact absurd (eq_of_consume_label free otherFree ends outcome).1 different

/-- Below one root of a command the model of the command is tried behind the label, if the root has the
label, and nothing if it has not. -/
theorem inner_triesThrough (byRequirements : ByRequirements usable) {other : String}
    (pattern : root.clause.pattern = .literal other) (alike : model.Alike root)
    (free : ' ' ∉ label.toList) (otherFree : ' ' ∉ other.toList)
    (local_ : ∀ clause ∈ Node.allClauses root.children, clause.pattern.Local) :
    ((triesThrough (label.toList ++ ' ' :: rest) usable root 0).filter Path.isBelow).map Path.inner =
      if other = label then
        (model.triesBelow usable (' ' :: rest)).map (Path.moved (byteLength label.toList))
      else [] := by
  have use_ : usable model.clause = usable root.clause := byRequirements _ _ alike.requirements
  unfold Node.triesBelow
  rw [use_]
  cases use : usable root.clause with
  | false =>
    rw [triesThrough_of_unusable use]
    simp
  | true =>
    rw [if_pos rfl]
    by_cases same : other = label
    · subst same
      have takes : root.clause.pattern.consume (other.toList ++ ' ' :: rest) 0 = _ :=
        pattern ▸ consume_label other rfl
      have inside : byteLength other.toList < byteLength (other.toList ++ ' ' :: rest) := by
        rw [byteLength_append, byteLength_cons]
        exact Nat.lt_add_of_pos_right (Nat.add_pos_left (Char.utf8Size_pos _) _)
      have next : (Attempt.make (other.toList ++ ' ' :: rest) root 0).next?
          (other.toList ++ ' ' :: rest) = some (byteLength other.toList + 1) := by
        rw [Attempt.make_of_ok takes, Attempt.next?_of_lt inside]
      -- Every path of the children leads below the root, whose own attempt does not.
      have all : ((tries (' ' :: rest) usable root.children 1).map
          (Path.moved (byteLength other.toList))).filter
            (Path.isBelow ∘ Path.under 0 (.make (other.toList ++ ' ' :: rest) root 0)) = _ :=
        List.filter_eq_self.mpr fun path _ => rfl
      rw [if_pos rfl, triesThrough_of_inside use next, tries_moved root.children 1 local_,
        List.filter_cons_of_neg (by simp [Path.isBelow, Path.single]), List.filter_map, all,
        List.map_map, List.map_map, alike.children,
        tries_unnumbered fun clause => byRequirements _ _ rfl, List.map_map]
      exact List.map_congr_left fun path _ => path.unnumbered_moved _
    · obtain ⟨reason, fails⟩ : ∃ reason,
          root.clause.pattern.consume (label.toList ++ ' ' :: rest) 0 = .error reason :=
        pattern ▸ consume_eq_error free otherFree rfl same
      rw [if_neg same, triesThrough_of_last use (by rw [Attempt.make_of_error fails]; rfl)]
      rfl

/-- Below the roots of a command the model is tried behind a label, once for every root that has the
label. -/
theorem inner_tries (byRequirements : ByRequirements usable) (labelled : Labelled model labels roots)
    (free : ' ' ∉ label.toList) (allFree : ∀ other ∈ labels, ' ' ∉ other.toList)
    (local_ : ∀ clause ∈ Node.allClauses roots, clause.pattern.Local) :
    ((tries (label.toList ++ ' ' :: rest) usable roots 0).filter Path.isBelow).map Path.inner =
      (List.replicate (labels.count label)
        ((model.triesBelow usable (' ' :: rest)).map (Path.moved (byteLength label.toList)))).flatten := by
  induction labelled with
  | nil => rfl
  | @cons other root labels roots both labelled ih =>
    have behind := ih (fun other member => allFree other (List.mem_cons_of_mem _ member))
      fun clause member => local_ clause (List.mem_append_right _ member)
    have first : ((triesThrough (label.toList ++ ' ' :: rest) usable root 0).filter
        Path.isBelow).map Path.inner = _ :=
      inner_triesThrough byRequirements both.1 both.2 free (allFree other List.mem_cons_self)
        fun clause below => local_ clause (Node.allClauses_children_subset List.mem_cons_self below)
    rw [tries, List.filter_append, List.map_append, first, List.filter_map, List.map_map]
    rw [show Path.isBelow ∘ Path.later = (Path.isBelow : Path m κ ε → Bool) from rfl,
      show (Path.inner ∘ Path.later : Path m κ ε → Path m κ ε) = Path.inner from
        funext Path.inner_later, behind]
    by_cases same : other = label
    · rw [if_pos same, same, List.count_cons_self, List.replicate_succ, List.flatten_cons]
    · rw [if_neg same, List.count_cons_of_ne same, List.nil_append]

/-- With a space behind the label, a node that could take the last token is none of the roots. -/
theorem isBelow_of_isAsked (labelled : Labelled model labels roots) (free : ' ' ∉ label.toList)
    (allFree : ∀ other ∈ labels, ' ' ∉ other.toList) {path : Path m κ ε}
    (listed : path ∈ tries (label.toList ++ ' ' :: rest) usable roots 0)
    (asked : path.isAsked (label.toList ++ ' ' :: rest) = true) : path.isBelow = true := by
  rw [Path.isBelow_iff]
  intro top
  obtain ⟨root, member, behind, attempts⟩ := (mem_tries.mp listed).attempts_eq
  rw [Path.attempts, top] at attempts
  have last : path.last = .make (label.toList ++ ' ' :: rest) root 0 := (List.cons.inj attempts).1
  obtain ⟨other, given, pattern, _⟩ := labelled.exists_label member
  rcases Path.isAsked_iff.mp asked with ⟨stop, parsed, takes, ends⟩ | ⟨_, short⟩
  · rw [last, Attempt.make, pattern] at takes
    obtain ⟨-, rfl⟩ := eq_of_consume_label free (allFree other given) rfl takes
    rw [byteLength_append, byteLength_cons] at ends
    have wide := Char.utf8Size_pos ' '
    omega
  · rw [last] at short
    have whole : Offers.remaining (label.toList ++ ' ' :: rest) 0 = label.toList ++ ' ' :: rest := by
      cases label.toList <;> rfl
    rw [show (Attempt.make (label.toList ++ ' ' :: rest) root 0).start = 0 from rfl, whole] at short
    exact short (List.mem_append_right _ List.mem_cons_self)

end Tries

/-! ## What is read off the tries behind a label -/

section Reading

variable {usable : Clause m κ ε → Bool} {model : Node m κ ε} {labels : List String}
  {roots : List (Node m κ ε)} {label : String} {rest : List Char}

/-- The roots of one command that is declared under labels without spaces, whose forms look at nothing
but the text from the reader on. -/
structure CommandRoots (usable : Clause m κ ε → Bool) (model : Node m κ ε) (labels : List String)
    (roots : List (Node m κ ε)) : Prop where
  byRequirements : ByRequirements usable
  labelled : Labelled model labels roots
  free : ∀ label ∈ labels, ' ' ∉ label.toList
  local_ : ∀ clause ∈ Node.allClauses roots, clause.pattern.Local

namespace CommandRoots

variable (command : CommandRoots usable model labels roots)
include command

/-- The paths that pass a test, when only paths below a root do and where their tokens stand does not
matter to it. -/
theorem filter_tries (given : label ∈ labels) (test test' : Path m κ ε → Bool)
    (below : ∀ path ∈ tries (label.toList ++ ' ' :: rest) usable roots 0,
      test path = true → path.isBelow = true)
    (inner : ∀ path, test path = test path.inner)
    (moved : ∀ path, test (path.moved (byteLength label.toList)) = test' path) :
    ((tries (label.toList ++ ' ' :: rest) usable roots 0).filter test).map Path.inner =
      (List.replicate (labels.count label)
        (((model.triesBelow usable (' ' :: rest)).filter test').map
          (Path.moved (byteLength label.toList)))).flatten := by
  have all : (tries (label.toList ++ ' ' :: rest) usable roots 0).filter test =
      ((tries (label.toList ++ ' ' :: rest) usable roots 0).filter Path.isBelow).filter test := by
    rw [List.filter_filter]
    refine List.filter_congr fun path listed => ?_
    cases passes : test path with
    | false => rfl
    | true => rw [below path listed passes, Bool.and_self]
  have seen : test = test ∘ Path.inner := funext inner
  rw [all, seen, ← List.filter_map, inner_tries command.byRequirements command.labelled
    (command.free label given) command.free command.local_, List.filter_flatten, List.map_replicate,
    List.filter_map]
  congr 3
  exact List.filter_congr fun path _ => moved path

/-- The paths that are asked behind a label are those asked on the tail, once for each time the label was
given. -/
theorem asked_eq (given : label ∈ labels) :
    ((tries (label.toList ++ ' ' :: rest) usable roots 0).filter
        (Path.isAsked (label.toList ++ ' ' :: rest))).map Path.inner =
      (List.replicate (labels.count label)
        (((model.triesBelow usable (' ' :: rest)).filter (Path.isAsked (' ' :: rest))).map
          (Path.moved (byteLength label.toList)))).flatten :=
  command.filter_tries given _ _
    (fun _ listed => isBelow_of_isAsked command.labelled (command.free label given) command.free listed)
    (fun _ => rfl) fun path => path.isAsked_moved label.toList (' ' :: rest)

/-- The first path that ends the line behind a label is the first that ends the tail. -/
theorem find?_eq (given : label ∈ labels) :
    ((tries (label.toList ++ ' ' :: rest) usable roots 0).find?
        (Path.endsLine (label.toList ++ ' ' :: rest))).map Path.inner =
      ((model.triesBelow usable (' ' :: rest)).find? (Path.endsLine (' ' :: rest))).map
        (Path.moved (byteLength label.toList)) := by
  have paths := command.filter_tries given (Path.endsLine (label.toList ++ ' ' :: rest))
    (Path.endsLine (' ' :: rest))
    (fun _ listed ends => isBelow_of_isAsked command.labelled (command.free label given) command.free
      listed (Path.isAsked_of_endsLine ends))
    (fun _ => rfl) fun path => path.endsLine_moved label.toList (' ' :: rest)
  obtain ⟨count, some_⟩ := Nat.exists_eq_succ_of_ne_zero
    (Nat.ne_of_gt (List.count_pos_iff.mpr given))
  rw [← List.head?_filter, ← List.head?_filter, ← List.head?_map, ← List.head?_map, paths, some_,
    List.replicate_succ, List.flatten_cons]
  cases ((model.triesBelow usable (' ' :: rest)).filter (Path.endsLine (' ' :: rest))).map
      (Path.moved (byteLength label.toList)) with
  | nil => simp
  | cons first others => rfl

/-- The failures behind a label are those on the tail, once for each time the label was given. -/
theorem failures_eq (given : label ∈ labels) :
    (tries (label.toList ++ ' ' :: rest) usable roots 0).filterMap Path.failure? =
      (List.replicate (labels.count label)
        (((model.triesBelow usable (' ' :: rest)).filterMap fun path => path.last.failure?).map
          (Failure.moved (byteLength label.toList)))).flatten := by
  rw [Path.filterMap_failure?_eq, inner_tries command.byRequirements command.labelled
    (command.free label given) command.free command.local_, List.filterMap_flatten,
    List.map_replicate, List.filterMap_map, List.map_filterMap]
  congr 3
  exact funext fun path => path.last.failure?_moved _

end CommandRoots

end Reading

/-! ## Two labels -/

/-- Two offsets that lie as far behind two labels. -/
def AsFar (first second : String) (offset offset' : Nat) : Prop :=
  offset + byteLength second.toList = offset' + byteLength first.toList

/-- Two arguments of one value that stand as far behind two labels. -/
structure Binding.AsFar (first second : String) (binding binding' : Binding) : Prop where
  value : binding.value = binding'.value
  start : CommandGrammar.AsFar first second binding.start binding'.start
  stop : CommandGrammar.AsFar first second binding.stop binding'.stop

/-- The same names have values, and these stand as far behind two labels. -/
def Bindings.AsFar (first second : String) (arguments arguments' : Bindings) : Prop :=
  ∀ name, Option.Rel (Binding.AsFar first second) (arguments.lookup name) (arguments'.lookup name)

theorem asFar_moved (first second : String) (offset : Nat) :
    AsFar first second (byteLength first.toList + offset) (byteLength second.toList + offset) := by
  unfold AsFar
  omega

/-- An argument that is moved behind one label and behind another. -/
theorem Binding.asFar_moved (first second : String) (found : Option Binding) :
    Option.Rel (Binding.AsFar first second) (found.map (Binding.moved (byteLength first.toList)))
      (found.map (Binding.moved (byteLength second.toList))) := by
  cases found with
  | none => exact .none
  | some binding =>
    exact .some ⟨rfl, CommandGrammar.asFar_moved _ _ _, CommandGrammar.asFar_moved _ _ _⟩

/-- What two searches come to whose lines begin with two labels: nodes at one place below the roots, with
arguments that stand as far behind the labels, or the same failure as far behind the labels, or nothing.
-/
inductive Search.Alike (first second : String) (usable : Clause m κ ε → Bool)
    (roots : List (Node m κ ε)) (line line' : List Char) : Search m κ ε → Search m κ ε → Prop
  | found {path path' : Path m κ ε} {arguments arguments' : Bindings} :
      IsFirst (FullPath line usable roots) path → IsFirst (FullPath line' usable roots) path' →
      path.address.tail = path'.address.tail → path.last.node.Alike path'.last.node →
      (path.address.tail ≠ [] →
        path.last.node.clause.pattern = path'.last.node.clause.pattern) →
      Bindings.AsFar first second arguments arguments' →
      Alike first second usable roots line line' (.found path.last.node arguments)
        (.found path'.last.node arguments')
  | unknown : Alike first second usable roots line line' (.missed none) (.missed none)
  | failed {position position' : Nat} {reason : ParseError} :
      CommandGrammar.AsFar first second position position' →
      Alike first second usable roots line line' (.missed (some ⟨position, reason⟩))
        (.missed (some ⟨position', reason⟩))

/-- Two questions to the same node: at one place below the roots, about the same text, which stands as far
behind two labels, and about arguments that do. -/
structure Path.AskedAlike [Monad m] (first second : String) (line line' : List Char)
    (sender : Sender m κ) (path path' : Path m κ ε) : Prop where
  place : path.address.tail = path'.address.tail
  node : path.last.node.unnumbered = path'.last.node.unnumbered
  remaining : (path.query line sender []).remaining = (path'.query line' sender []).remaining
  start : CommandGrammar.AsFar first second (path.query line sender []).start
    (path'.query line' sender []).start
  arguments : Bindings.AsFar first second (path.query line sender []).invocation.arguments
    (path'.query line' sender []).invocation.arguments

section Below

variable {usable : Clause m κ ε → Bool} {model : Node m κ ε} {labels : List String}
  {roots : List (Node m κ ε)} {label first second : String} {tail rest : List Char}
  {path path' core : Path m κ ε}

/-- The attempts of a path are its first one and those that are seen from below it. -/
theorem Path.inner_parts (below : path.isBelow = true) {distance : Nat}
    (inner : path.inner = core.moved distance) :
    path.above.tail.map Attempt.unnumbered = core.above.map (Attempt.moved distance) ∧
      path.attempts.tail.map Attempt.unnumbered = core.attempts.map (Attempt.moved distance) := by
  have seen : path.inner.attempts = (core.moved distance).attempts := congrArg Path.attempts inner
  refine ⟨congrArg Path.above inner, ?_⟩
  obtain ⟨address, above, last⟩ := path
  cases above with
  | nil => cases below
  | cons root others =>
    simp only [Path.attempts, Path.inner, Path.unnumbered, Path.moved, List.tail_cons,
      List.cons_append, List.map_append, List.map_cons, List.map_nil] at seen ⊢
    exact seen

/-- What attempts bind that are seen as attempts on the tail. -/
theorem Attempt.deepest?_of_inner {attempts core : List (Attempt m κ ε)} {distance : Nat}
    (inner : attempts.map unnumbered = core.map (moved distance)) (name : String) :
    deepest? attempts name = (deepest? core name).map (Binding.moved distance) := by
  rw [← deepest?_unnumbered, inner, deepest?_moved]

/-- Below a fixed word a path binds what it binds as a whole. -/
theorem Path.deepest?_above (labelled : Labelled model labels roots) {line : List Char}
    (tried : Tried line usable roots 0 path) (below : path.isBelow = true) (name : String) :
    Attempt.deepest? path.above name = Attempt.deepest? path.above.tail name := by
  obtain ⟨root, member, others, attempts⟩ := tried.attempts_eq
  obtain ⟨other, _, pattern, _⟩ := labelled.exists_label member
  have silent : (Attempt.make line root 0).parsed = none :=
    Attempt.parsed_make_of_isLiteral (by rw [pattern]; rfl) line 0
  obtain ⟨address, above, last⟩ := path
  cases above with
  | nil => cases below
  | cons top behind =>
    obtain rfl : top = .make line root 0 := (List.cons.inj attempts).1
    rw [List.tail_cons, Attempt.deepest?_cons, silent, ite_self, Option.or_none]

namespace CommandRoots

variable (command : CommandRoots usable model labels roots)
include command

/-- Where the tail has a path that ends it, a line with a label selects the same node behind the label. -/
theorem ofTries_of_found (given : label ∈ labels)
    (found : (model.triesBelow usable (' ' :: rest)).find? (Path.endsLine (' ' :: rest)) = some core) :
    ∃ path, IsFirst (FullPath (label.toList ++ ' ' :: rest) usable roots) path ∧
      path.inner = core.moved (byteLength label.toList) ∧ path.isBelow = true ∧
      Search.ofTries (label.toList ++ ' ' :: rest) .empty
          (tries (label.toList ++ ' ' :: rest) usable roots 0) =
        .found path.last.node (Attempt.bindAll path.attempts.tail []) := by
  have behind : ((tries (label.toList ++ ' ' :: rest) usable roots 0).find?
      (Path.endsLine (label.toList ++ ' ' :: rest))).map Path.inner = _ := command.find?_eq given
  rw [found, Option.map_some] at behind
  obtain ⟨path, first, inner⟩ := Option.map_eq_some_iff.mp behind
  have ends := List.find?_some first
  refine ⟨path, isFirst_of_find? (pairwise_tries roots 0) (fun _ => fullPath_iff) first, inner, ?_, ?_⟩
  · exact isBelow_of_isAsked command.labelled (command.free label given) command.free
      (List.mem_of_find?_eq_some first) (Path.isAsked_of_endsLine ends)
  · rw [Search.ofTries, first]
    rfl

/-- Where it has none, the line fails as the tail does. -/
theorem ofTries_of_missed (given : label ∈ labels)
    (missed : (model.triesBelow usable (' ' :: rest)).find? (Path.endsLine (' ' :: rest)) = none) :
    Search.ofTries (label.toList ++ ' ' :: rest) .empty
        (tries (label.toList ++ ' ' :: rest) usable roots 0) =
      .missed ((((model.triesBelow usable (' ' :: rest)).filterMap fun path =>
        path.last.failure?).foldl Failure.deeper none).map (Failure.moved (byteLength label.toList))) := by
  have behind : ((tries (label.toList ++ ' ' :: rest) usable roots 0).find?
      (Path.endsLine (label.toList ++ ' ' :: rest))).map Path.inner = _ := command.find?_eq given
  rw [missed, Option.map_none, Option.map_eq_none_iff] at behind
  rw [Search.ofTries, behind, command.failures_eq given]
  show Search.missed (List.foldl Failure.deeper none _) = _
  rw [Failure.foldl_deeper_replicate (List.count_pos_iff.mpr given)]
  exact congrArg Search.missed (Failure.foldl_deeper_moved _ _ none)

/-- On a line that is a label and nothing else no root leads on to its children. -/
theorem single_of_tried (given : label ∈ labels) (tried : Tried label.toList usable roots 0 path) :
    ∃ position root, root ∈ roots ∧ usable root.clause = true ∧
      path = .single position (.make label.toList root 0) := by
  cases tried with
  | here at_ use => exact ⟨_, _, List.mem_of_getElem? at_, use, rfl⟩
  | deeper at_ use takes inside _ =>
    obtain ⟨other, listed, pattern, _⟩ := command.labelled.exists_label (List.mem_of_getElem? at_)
    rw [pattern, ← List.append_nil label.toList] at takes
    obtain ⟨-, rfl⟩ :=
      eq_of_consume_label (command.free label given) (command.free other listed) rfl takes
    exact absurd inside (Nat.lt_irrefl _)

/-- A line that is a label and nothing else selects the first root that has it, if it may be used. -/
theorem ofTries_of_label (given : label ∈ labels) :
    if usable model.clause then
      ∃ path, IsFirst (FullPath label.toList usable roots) path ∧ path.address.tail = [] ∧
        model.Alike path.last.node ∧
        Search.ofTries label.toList .empty (tries label.toList usable roots 0) =
          .found path.last.node []
    else Search.ofTries label.toList .empty (tries label.toList usable roots 0) = .missed none := by
  split
  next use =>
    obtain ⟨root, member, pattern, alike⟩ := command.labelled.exists_root given
    obtain ⟨position, at_⟩ := List.mem_iff_getElem?.mp member
    have usableRoot : usable root.clause = true :=
      (command.byRequirements _ _ alike.requirements).symm.trans use
    have takes : root.clause.pattern.consume label.toList 0 = .ok (byteLength label.toList, none) := by
      rw [pattern]
      rw [← List.append_nil label.toList, consume_label label rfl, List.append_nil]
    have full : FullPath label.toList usable roots (.single position (.make label.toList root 0)) :=
      ⟨.here at_ usableRoot, _, _, takes, Nat.le_refl _⟩
    obtain ⟨node, arguments, found⟩ : ∃ node arguments,
        Search.ofTries label.toList .empty (tries label.toList usable roots 0) =
          .found node arguments := Search.ofTries_found_iff.mpr ⟨_, full⟩
    obtain ⟨path, first, rfl, rfl⟩ := Search.isFirst_of_ofTries found
    obtain ⟨_, selected, listed, _, rfl⟩ := command.single_of_tried given first.has.tried
    obtain ⟨_, _, _, alike⟩ := command.labelled.exists_label listed
    exact ⟨_, first, rfl, alike, found⟩
  next hidden =>
    have none_ : tries label.toList usable roots 0 = [] := by
      refine List.eq_nil_iff_forall_not_mem.mpr fun path listed => ?_
      obtain ⟨_, root, member, use, _⟩ := command.single_of_tried given (mem_tries.mp listed)
      obtain ⟨_, _, _, alike⟩ := command.labelled.exists_label member
      exact hidden ((command.byRequirements _ _ alike.requirements).trans use)
    rw [none_]
    rfl

/-- Two paths to the node of one path on the tail ask it the same. -/
theorem askedAlike [Monad m] {sender : Sender m κ}
    (tried : Tried (first.toList ++ ' ' :: rest) usable roots 0 path)
    (tried' : Tried (second.toList ++ ' ' :: rest) usable roots 0 path')
    (below : path.isBelow = true) (below' : path'.isBelow = true)
    (inner : path.inner = core.moved (byteLength first.toList))
    (inner' : path'.inner = core.moved (byteLength second.toList)) :
    path.AskedAlike first second (first.toList ++ ' ' :: rest) (second.toList ++ ' ' :: rest) sender
      path' where
  place := (congrArg Path.address inner).trans (congrArg Path.address inner').symm
  node := (congrArg (fun path => path.last.node) inner).trans
    (congrArg (fun path => path.last.node) inner').symm
  remaining := by
    have starts : path.last.start = (core.moved (byteLength first.toList)).last.start :=
      congrArg (fun path => path.last.start) inner
    have starts' : path'.last.start = (core.moved (byteLength second.toList)).last.start :=
      congrArg (fun path => path.last.start) inner'
    show String.ofList (Offers.remaining _ path.last.start) =
      String.ofList (Offers.remaining _ path'.last.start)
    rw [starts, starts', Path.remaining_moved, Path.remaining_moved]
  start := by
    have starts : path.last.start = byteLength first.toList + core.last.start :=
      congrArg (fun path => path.last.start) inner
    have starts' : path'.last.start = byteLength second.toList + core.last.start :=
      congrArg (fun path => path.last.start) inner'
    show AsFar first second path.last.start path'.last.start
    rw [starts, starts']
    exact asFar_moved first second core.last.start
  arguments := by
    intro name
    show Option.Rel _ ((Attempt.bindAll path.above []).lookup name)
      ((Attempt.bindAll path'.above []).lookup name)
    rw [Attempt.lookup_bindAll, Attempt.lookup_bindAll, Path.deepest?_above command.labelled tried below,
      Path.deepest?_above command.labelled tried' below',
      Attempt.deepest?_of_inner (Path.inner_parts below inner).1,
      Attempt.deepest?_of_inner (Path.inner_parts below' inner').1]
    simpa using Binding.asFar_moved first second (Attempt.deepest? core.above name)

/-- Two lines that differ in the label come to the same behind it. -/
theorem search_alike (firstIn : first ∈ labels) (secondIn : second ∈ labels)
    (ends : Pattern.atBoundary tail = true) :
    Search.Alike first second usable roots (first.toList ++ tail) (second.toList ++ tail)
      (.ofTries (first.toList ++ tail) .empty (tries (first.toList ++ tail) usable roots 0))
      (.ofTries (second.toList ++ tail) .empty (tries (second.toList ++ tail) usable roots 0)) := by
  cases tail with
  | nil =>
    have alone := command.ofTries_of_label firstIn
    have alone' := command.ofTries_of_label secondIn
    rw [List.append_nil, List.append_nil]
    cases use : usable model.clause with
    | false =>
      rw [use] at alone alone'
      rw [show Search.ofTries first.toList _ _ = _ from alone,
        show Search.ofTries second.toList _ _ = _ from alone']
      exact .unknown
    | true =>
      rw [use] at alone alone'
      obtain ⟨path, isFirst, top, alike, found⟩ := alone
      obtain ⟨path', isFirst', top', alike', found'⟩ := alone'
      rw [found, found']
      exact .found isFirst isFirst' (top.trans top'.symm) (alike.symm.trans alike')
        (fun below => absurd top below) fun _ => .none
  | cons c rest =>
    obtain rfl : c = ' ' := of_decide_eq_true ends
    cases outcome : (model.triesBelow usable (' ' :: rest)).find? (Path.endsLine (' ' :: rest)) with
    | some core =>
      obtain ⟨path, isFirst, inner, below, found⟩ := command.ofTries_of_found firstIn outcome
      obtain ⟨path', isFirst', inner', below', found'⟩ := command.ofTries_of_found secondIn outcome
      have node : path.last.node.unnumbered = path'.last.node.unnumbered :=
        (congrArg (fun path => path.last.node) inner).trans
          (congrArg (fun path => path.last.node) inner').symm
      obtain ⟨alike, pattern⟩ := Node.alike_of_unnumbered node
      rw [found, found']
      refine .found isFirst isFirst'
        ((congrArg Path.address inner).trans (congrArg Path.address inner').symm) alike
        (fun _ => pattern) fun name => ?_
      rw [Attempt.lookup_bindAll, Attempt.lookup_bindAll,
        Attempt.deepest?_of_inner (Path.inner_parts below inner).2,
        Attempt.deepest?_of_inner (Path.inner_parts below' inner').2]
      simpa using Binding.asFar_moved first second (Attempt.deepest? core.attempts name)
    | none =>
      rw [command.ofTries_of_missed firstIn outcome, command.ofTries_of_missed secondIn outcome]
      cases ((model.triesBelow usable (' ' :: rest)).filterMap fun path =>
          path.last.failure?).foldl Failure.deeper none with
      | none => exact .unknown
      | some failure => exact .failed (asFar_moved first second failure.position)

end CommandRoots

end Below

/-! ## Lists that correspond -/

/-- A list that is seen as a block several times over falls into as many blocks. -/
theorem exists_blocks {α β : Type} {seen : α → β} {block : List β} {count : Nat} {members : List α}
    (same : members.map seen = (List.replicate count block).flatten) :
    ∃ blocks : List (List α), blocks.flatten = members ∧ blocks.length = count ∧
      ∀ part ∈ blocks, part.map seen = block := by
  induction count generalizing members with
  | zero =>
    obtain rfl := List.map_eq_nil_iff.mp same
    exact ⟨[], rfl, rfl, nofun⟩
  | succ count ih =>
    rw [List.replicate_succ, List.flatten_cons] at same
    obtain ⟨first, others, rfl, here, behind⟩ := List.map_eq_append_iff.mp same
    obtain ⟨blocks, rfl, length, parts⟩ := ih behind
    refine ⟨first :: blocks, rfl, by rw [List.length_cons, length], fun part member => ?_⟩
    rcases List.mem_cons.mp member with rfl | later
    · exact here
    · exact parts part later

/-- Two lists correspond that are seen as one list in two ways. -/
theorem forall₂_of_map_eq {α β γ : Type} {related : α → α → Prop} {seen : α → β} {one other : γ → β}
    {core : List γ} {members members' : List α} (same : members.map seen = core.map one)
    (same' : members'.map seen = core.map other)
    (relate : ∀ member ∈ members, ∀ member' ∈ members', ∀ value, seen member = one value →
      seen member' = other value → related member member') :
    List.Forall₂ related members members' := by
  induction core generalizing members members' with
  | nil =>
    obtain rfl := List.map_eq_nil_iff.mp same
    obtain rfl := List.map_eq_nil_iff.mp same'
    exact .nil
  | cons value rest ih =>
    obtain ⟨first, others, rfl, here, behind⟩ := List.map_eq_cons_iff.mp same
    obtain ⟨first', others', rfl, here', behind'⟩ := List.map_eq_cons_iff.mp same'
    refine .cons (relate _ List.mem_cons_self _ List.mem_cons_self value here here')
      (ih behind behind' fun member listed member' listed' => ?_)
    exact relate member (List.mem_cons_of_mem _ listed) member' (List.mem_cons_of_mem _ listed')

/-! ## Running and completing -/

/-- Two lists of nodes that are asked behind two labels. -/
structure AskedByTurns [Monad m] (labels : List String) (first second : String)
    (line line' : List Char) (sender : Sender m κ) (asked asked' : List (Path m κ ε)) : Prop where
  /-- The same nodes are asked the same, once for each time the label was given. -/
  blocks : ∃ blocks blocks' : List (List (Path m κ ε)), blocks.flatten = asked
    ∧ blocks'.flatten = asked' ∧
    blocks.length = labels.count first ∧ blocks'.length = labels.count second ∧
    ∀ block ∈ blocks, ∀ block' ∈ blocks',
      List.Forall₂ (Path.AskedAlike first second line line' sender) block block'
  /-- If the labels were given equally often, the nodes that are asked correspond one by one. -/
  same : labels.count first = labels.count second →
    List.Forall₂ (Path.AskedAlike first second line line' sender) asked asked'

/-- Behind two labels of a command the same nodes are asked. -/
theorem CommandRoots.askedByTurns [Monad m] {usable : Clause m κ ε → Bool} {model : Node m κ ε}
    {labels : List String} {roots : List (Node m κ ε)} {first second : String} {rest : List Char}
    {sender : Sender m κ} (command : CommandRoots usable model labels roots) (firstIn : first ∈ labels)
    (secondIn : second ∈ labels) :
    AskedByTurns labels first second (first.toList ++ ' ' :: rest) (second.toList ++ ' ' :: rest) sender
      ((tries (first.toList ++ ' ' :: rest) usable roots 0).filter
        (Path.isAsked (first.toList ++ ' ' :: rest)))
      ((tries (second.toList ++ ' ' :: rest) usable roots 0).filter
        (Path.isAsked (second.toList ++ ' ' :: rest))) := by
  have relate : ∀ path ∈ (tries (first.toList ++ ' ' :: rest) usable roots 0).filter
        (Path.isAsked (first.toList ++ ' ' :: rest)),
      ∀ path' ∈ (tries (second.toList ++ ' ' :: rest) usable roots 0).filter
        (Path.isAsked (second.toList ++ ' ' :: rest)),
      ∀ core : Path m κ ε, path.inner = core.moved (byteLength first.toList) →
        path'.inner = core.moved (byteLength second.toList) →
        path.AskedAlike first second (first.toList ++ ' ' :: rest) (second.toList ++ ' ' :: rest) sender
          path' := by
    intro path listed path' listed' core inner inner'
    obtain ⟨tried, asked⟩ := List.mem_filter.mp listed
    obtain ⟨tried', asked'⟩ := List.mem_filter.mp listed'
    exact command.askedAlike (mem_tries.mp tried) (mem_tries.mp tried')
      (isBelow_of_isAsked command.labelled (command.free first firstIn) command.free tried asked)
      (isBelow_of_isAsked command.labelled (command.free second secondIn) command.free tried' asked')
      inner inner'
  have asked : List.map Path.inner ((tries (first.toList ++ ' ' :: rest) usable roots 0).filter _) = _ :=
    command.asked_eq firstIn
  have asked' : List.map Path.inner ((tries (second.toList ++ ' ' :: rest) usable roots 0).filter _) =
    _ := command.asked_eq secondIn
  refine ⟨?_, fun same => ?_⟩
  · obtain ⟨blocks, whole, length, parts⟩ := exists_blocks asked
    obtain ⟨blocks', whole', length', parts'⟩ := exists_blocks asked'
    refine ⟨blocks, blocks', whole, whole', length, length', fun block member block' member' => ?_⟩
    refine forall₂_of_map_eq (parts block member) (parts' block' member') ?_
    intro path listed path' listed'
    exact relate path (whole ▸ List.mem_flatten_of_mem member listed) path'
      (whole' ▸ List.mem_flatten_of_mem member' listed')
  · rw [← List.map_replicate, ← List.map_flatten] at asked asked'
    rw [same] at asked
    exact forall₂_of_map_eq asked asked' relate

namespace Grammar

variable [Monad m] [LawfulMonad m] [DecidableEq κ]

/-- What a command comes to under two of its labels, with the same tail of the line behind them. -/
structure Interchangeable (grammar : Grammar m κ ε) (labels : List String) (first second tail : String)
    (sender : Sender m κ) (usable : Clause m κ ε → Bool) : Prop where
  /-- The lines select the same behind the labels, and are run by what they select: the chains of nodes
  that are alike, or the same error as far behind the labels. -/
  runs : ∃ before after,
    Search.Alike first second usable grammar.roots (first ++ tail).toList (second ++ tail).toList
        before after ∧
      grammar.select (first ++ tail).toList sender = pure before ∧
      grammar.select (second ++ tail).toList sender = pure after ∧
      grammar.execute (first ++ tail) sender = before.run (first ++ tail) sender ∧
      grammar.execute (second ++ tail) sender = after.run (second ++ tail) sender
  /-- When a space follows the labels, completing the lines asks the same. -/
  completes : ∀ rest, tail.toList = ' ' :: rest → ∃ asked asked',
    Asks grammar (first ++ tail) sender usable asked ∧
      Asks grammar (second ++ tail) sender usable asked' ∧
      AskedByTurns labels first second (first ++ tail).toList (second ++ tail).toList sender asked
        asked'

/-- The labels of a command are interchangeable: a line that begins with one of them comes to the same
behind the label as the line that begins with another. -/
theorem labels_interchangeable {grammar : Grammar m κ ε} (none_ : grammar.roots = []) {name : String}
    {aliases : List String} {body : List (Declaration m κ ε ν)}
    (free : ∀ label ∈ name :: aliases, ' ' ∉ label.toList)
    (local_ : ∀ clause ∈ Node.allClauses (grammar.command name aliases body).roots,
      clause.pattern.Local)
    {sender : Sender m κ} {verdict : (Sender m κ → m Bool) → Bool}
    (functions : ∀ clause ∈ Node.allClauses (grammar.command name aliases body).roots,
      ∀ requirement ∈ clause.requirements, requirement sender = pure (verdict requirement))
    {first second : String} (firstIn : first ∈ name :: aliases) (secondIn : second ∈ name :: aliases)
    {tail : String} (ends : tail.toList = [] ∨ ∃ rest, tail.toList = ' ' :: rest) :
    (grammar.command name aliases body).Interchangeable (name :: aliases) first second tail sender
      fun clause => clause.requirements.all verdict := by
  have decided := decided_of_requirements functions
  have command : CommandRoots (fun clause => clause.requirements.all verdict) (model body)
      (name :: aliases) (grammar.command name aliases body).roots :=
    ⟨fun _ _ same => congrArg (List.all · verdict) same, command_alike none_ name aliases body, free,
      local_⟩
  refine ⟨⟨_, _, ?_, select_eq_ofTries decided, select_eq_ofTries decided, ?_, ?_⟩,
    fun rest space => ⟨_, _, asks_tries decided, asks_tries decided, ?_⟩⟩
  · rw [String.toList_append, String.toList_append]
    refine command.search_alike firstIn secondIn ?_
    rcases ends with nothing | ⟨rest, space⟩
    · rw [nothing]
      rfl
    · rw [space]
      rfl
  · rw [execute_eq_run, select_eq_ofTries decided, pure_bind]
  · rw [execute_eq_run, select_eq_ofTries decided, pure_bind]
  · rw [String.toList_append, String.toList_append, space]
    exact command.askedByTurns firstIn secondIn

end Grammar

namespace Sample

/-- What is declared behind "give": a word and behind it a number, and a rest that only operators see. -/
def giving : List (Declaration Journal Unit Empty Unit) :=
  [ .argument "target" .word
      [ .argument "amount" .anyInteger [],
        .argument "everything" .greedy [.require operates] ] ]

/-- The command under its name and an alias that takes more bytes than characters. -/
def given : Grammar Journal Unit Empty :=
  Grammar.empty.command "give" ["übergib"] giving

/-- What the clauses of the command match and require. -/
theorem clause_given : ∀ clause ∈ Node.allClauses given.roots, clause.pattern.isNative = true ∧
    ∀ requirement ∈ clause.requirements, requirement = operates := by
  simp [Node.allClauses, Node.clauses, given, giving, Grammar.empty, Grammar.register, Grammar.draft,
    Grammar.command, Grammar.declare, Declaration.applyAll, Declaration.apply, Declaration.argument,
    Draft.enter, Draft.leave, Builder.root, Builder.start, Builder.child, Builder.require,
    Builder.attach, Builder.build, Pattern.isNative, Form.isNative, Form.anyInteger]

end Sample

/-- Under both of its labels a guest's line fails at the number, four bytes further on behind the longer
one. -/
theorem Grammar.labels_interchangeable_given :
    (Grammar.empty : Grammar Sample.Journal Unit Empty).roots = [] ∧
      (∀ label ∈ ["give", "übergib"], ' ' ∉ label.toList) ∧
      (∀ clause ∈ Node.allClauses Sample.given.roots, clause.pattern.Local) ∧
      (∀ clause ∈ Node.allClauses Sample.given.roots, ∀ requirement ∈ clause.requirements,
        requirement Sample.guest = pure (Sample.answer requirement)) ∧
      "give" ∈ ["give", "übergib"] ∧ "übergib" ∈ ["give", "übergib"] ∧
      (∃ rest, " ann 5x".toList = ' ' :: rest) ∧
      Sample.given.Interchangeable ["give", "übergib"] "give" "übergib" " ann 5x" Sample.guest
        Sample.usable ∧
      ((Sample.given.execute "give ann 5x" Sample.guest).run []).1 =
        .error (.invalidSyntax 9 .expectedSeparator) ∧
      ((Sample.given.execute "übergib ann 5x" Sample.guest).run []).1 =
        .error (.invalidSyntax 13 .expectedSeparator) := by
  have free : ∀ label ∈ ["give", "übergib"], ' ' ∉ label.toList := by decide
  have local_ : ∀ clause ∈ Node.allClauses Sample.given.roots, clause.pattern.Local :=
    fun clause member => Pattern.local_of_isNative (Sample.clause_given clause member).1
  have functions : ∀ clause ∈ Node.allClauses Sample.given.roots,
      ∀ requirement ∈ clause.requirements,
        requirement Sample.guest = pure (Sample.answer requirement) := by
    intro clause member requirement asked
    rw [(Sample.clause_given clause member).2 requirement asked]
    rfl
  have firstIn : "give" ∈ ["give", "übergib"] := by simp
  have secondIn : "übergib" ∈ ["give", "übergib"] := by simp
  have space : ∃ rest, " ann 5x".toList = ' ' :: rest := ⟨_, rfl⟩
  exact ⟨rfl, free, local_, functions, firstIn, secondIn, space,
    labels_interchangeable rfl free local_ functions firstIn secondIn (.inr space), rfl, rfl⟩

namespace Sample

/-- A command of three labels, one of them given twice. -/
def twice : Grammar Journal Unit Empty :=
  Grammar.empty.command "a" ["a", "b"] [(Declaration.literal "x" [] : Declaration _ _ _ Unit)]

/-- The clauses of the command match words and require nothing. -/
theorem clause_twice : ∀ clause ∈ Node.allClauses twice.roots,
    clause.pattern.Local ∧ clause.requirements = [] := by
  simp [Node.allClauses, Node.clauses, twice, Grammar.empty, Grammar.register, Grammar.draft,
    Grammar.command, Grammar.declare, Declaration.applyAll, Declaration.apply, Declaration.literal,
    Draft.enter, Draft.leave, Builder.root, Builder.start, Builder.child, Builder.attach, Builder.build,
    Pattern.Local]

end Sample

/-- A label that was given twice is asked for twice what another label is asked for. -/
theorem Grammar.labels_interchangeable_twice :
    (∀ label ∈ ["a", "a", "b"], ' ' ∉ label.toList) ∧
      (∀ clause ∈ Node.allClauses Sample.twice.roots,
        clause.pattern.Local ∧ clause.requirements = []) ∧
      ¬ ∃ asked asked', Asks Sample.twice "a " Sample.guest Sample.usable asked ∧
        Asks Sample.twice "b " Sample.guest Sample.usable asked' ∧
        List.Forall₂ (Path.AskedAlike "a" "b" "a ".toList "b ".toList Sample.guest) asked asked' := by
  refine ⟨by decide, Sample.clause_twice, ?_⟩
  rintro ⟨asked, asked', asks, asks', alike⟩
  have length : 2 = asked.length :=
    congrArg (fun run : Sample.Journal Nat => (run.run []).1) asks.answers
  have length' : 1 = asked'.length :=
    congrArg (fun run : Sample.Journal Nat => (run.run []).1) asks'.answers
  have same := alike.length_eq
  omega

end CommandGrammar
