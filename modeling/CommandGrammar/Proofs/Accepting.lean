import CommandGrammar.Proofs.Asking
import Mathlib.Data.List.TakeWhile

/-!
# A word that is offered can be typed

A completion that asks a fixed word has come to it by tokens that end before the line does, and the
forms of the library read such a token without looking beyond the space behind it: whatever text
stands there, the token is read the same (`Pattern.consume_retold`). The path to the word is therefore
a path of the line that keeps the text before the word and puts the word in the place of the rest
(`Tried.retold`). The word takes that line to its end, and so running the line finds a node.

It does not matter for this what was typed in the place of the word, nor in which case: the word that
is accepted is the one of the grammar. The greedy form reads spaces as well, but then its token ends
with the line, and no word is asked below it.
-/

set_option autoImplicit false

namespace CommandGrammar

open Text

variable {m : Type → Type} {κ ε : Type}

/-! ## A token and what stands behind it -/

/-- A text is cut where its beginning ends. -/
theorem Text.splitAtByte_append_eq (before after : List Char) :
    splitAtByte (byteLength before) (before ++ after) = (before, after) := by
  induction before with
  | nil =>
    cases after with
    | nil => rfl
    | cons c rest =>
      have wide : ¬ c.utf8Size ≤ 0 := Nat.not_le.mpr c.utf8Size_pos
      rw [List.nil_append, byteLength_nil, splitAtByte, if_neg wide]
  | cons c rest ih =>
    have fits : c.utf8Size ≤ byteLength (c :: rest) := by
      rw [byteLength_cons]
      exact Nat.le_add_right _ _
    have left : byteLength (c :: rest) - c.utf8Size = byteLength rest := by
      rw [byteLength_cons, Nat.add_sub_cancel_left]
    rw [List.cons_append, splitAtByte, if_pos fits, left, ih]

/-- A text is cut at an offset in one way. -/
theorem Text.append_inj_of_byteLength {before before' after after' : List Char}
    (same : before ++ after = before' ++ after') (length : byteLength before = byteLength before') :
    before = before' ∧ after = after' := by
  have cut := splitAtByte_append_eq before after
  rw [same, length, splitAtByte_append_eq] at cut
  exact ⟨(congrArg Prod.fst cut).symm, (congrArg Prod.snd cut).symm⟩

/-- A run of a class, and a text that does not go on with the class. -/
structure Text.LongestRun (accepts : Char → Bool) (run rest : List Char) : Prop where
  accepted : ∀ c ∈ run, accepts c = true
  refused : ∀ c ∈ rest.head?, accepts c = false

/-- Every text starts with a longest run of a class. -/
theorem Text.longestRun_takeWhile (accepts : Char → Bool) (text : List Char) :
    LongestRun accepts (text.takeWhile accepts) (text.dropWhile accepts) where
  accepted := fun _ member => List.mem_takeWhile_imp member
  refused := by
    intro c head
    have first := List.head?_dropWhile_not accepts text
    rw [head] at first
    exact first

/-- The longest run is what is taken off a text. -/
theorem Text.LongestRun.takeWhile_append {accepts : Char → Bool} {run rest : List Char}
    (longest : LongestRun accepts run rest) : (run ++ rest).takeWhile accepts = run := by
  rw [List.takeWhile_append_of_pos longest.accepted]
  cases rest with
  | nil => exact List.append_nil run
  | cons c text =>
    rw [List.takeWhile_cons_of_neg (Bool.eq_false_iff.mp (longest.refused c rfl)), List.append_nil]

/-- Behind the longest run the rest is left. -/
theorem Text.LongestRun.dropWhile_append {accepts : Char → Bool} {run rest : List Char}
    (longest : LongestRun accepts run rest) : (run ++ rest).dropWhile accepts = rest := by
  have whole := List.takeWhile_append_dropWhile (p := accepts) (l := run ++ rest)
  rw [longest.takeWhile_append] at whole
  exact List.append_cancel_left whole

/-- Where the longest run of a class ends does not depend on what stands behind the character that ends
it. -/
theorem Reader.takeRun_retold {accepts : Char → Bool} {passed rest text : List Char} {mark : Char}
    (ends : rest.dropWhile accepts = mark :: text) (text' : List Char) :
    Reader.takeRun accepts ⟨passed, rest.takeWhile accepts ++ mark :: text'⟩ =
      (rest.takeWhile accepts, ⟨passed ++ rest.takeWhile accepts, mark :: text'⟩) := by
  have longest : LongestRun accepts (rest.takeWhile accepts) (mark :: text') := by
    have whole := longestRun_takeWhile accepts rest
    rw [ends] at whole
    exact ⟨whole.accepted, whole.refused⟩
  rw [Reader.takeRun]
  dsimp only
  rw [longest.takeWhile_append, longest.dropWhile_append]

/-- A run that is judged, and ends before some character, is judged the same whatever stands behind that
character. -/
theorem Reader.judge_retold {α : Type} {accepts : Char → Bool}
    {verdict : List Char → Except ParseError α} {passed rest text : List Char} {mark : Char}
    {value : α} {after : Reader}
    (judged : Reader.judge accepts verdict ⟨passed, rest⟩ = (.ok value, after))
    (behind : after.rest = mark :: text) :
    ∃ run, rest = run ++ mark :: text ∧ after.passed = passed ++ run ∧
      ∀ text', Reader.judge accepts verdict ⟨passed, run ++ mark :: text'⟩ =
        (.ok value, ⟨passed ++ run, mark :: text'⟩) := by
  unfold Reader.judge at judged
  dsimp only [Reader.takeRun] at judged
  split at judged
  next found accepted =>
    cases judged
    replace behind : rest.dropWhile accepts = mark :: text := behind
    refine ⟨rest.takeWhile accepts, ?_, rfl, fun text' => ?_⟩
    · rw [← behind, List.takeWhile_append_dropWhile]
    · rw [Reader.judge, Reader.takeRun_retold behind]
      dsimp only
      rw [accepted]
  next => cases judged

/-- Every form of the library judges a run of characters of one class. It refuses the empty run, and only
the greedy form takes spaces. -/
theorem Form.exists_strict_judge_of_isNative {form : Form} (native : form.isNative = true) :
    ∃ accepts verdict, form.read = Reader.judge accepts verdict ∧
      (∃ reason, verdict [] = .error reason) ∧ (form ≠ .greedy → accepts ' ' = false) := by
  cases form with
  | foreign description read => cases native
  | word => exact ⟨_, _, rfl, ⟨_, rfl⟩, fun _ => by decide⟩
  | greedy => exact ⟨_, _, rfl, ⟨_, rfl⟩, fun other => absurd rfl other⟩
  | integer low high => exact ⟨_, _, rfl, ⟨_, rfl⟩, fun _ => by decide⟩
  | float low high => exact ⟨_, _, rfl, ⟨_, rfl⟩, fun _ => by decide⟩
  | boolean =>
    exact ⟨_, fun run => (Reader.boolOfRun run).map .bool, rfl, ⟨_, rfl⟩, fun _ => by decide⟩
  | selector => exact ⟨_, _, rfl, ⟨_, rfl⟩, fun _ => by decide⟩

/-- Every form of the library judges a run of characters of one class. -/
theorem Form.exists_judge_of_isNative {form : Form} (native : form.isNative = true) :
    ∃ accepts verdict, form.read = Reader.judge accepts verdict := by
  obtain ⟨accepts, verdict, judges, -⟩ := form.exists_strict_judge_of_isNative native
  exact ⟨accepts, verdict, judges⟩

/-- The pattern is a fixed word, or its form is one of the library's own. -/
def Pattern.isNative : Pattern → Bool
  | .literal _ => true
  | .argument _ form => form.isNative

theorem Pattern.keepsLine_of_isNative {pattern : Pattern} (native : pattern.isNative = true) :
    pattern.KeepsLine := by
  cases pattern with
  | literal name => trivial
  | argument name form => exact Form.keepsLine_of_isNative native

theorem Pattern.exists_space {after : List Char} (ends : atBoundary after = true)
    (more : after ≠ []) : ∃ text, after = ' ' :: text := by
  cases after with
  | nil => exact absurd rfl more
  | cons c text =>
    obtain rfl : c = ' ' := of_decide_eq_true ends
    exact ⟨text, rfl⟩

/-- A fixed word is taken where it stands, with a space or the end of the line behind it. -/
theorem Pattern.consume_literal_iff {name : String} {before rest : List Char} {stop : Nat}
    {parsed : Option Binding} :
    (Pattern.literal name).consume (before ++ rest) (byteLength before) = .ok (stop, parsed) ↔
      ∃ after, rest = name.toList ++ after ∧ atBoundary after = true ∧
        stop = byteLength (before ++ name.toList) ∧ parsed = none := by
  rw [consume, dropBytes?_append, Option.getD_some, byteLength_append]
  constructor
  · intro takes
    split at takes
    next after found =>
      split at takes
      next ends =>
        cases takes
        exact ⟨after, dropStart?_eq_some_iff.mp found, ends, rfl, rfl⟩
      next => cases takes
    next => cases takes
  · rintro ⟨after, found, ends, rfl, rfl⟩
    rw [dropStart?_eq_some_iff.mpr found]
    exact if_pos ends

/-- An argument takes what its form has read, if that is something and ends well. -/
theorem Pattern.consume_argument_iff {name : String} {form : Form} {line : List Char}
    {start stop : Nat} {parsed : Option Binding} :
    (Pattern.argument name form).consume line start = .ok (stop, parsed) ↔
      ∃ value after, form.read (Reader.atOffset line start) = (.ok value, after) ∧
        after.cursor ≠ start ∧ atBoundary after.rest = true ∧ stop = after.cursor ∧
        parsed = some ⟨start, after.cursor, value⟩ := by
  rw [consume]
  constructor
  · intro takes
    split at takes
    next => cases takes
    next value after reads =>
      split at takes
      next => cases takes
      next some_ =>
        split at takes
        next ends =>
          cases takes
          exact ⟨value, after, reads, some_, ends, rfl, rfl⟩
        next => cases takes
  · rintro ⟨value, after, reads, some_, ends, rfl, rfl⟩
    rw [reads]
    dsimp only
    rw [if_neg some_, if_pos ends]

theorem Reader.atOffset_append (before rest : List Char) :
    Reader.atOffset (before ++ rest) (byteLength before) = ⟨before, rest⟩ := by
  rw [Reader.atOffset, splitAtByte_append_eq]

/-- A token that ends before the line does is taken the same whatever stands behind the space that
follows it. -/
theorem Pattern.consume_retold {pattern : Pattern} {before rest : List Char} {stop : Nat}
    {parsed : Option Binding} (native : pattern.isNative = true)
    (takes : pattern.consume (before ++ rest) (byteLength before) = .ok (stop, parsed))
    (inside : stop < byteLength (before ++ rest)) :
    ∃ token text, rest = token ++ ' ' :: text ∧ stop = byteLength (before ++ token) ∧
      ∀ text', pattern.consume (before ++ (token ++ ' ' :: text')) (byteLength before) =
        .ok (stop, parsed) := by
  cases pattern with
  | literal name =>
    obtain ⟨after, rfl, ends, rfl, rfl⟩ := consume_literal_iff.mp takes
    have more : after ≠ [] := by
      rintro rfl
      simp at inside
    obtain ⟨text, rfl⟩ := exists_space ends more
    exact ⟨name.toList, text, rfl, rfl, fun text' =>
      consume_literal_iff.mpr ⟨' ' :: text', rfl, rfl, rfl, rfl⟩⟩
  | argument name form =>
    obtain ⟨value, after, reads, some_, ends, rfl, rfl⟩ := consume_argument_iff.mp takes
    obtain ⟨accepts, verdict, judges⟩ := Form.exists_judge_of_isNative native
    rw [Reader.atOffset_append, judges] at reads
    have more : after.rest ≠ [] := by
      intro none_
      have line_ := Reader.line_judge accepts verdict ⟨before, rest⟩
      rw [reads, Reader.line, none_, List.append_nil] at line_
      have whole : after.cursor = byteLength (before ++ rest) := congrArg byteLength line_
      exact Nat.ne_of_lt inside whole
    obtain ⟨text, behind⟩ := exists_space ends more
    obtain ⟨run, rfl, passed, retold⟩ := Reader.judge_retold reads behind
    have cursor : after.cursor = byteLength (before ++ run) := congrArg byteLength passed
    refine ⟨run, text, rfl, cursor, fun text' => ?_⟩
    rw [cursor] at some_ ⊢
    have again : form.read (Reader.atOffset (before ++ (run ++ ' ' :: text')) (byteLength before)) =
        (.ok value, ⟨before ++ run, ' ' :: text'⟩) := by
      rw [Reader.atOffset_append, judges]
      exact retold text'
    exact consume_argument_iff.mpr ⟨value, _, again, some_, rfl, rfl, rfl⟩

/-! ## A path and what stands behind it -/

/-- A path stays one, down to the same node and by the same tokens, when another text is put in the place
of the one from its last token on. -/
theorem Tried.retold {usable : Clause m κ ε → Bool} {nodes : List (Node m κ ε)}
    {before rest : List Char} {path : Path m κ ε}
    (native : ∀ clause ∈ Node.allClauses nodes, clause.pattern.isNative = true)
    (tried : Tried (before ++ rest) usable nodes (byteLength before) path) :
    ∃ between after, rest = between ++ after ∧
      path.last.start = byteLength (before ++ between) ∧
      ∀ after', ∃ path', Tried (before ++ (between ++ after')) usable nodes (byteLength before) path' ∧
        path'.address = path.address ∧ path'.above = path.above ∧
        path'.last = .make (before ++ (between ++ after')) path.last.node path.last.start := by
  generalize whole : before ++ rest = line at tried
  generalize begins : byteLength before = start at tried
  induction tried generalizing before rest with
  | @here nodes start position node at_ use =>
    refine ⟨[], rest, rfl, ?_, fun after' => ⟨_, .here at_ use, rfl, rfl, rfl⟩⟩
    rw [List.append_nil]
    exact begins.symm
  | @deeper nodes start position stop node parsed path at_ use takes inside _ ih =>
    have member := List.mem_of_getElem? at_
    subst whole begins
    obtain ⟨token, text, rfl, rfl, again⟩ :=
      Pattern.consume_retold (native _ (Node.clause_mem_allClauses member)) takes inside
    -- The children's tokens start behind the space, which belongs to the text that is kept.
    have native' : ∀ clause ∈ Node.allClauses node.children, clause.pattern.isNative = true :=
      fun clause below => native clause (Node.allClauses_children_subset member below)
    have kept : ∀ text' : List Char,
        before ++ token ++ [' '] ++ text' = before ++ (token ++ ' ' :: text') := by
      intro text'
      simp
    have next : byteLength (before ++ token ++ [' ']) = byteLength (before ++ token) + 1 := by
      rw [byteLength_append]
      rfl
    obtain ⟨between, after, rfl, starts, retold⟩ := ih native' (kept text) next
    refine ⟨token ++ ' ' :: between, after, by simp, ?_, fun after' => ?_⟩
    · refine starts.trans (congrArg byteLength ?_)
      exact kept between
    · obtain ⟨path', tried', address, above, last⟩ := retold after'
      have line_ : before ++ (token ++ ' ' :: between ++ after') =
          before ++ token ++ [' '] ++ (between ++ after') := by simp
      have takes' := again (between ++ after')
      rw [← kept, ← line_] at takes'
      rw [← line_] at tried'
      rw [← line_] at last
      have inside' : byteLength (before ++ token) <
          byteLength (before ++ (token ++ ' ' :: between ++ after')) := by
        rw [line_, byteLength_append (before ++ token ++ [' ']) _, next]
        exact Nat.lt_of_lt_of_le (Nat.lt_succ_self _) (Nat.le_add_right _ _)
      refine ⟨path'.under position _, .deeper at_ use takes' inside' tried', ?_, ?_, last⟩
      · exact congrArg (position :: ·) address
      · show _ :: path'.above = _ :: path.above
        rw [above, Attempt.make_of_ok takes', Attempt.make_of_ok takes]

/-! ## Lines that match -/

/-- The line was matched: it was run, or what it selects has no chain. -/
structure Matched (result : Except DispatchError (Outcome m)) : Prop where
  known : ∀ input, result ≠ .error (.unknownCommand input)
  valid : ∀ position reason, result ≠ .error (.invalidSyntax position reason)

theorem matched_incomplete (input : String) :
    Matched (m := m) (.error (.incompleteCommand input)) where
  known := nofun
  valid := nofun

/-- A failure of a handler is none of the line. -/
theorem matched_mapError (result : Except CommandError (Outcome m)) :
    Matched (Except.mapError .execution result) := by
  cases result with
  | ok outcome => exact ⟨nofun, nofun⟩
  | error reason => exact ⟨nofun, nofun⟩

/-- The node at the end of a path is a fixed word without a source of its own, and its name continues
what was typed in its place. -/
structure Path.OffersItself [Monad m] (input : String) (sender : Sender m κ) (path : Path m κ ε)
    (name : String) : Prop where
  pattern : path.last.node.clause.pattern = .literal name
  source : path.last.node.clause.source = none
  offered : name ∈ Completion.matching [name] (path.query input.toList sender []).remaining

/-- A path down to a fixed word is a full path of the line that has the word in the place of the rest.
-/
theorem Tried.fullPath_retold {usable : Clause m κ ε → Bool} {roots : List (Node m κ ε)}
    {line : List Char} {path : Path m κ ε} {name : String}
    (native : ∀ clause ∈ Node.allClauses roots, clause.pattern.isNative = true)
    (tried : Tried line usable roots 0 path)
    (literal : path.last.node.clause.pattern = .literal name) :
    ∃ before rest path', line = before ++ rest ∧ byteLength before = path.last.start ∧
      FullPath (before ++ name.toList) usable roots path' := by
  have tried' : Tried ([] ++ line) usable roots (byteLength []) path := tried
  obtain ⟨before, rest, line_, starts, retold⟩ := tried'.retold native
  rw [List.nil_append] at starts
  obtain ⟨path', again, -, -, last⟩ := retold name.toList
  rw [List.nil_append, starts] at last
  refine ⟨before, rest, path', line_, starts.symm, again, ?_⟩
  have takes : path'.last.outcome = .ok (byteLength (before ++ name.toList), none) := by
    rw [last, Attempt.make, literal]
    exact Pattern.consume_literal_iff.mpr ⟨[], (List.append_nil _).symm, rfl, rfl, rfl⟩
  exact ⟨_, _, takes, Nat.le_refl _⟩

/-- The forms of the sample grammar are the library's own. -/
theorem Sample.native :
    ∀ clause ∈ Node.allClauses Sample.grammar.roots, clause.pattern.isNative = true := by
  simp [Node.allClauses, Node.clauses, Sample.grammar, Sample.node, Pattern.isNative,
    Form.isNative, Form.anyInteger]

namespace Grammar

variable [Monad m] [LawfulMonad m] [DecidableEq κ] {grammar : Grammar m κ ε} {input : String}
  {sender : Sender m κ} {usable : Clause m κ ε → Bool} {path : Path m κ ε}

/-- The line selects a node, and whatever running it answers, it is not that the line does not match.
-/
structure Accepts (grammar : Grammar m κ ε) (input : String) (sender : Sender m κ) : Prop where
  selects : ∃ node arguments, grammar.select input.toList sender = pure (.found node arguments)
  answers : ∃ answer : m { result : Except DispatchError (Outcome m) // Matched result },
    grammar.execute input sender = Subtype.val <$> answer

/-- A line with a full path is accepted. -/
theorem accepts_of_fullPath (decided : Decided sender usable grammar.roots)
    (full : FullPath input.toList usable grammar.roots path) : grammar.Accepts input sender := by
  obtain ⟨node, arguments, found⟩ : ∃ node arguments,
      Search.ofTries input.toList .empty (tries input.toList usable grammar.roots 0) =
        .found node arguments :=
    Search.ofTries_found_iff.mpr ⟨path, full⟩
  have selects : grammar.select input.toList sender = _ := select_eq_ofTries decided
  rw [found] at selects
  refine ⟨⟨node, arguments, selects⟩, ?_⟩
  rw [execute_of_found selects]
  cases node.clause.chain with
  | none =>
    refine ⟨pure ⟨_, matched_incomplete input⟩, ?_⟩
    rw [map_pure]
  | some chain =>
    refine ⟨(fun result => ⟨_, matched_mapError result⟩) <$> chain.run sender input arguments, ?_⟩
    rw [← comp_map]
    rfl

/-- What a completion asks, and that every fixed word it comes to is accepted: the line up to where
the word was asked, and then the word, matches. -/
structure AcceptsWhatItAsks (grammar : Grammar m κ ε) (input : String) (sender : Sender m κ)
    (usable : Clause m κ ε → Bool) (asked : List (Path m κ ε)) : Prop where
  asks : Asks grammar input sender usable asked
  accepts : ∀ path ∈ asked, ∀ name, path.OffersItself input sender name →
    ∃ before rest, input.toList = before ++ rest ∧ byteLength before = path.last.start ∧
      grammar.Accepts (String.ofList before ++ name) sender

/-- A word that a completion comes to can be typed in the place of what was typed there. -/
theorem accepts_asked_words (decided : Decided sender usable grammar.roots)
    (native : ∀ clause ∈ Node.allClauses grammar.roots, clause.pattern.isNative = true) :
    ∃ asked, grammar.AcceptsWhatItAsks input sender usable asked := by
  refine ⟨_, asks_tries decided, fun path member name offers => ?_⟩
  have tried := mem_tries.mp (List.mem_filter.mp member).1
  obtain ⟨before, rest, path', line_, starts, full⟩ := tried.fullPath_retold native offers.pattern
  have typed : (String.ofList before ++ name).toList = before ++ name.toList := by
    rw [String.toList_append, String.toList_ofList]
  rw [← typed] at full
  exact ⟨before, rest, line_, starts, accepts_of_fullPath decided full⟩

/-- A guest who has typed "tell AL" is offered the word "all", and the line "tell all" is accepted. -/
theorem accepts_asked_words_all :
    Decided Sample.guest Sample.usable Sample.grammar.roots ∧
      (∀ clause ∈ Node.allClauses Sample.grammar.roots, clause.pattern.isNative = true) ∧
      ∃ asked, Sample.grammar.AcceptsWhatItAsks "tell AL" Sample.guest Sample.usable asked ∧
        ∃ path ∈ asked, path.last.start = 5 ∧ path.OffersItself "tell AL" Sample.guest "all" := by
  obtain ⟨asked, accepts⟩ : ∃ asked,
      Sample.grammar.AcceptsWhatItAsks "tell AL" Sample.guest Sample.usable asked :=
    accepts_asked_words Sample.decided Sample.native
  have tried : Tried "tell AL".toList Sample.usable Sample.grammar.roots 0
      (.under 2 _ (.single 1 _)) :=
    .deeper rfl rfl rfl (by decide) (.here rfl rfl)
  have listed := (accepts.asks.mem_iff _).mpr ⟨tried, .inr ⟨⟨_, rfl⟩, by decide⟩⟩
  exact ⟨Sample.decided, Sample.native, asked, accepts, _, listed, rfl, rfl, rfl, by decide⟩

end Grammar

end CommandGrammar
