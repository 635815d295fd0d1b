import CommandGrammar.Proofs.Accepting
import CommandGrammar.Proofs.Origins
import CommandGrammar.Session.Callbacks

/-!
# Where tokens stand on a line

Every text that a search or a walk looks at is cut off the line at a byte offset, and an offset inside a
character could not be cut at. None of them is: a token starts with the line or directly behind a space
(`BehindSpace`), it ends between two characters and before a space or the end of the line, and the next
one starts one byte behind it. An argument that is bound takes at least one byte, and the position that
an error tells has a space before it.

This is shown of paths first, by one induction along each of them (`Tried.placed`), and then of all that
is tried, bound, asked and refused, which comes from the attempts of paths (`CommandGrammar.Proofs.Origins`).
It is asked of the host's own forms only that they leave the reader on its line, and not before the place
where it stood.
-/

set_option autoImplicit false

namespace CommandGrammar

open Text

variable {m : Type → Type} {κ ε : Type}

/-! ## Forms that go forward -/

/-- The form leaves the reader on the line it was given, at the place where it stood or behind it. -/
structure Form.Advances (form : Form) : Prop where
  keeps : form.KeepsLine
  forward : ∀ reader : Reader, reader.cursor ≤ (form.read reader).2.cursor

/-- A run that is judged is passed over, or the reader stays. -/
theorem Reader.cursor_le_judge {α : Type} (accepts : Char → Bool)
    (verdict : List Char → Except ParseError α) (reader : Reader) :
    reader.cursor ≤ (reader.judge accepts verdict).2.cursor := by
  unfold Reader.judge
  dsimp only
  split
  · show byteLength reader.passed ≤ byteLength (reader.passed ++ _)
    rw [byteLength_append]
    exact Nat.le_add_right _ _
  · exact Nat.le_refl _

/-- The forms of the library go forward. -/
theorem Form.advances_of_isNative {form : Form} (native : form.isNative = true) : form.Advances where
  keeps := form.keepsLine_of_isNative native
  forward := by
    intro reader
    obtain ⟨accepts, verdict, judges⟩ := form.exists_judge_of_isNative native
    rw [judges]
    exact reader.cursor_le_judge accepts verdict

/-- The pattern is a fixed word, or its form goes forward. -/
def Pattern.Advances : Pattern → Prop
  | .literal _ => True
  | .argument _ form => form.Advances

theorem Pattern.Advances.keepsLine {pattern : Pattern} (advances : pattern.Advances) :
    pattern.KeepsLine := by
  cases pattern with
  | literal name => trivial
  | argument name form => exact advances.keeps

theorem Pattern.advances_of_isNative {pattern : Pattern} (native : pattern.isNative = true) :
    pattern.Advances := by
  cases pattern with
  | literal name => trivial
  | argument name form => exact Form.advances_of_isNative native

/-- The forms of the host's own that a forest uses go forward. -/
def Node.ForeignAdvance (nodes : List (Node m κ ε)) : Prop :=
  ∀ clause ∈ Node.allClauses nodes, ∀ name form, clause.pattern = .argument name form →
    form.isNative = false → form.Advances

/-- When the host's own forms go forward, all patterns do. -/
theorem Node.ForeignAdvance.advances {nodes : List (Node m κ ε)} (foreign : Node.ForeignAdvance nodes)
    (clause : Clause m κ ε) (member : clause ∈ Node.allClauses nodes) : clause.pattern.Advances := by
  cases pattern : clause.pattern with
  | literal name => trivial
  | argument name form =>
    cases native : form.isNative with
    | true => exact form.advances_of_isNative native
    | false => exact foreign clause member name form pattern native

/-! ## One token -/

/-- An argument stands on the line: it takes at least one byte, starts and ends between two characters,
and a space or the end of the line follows. -/
structure Binding.Placed (line : List Char) (binding : Binding) : Prop where
  nonempty : binding.start < binding.stop
  stop_le : binding.stop ≤ byteLength line
  start_onBoundary : OnBoundary line binding.start
  ends : ∃ before after, line = before ++ after ∧ byteLength before = binding.stop ∧
    (after = [] ∨ ∃ rest, after = ' ' :: rest)

/-- All of the arguments stand on the line. -/
def Bindings.Placed (line : List Char) (arguments : Bindings) : Prop :=
  ∀ name binding, arguments.lookup name = some binding → binding.Placed line

/-- A token starts with the line, or directly behind a space of it, and the text from there on can be
cut off. -/
structure TokenStart (line : List Char) (start : Nat) : Prop where
  separated : start = 0 ∨ BehindSpace line start
  onBoundary : OnBoundary line start
  le : start ≤ byteLength line
  cuts : ∃ rest, dropBytes? line start = some rest

/-- A failure lies on the line, and directly behind a space. -/
structure Failure.Placed (line : List Char) (failure : Failure) : Prop where
  pos : 1 ≤ failure.position
  le : failure.position ≤ byteLength line
  behindSpace : BehindSpace line failure.position

/-- A node is tried where a token may start, and what it binds stands there. -/
structure Attempt.Placed (line : List Char) (attempt : Attempt m κ ε) : Prop where
  starts : TokenStart line attempt.start
  binds : ∀ binding, attempt.parsed = some binding →
    binding.start = attempt.start ∧ binding.Placed line

/-- Boundaries are offsets of the line at which it can be cut. -/
theorem TokenStart.of_onBoundary {line : List Char} {start : Nat}
    (separated : start = 0 ∨ BehindSpace line start) (onBoundary : OnBoundary line start) :
    TokenStart line start := by
  refine ⟨separated, onBoundary, ?_, ?_⟩
  · obtain ⟨before, after, rfl, rfl⟩ := onBoundary
    rw [byteLength_append]
    exact Nat.le_add_right _ _
  · obtain ⟨before, after, rfl, rfl⟩ := onBoundary
    exact ⟨after, dropBytes?_append before after⟩

/-- A token may start the line. -/
theorem tokenStart_zero (line : List Char) : TokenStart line 0 :=
  .of_onBoundary (.inl rfl) ⟨[], line, rfl, rfl⟩

/-- A token may start behind a space. -/
theorem BehindSpace.tokenStart {line : List Char} {start : Nat} (behind : BehindSpace line start) :
    TokenStart line start :=
  .of_onBoundary (.inr behind) behind.onBoundary

/-- A reader that is set on a boundary stands there. -/
theorem Reader.cursor_atOffset {line : List Char} {start : Nat} (onBoundary : OnBoundary line start) :
    (Reader.atOffset line start).cursor = start := by
  obtain ⟨before, after, rfl, rfl⟩ := onBoundary
  rw [Reader.atOffset_append]
  rfl

/-- A token does not end before it starts. -/
theorem Pattern.start_le_of_consume {pattern : Pattern} {line : List Char} {start stop : Nat}
    {parsed : Option Binding} (advances : pattern.Advances) (starts : OnBoundary line start)
    (takes : pattern.consume line start = .ok (stop, parsed)) : start ≤ stop := by
  cases pattern with
  | literal name =>
    obtain ⟨before, rest, rfl, rfl⟩ := starts
    obtain ⟨_, _, _, rfl, _⟩ := consume_literal_iff.mp takes
    rw [byteLength_append]
    exact Nat.le_add_right _ _
  | argument name form =>
    obtain ⟨value, after, reads, _, _, rfl, _⟩ := consume_argument_iff.mp takes
    have forward := advances.forward (Reader.atOffset line start)
    rwa [Reader.cursor_atOffset starts, reads] at forward

/-- A value that is bound stands where its token started. -/
theorem Pattern.placed_of_consume {pattern : Pattern} {line : List Char} {start stop : Nat}
    {binding : Binding} (advances : pattern.Advances) (starts : OnBoundary line start)
    (takes : pattern.consume line start = .ok (stop, some binding)) :
    binding.start = start ∧ binding.Placed line := by
  have forward := start_le_of_consume advances starts takes
  obtain ⟨before, rest, line_, ends, boundary⟩ := boundary_of_consume advances.keepsLine starts takes
  cases pattern with
  | literal name =>
    obtain ⟨before, rest, rfl, rfl⟩ := starts
    obtain ⟨_, _, _, _, none_⟩ := consume_literal_iff.mp takes
    cases none_
  | argument name form =>
    obtain ⟨value, after, _, some_, _, rfl, same⟩ := consume_argument_iff.mp takes
    cases same
    refine ⟨rfl, Nat.lt_of_le_of_ne forward (Ne.symm some_), ?_, starts, before, rest, line_, ends, ?_⟩
    · rw [line_, byteLength_append]
      exact ends ▸ Nat.le_add_right _ _
    · cases rest with
      | nil => exact .inl rfl
      | cons c text => exact .inr (exists_space boundary (List.cons_ne_nil c text))

/-- A node that is tried where a token may start binds a value that stands there. -/
theorem Attempt.placed_make {line : List Char} {node : Node m κ ε} {start : Nat}
    (advances : node.clause.pattern.Advances) (starts : TokenStart line start) :
    (make line node start).Placed line where
  starts := starts
  binds := by
    intro binding parsed
    cases outcome : node.clause.pattern.consume line start with
    | error reason =>
      rw [make_of_error outcome] at parsed
      cases parsed
    | ok token =>
      obtain ⟨stop, value⟩ := token
      rw [make_of_ok outcome] at parsed ⊢
      cases parsed
      exact Pattern.placed_of_consume advances starts.onBoundary outcome

/-! ## The tokens of a path -/

/-- The token of the second attempt starts one byte behind the end of the first one's. -/
def Attempt.Precedes (first second : Attempt m κ ε) : Prop :=
  ∃ stop parsed, first.outcome = .ok (stop, parsed) ∧ second.start = stop + 1

/-- The tokens of a path stand on the line, the first of them at an offset and each of the others one
byte behind the one before it. -/
structure Path.Placed (line : List Char) (start : Nat) (path : Path m κ ε) : Prop where
  begins : path.attempts.head?.map Attempt.start = some start
  joined : path.attempts.IsChain Attempt.Precedes
  attempts : ∀ attempt ∈ path.attempts, attempt.Placed line
  /-- Below the first node a token has a space before it. -/
  below : path.above ≠ [] → BehindSpace line path.last.start

/-- The tokens of every path stand on the line. -/
theorem Tried.placed {line : List Char} {usable : Clause m κ ε → Bool} {nodes : List (Node m κ ε)}
    {start : Nat} {path : Path m κ ε} (tried : Tried line usable nodes start path)
    (advances : ∀ clause ∈ Node.allClauses nodes, clause.pattern.Advances)
    (starts : TokenStart line start) : path.Placed line start := by
  induction tried with
  | here at_ _ =>
    have member := List.mem_of_getElem? at_
    refine ⟨rfl, .singleton _, ?_, fun none_ => absurd rfl none_⟩
    intro attempt first
    rw [List.mem_singleton.mp first]
    exact Attempt.placed_make (advances _ (Node.clause_mem_allClauses member)) starts
  | @deeper _ start position stop node parsed path at_ _ takes inside _ ih =>
    have member := List.mem_of_getElem? at_
    have own := advances _ (Node.clause_mem_allClauses member)
    have behind : BehindSpace line (stop + 1) :=
      Pattern.behindSpace_next own.keepsLine starts.onBoundary takes inside
    have inner := ih
      (fun clause below => advances clause (Node.allClauses_children_subset member below))
      behind.tokenStart
    refine ⟨rfl, ?_, ?_, ?_⟩
    · -- The first of the children's tokens begins one byte behind the end of the node's.
      show List.IsChain Attempt.Precedes (.make line node start :: path.attempts)
      have begins := inner.begins
      have joined := inner.joined
      cases below : path.attempts with
      | nil => exact .singleton _
      | cons second rest =>
        rw [below] at begins joined
        exact .cons_cons ⟨stop, parsed, takes, Option.some.inj begins⟩ joined
    · intro attempt listed
      rcases List.mem_cons.mp listed with rfl | deeper
      · exact Attempt.placed_make own starts
      · exact inner.attempts attempt deeper
    · intro _
      by_cases single : path.above = []
      · have begins := inner.begins
        rw [Path.attempts, single] at begins
        have same : path.last.start = stop + 1 := Option.some.inj begins
        show BehindSpace line path.last.start
        rw [same]
        exact behind
      · exact inner.below single

/-! ## All that is tried, bound, asked and refused -/

/-- What is noted stands on the line: the token that is tried is the last of a path of such tokens, and
what is asked is asked about such arguments, and from where a token may start. -/
def Event.Placed (line : List Char) (roots : List (Node m κ ε)) : Event m κ ε → Prop
  | .tries attempt =>
    ∃ path, Tried line (fun _ => true) roots 0 path ∧ path.last = attempt ∧ path.Placed line 0
  | .asks query => TokenStart line query.start ∧ Bindings.Placed line query.invocation.arguments

/-- What a search comes to stands on the line. -/
def Search.Placed (line : List Char) : Search m κ ε → Prop
  | .found _ arguments => Bindings.Placed line arguments
  | .missed deepest => ∀ failure, deepest = some failure → failure.Placed line

/-- A form of the host's own that takes two words and the blanks between them goes forward. -/
theorem advances_pairForm : Session.pairForm.Advances where
  keeps := by
    intro reader
    have words : ∀ other : Reader, other.takeWord.2.line = other.line :=
      fun other => other.line_takeRun _
    show reader.takeWord.2.skipBlanks.takeWord.2.line = reader.line
    rw [words, Reader.skipBlanks, Reader.line_takeRun, words]
  forward := by
    intro reader
    have runs : ∀ (accepts : Char → Bool) (other : Reader),
        other.cursor ≤ (other.takeRun accepts).2.cursor := fun accepts other => by
      show byteLength other.passed ≤ byteLength (other.passed ++ _)
      rw [byteLength_append]
      exact Nat.le_add_right _ _
    exact ((runs _ reader).trans (runs _ _)).trans (runs _ _)

/-- A grammar whose words take more than one byte a character, or none at all, and that reads a form of
the host's own. -/
def Sample.placing : Grammar Sample.Journal Unit Empty :=
  { declared := 0
    roots :=
      [ Sample.node "zähle" (.literal "zähle") []
          [ Sample.node "pair" (.argument "pair" Session.pairForm) []
              [Sample.node "nothing" (.literal "") []
                [Sample.node "amount" (.argument "amount" .anyInteger) [] []]] ] ] }

namespace Grammar

variable {grammar : Grammar m κ ε} {line : List Char}

/-- The paths of a grammar stand on their line. -/
theorem placed_of_tried (foreign : Node.ForeignAdvance grammar.roots) {path : Path m κ ε}
    (tried : Tried line (fun _ => true) grammar.roots 0 path) : path.Placed line 0 :=
  tried.placed foreign.advances (tokenStart_zero line)

/-- An attempt of a line is placed. -/
theorem placed_of_attempted (foreign : Node.ForeignAdvance grammar.roots) {attempt : Attempt m κ ε}
    (attempted : Attempted line grammar.roots attempt) : attempt.Placed line := by
  obtain ⟨path, tried, rfl⟩ := attempted
  exact (placed_of_tried foreign tried).attempts path.last (by simp [Path.attempts])

/-- Arguments that were parsed by the attempts of a line stand on it. -/
theorem placed_of_from (foreign : Node.ForeignAdvance grammar.roots) {arguments : Bindings}
    (from_ : Bindings.From (Attempted line grammar.roots) arguments) : arguments.Placed line := by
  intro name binding found
  obtain ⟨attempt, attempted, parsed⟩ := from_ name binding found
  exact ((placed_of_attempted foreign attempted).binds binding parsed).2

/-- The failure of an attempt below a root stands on the line. -/
theorem placed_of_failure_from (foreign : Node.ForeignAdvance grammar.roots) {failure : Failure}
    (from_ : failure.From (AttemptedBelow line grammar.roots)) : failure.Placed line := by
  obtain ⟨attempt, ⟨path, tried, above, rfl⟩, fails⟩ := from_
  have behind := (placed_of_tried foreign tried).below above
  rw [(Attempt.failure?_eq_some_iff.mp fails).1] at behind
  refine ⟨?_, behind.tokenStart.le, behind⟩
  obtain ⟨before, _, _, position⟩ := behind
  exact position ▸ Nat.le_add_left 1 _

/-- What is noted of the attempts of a line stands on it. -/
theorem placed_of_event_from (foreign : Node.ForeignAdvance grammar.roots) (event : Event m κ ε)
    (from_ : event.From (Attempted line grammar.roots)) : event.Placed line grammar.roots := by
  cases event with
  | tries attempt =>
    obtain ⟨path, tried, last⟩ := from_
    exact ⟨path, tried, last, placed_of_tried foreign tried⟩
  | asks query =>
    obtain ⟨arguments, attempt, attempted, starts⟩ := from_
    refine ⟨?_, placed_of_from foreign arguments⟩
    rw [starts]
    exact (placed_of_attempted foreign attempted).starts

variable [Monad m] [LawfulMonad m] [DecidableEq κ]

/-- Running a line and completing it look at the line only where tokens stand. -/
structure PlacesTokens (grammar : Grammar m κ ε) (input : String) (sender : Sender m κ) : Prop where
  /-- Wherever a search tries a node a token may start, and what it finds or misses a node with stands
  on the line. -/
  selects : Notes (Event.Placed input.toList grammar.roots) (Search.Placed input.toList)
    (grammar.select input.toList sender) (grammar.selectNoting input.toList sender)
  /-- So it is when the line is completed, and what is asked is asked about arguments on the line. -/
  completes : Notes (Event.Placed input.toList grammar.roots) (fun _ => True)
    (grammar.complete input sender) (grammar.completeNoting input sender)
  /-- Along every path the first token starts the line, and each of the others one byte behind the end
  of the one before it. -/
  joined : ∀ path, Tried input.toList (fun _ => true) grammar.roots 0 path →
    path.attempts.head?.map Attempt.start = some 0 ∧ path.attempts.IsChain Attempt.Precedes
  /-- Whatever running the line does, the position of an error in it has a space before it. -/
  refuses : ∃ answer : m { result : Except DispatchError (Outcome m) //
      ∀ position reason, result = .error (.invalidSyntax position reason) →
        1 ≤ position ∧ position ≤ byteLength input.toList ∧ BehindSpace input.toList position },
    grammar.execute input sender = Subtype.val <$> answer

/-- When the forms of the host's own go forward on their line, every token that is looked for is looked
for where one may start, whatever the line, the sender and the requirements. -/
theorem tokens_stand_on_line (foreign : Node.ForeignAdvance grammar.roots) (input : String)
    (sender : Sender m κ) : grammar.PlacesTokens input sender where
  selects := by
    refine (grammar.select_notes input.toList sender).imp (placed_of_event_from foreign) ?_
    intro search from_
    cases search with
    | found node arguments =>
      intro name binding found
      obtain ⟨attempt, ⟨path, tried, _, last⟩, parsed⟩ := from_ name binding found
      exact ((placed_of_attempted foreign ⟨path, tried, last⟩).binds binding parsed).2
    | missed deepest => exact fun failure kept => placed_of_failure_from foreign (from_ failure kept)
  completes :=
    (grammar.complete_notes input sender).imp (placed_of_event_from foreign) fun _ => id
  joined := fun path tried =>
    have placed := placed_of_tried foreign tried
    ⟨placed.begins, placed.joined⟩
  refuses := by
    obtain ⟨answer, answers⟩ := grammar.execute_blames input sender
    refine ⟨(fun result => ⟨result.1, fun position reason same => ?_⟩) <$> answer, ?_⟩
    · have placed := placed_of_failure_from foreign (result.2 position reason same)
      exact ⟨placed.pos, placed.le, placed.behindSpace⟩
    · rw [answers, Functor.map_map]

/-- A guest's line has its error behind the two spaces that an empty word stands between. -/
theorem tokens_stand_on_line_placing :
    Node.ForeignAdvance Sample.placing.roots ∧
      Sample.placing.PlacesTokens "zähle ein paar  mal" Sample.guest ∧
      ((Sample.placing.execute "zähle ein paar  mal" Sample.guest).run []).1 =
        .error (.invalidSyntax 17 .expectedInteger) := by
  have foreign : Node.ForeignAdvance Sample.placing.roots := by
    intro clause member name form pattern outer
    simp only [Sample.placing, Sample.node, Node.allClauses, Node.clauses, List.append_nil,
      List.mem_cons, List.not_mem_nil, or_false] at member
    rcases member with rfl | rfl | rfl | rfl
    · cases pattern
    · cases pattern
      exact advances_pairForm
    · cases pattern
    · cases pattern
      cases outer
  exact ⟨foreign, tokens_stand_on_line foreign _ _, rfl⟩

end Grammar

end CommandGrammar
