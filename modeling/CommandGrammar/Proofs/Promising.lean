import CommandGrammar.Proofs.Accepting
import CommandGrammar.Proofs.Taking

/-!
# What the grammar promises its handlers

A handler that is declared below an argument counts on the value of this argument: it asks for the raw
value as the kind of value that the form of the argument reads, and does not expect to be refused. The
promise is kept by three facts. A form of the library that reads anything reads a value that fits it
(`Form.Fits`); each argument of a full path has read one, and recorded where its text stands
(`Tried.kept`); and what a name is bound to at the end of the path is what the deepest argument of
this name has read there (`Attempt.deepest?_of_split`).

Names may repeat along a path, with different forms, and then the deepest one hides the others. Branches
that were left again bind nothing: a name that only such a branch has is missing
(`CommandGrammar.Proofs.Taking`). It does not matter what the requirements of the host do.
-/

set_option autoImplicit false

namespace CommandGrammar

open Text

variable {m : Type → Type} {κ ε : Type}

/-! ## What a form reads -/

/-- The kind of the raw values that a form reads. Of a form of the host's own none is known. -/
def Form.kind? : Form → Option RawKind
  | .word | .greedy | .selector => some .string
  | .integer .. => some .integer
  | .float .. => some .float
  | .boolean => some .boolean
  | .foreign .. => none

/-- A raw value is one that a form of the library reads out of a text: of its kind, between its bounds,
and, if it is a text, the very text that was read, which is not empty. -/
def Form.Fits (form : Form) (text : List Char) (value : Raw) : Prop :=
  match form with
  | .word | .greedy | .selector => value = .text (String.ofList text) ∧ text ≠ []
  | .integer low high => ∃ number, value = .int number ∧ low ≤ number ∧ number ≤ high
  | .float low high => ∃ number, value = .float number ∧ ¬ number < low ∧ ¬ high < number
  | .boolean => ∃ truth, value = .bool truth
  | .foreign .. => False

/-- The run of a class that is judged well is passed over. -/
theorem Reader.judge_eq_ok_iff {α : Type} {accepts : Char → Bool}
    {verdict : List Char → Except ParseError α} {reader after : Reader} {value : α} :
    reader.judge accepts verdict = (.ok value, after) ↔
      verdict (reader.rest.takeWhile accepts) = .ok value ∧
        after = ⟨reader.passed ++ reader.rest.takeWhile accepts, reader.rest.dropWhile accepts⟩ := by
  unfold Reader.judge
  dsimp only [Reader.takeRun]
  cases verdict (reader.rest.takeWhile accepts) with
  | error reason => exact ⟨nofun, nofun⟩
  | ok found =>
    constructor
    · rintro ⟨⟩
      exact ⟨rfl, rfl⟩
    · rintro ⟨⟨⟩, rfl⟩
      rfl

/-- A text that is read is the run that it was read from, which must not be empty. -/
theorem Form.textOfRun_eq_ok_iff {run : List Char} {value : Raw} :
    textOfRun run = .ok value ↔ value = .text (String.ofList run) ∧ run ≠ [] := by
  cases run with
  | nil => exact ⟨nofun, fun some_ => absurd rfl some_.2⟩
  | cons first rest =>
    constructor
    · rintro ⟨⟩
      exact ⟨rfl, nofun⟩
    · rintro ⟨rfl, _⟩
      rfl

/-- An integer that is read lies between the bounds. -/
theorem Form.boundedInt_eq_ok {low high : Int32} {run : List Char} {value : Raw}
    (reads : boundedInt low high run = .ok value) :
    ∃ number, value = .int number ∧ low ≤ number ∧ number ≤ high := by
  unfold boundedInt at reads
  split at reads
  next => cases reads
  next number found =>
    split at reads
    · cases reads
    next notLow =>
      split at reads
      · cases reads
      next notHigh =>
        cases reads
        exact ⟨number, rfl, Int32.not_lt.mp notLow, Int32.not_lt.mp notHigh⟩

/-- A float that is read lies between the bounds. -/
theorem Form.boundedFloat_eq_ok {low high : Float} {run : List Char} {value : Raw}
    (reads : boundedFloat low high run = .ok value) :
    ∃ number, value = .float number ∧ ¬ number < low ∧ ¬ high < number := by
  unfold boundedFloat at reads
  split at reads
  next => cases reads
  next number found =>
    split at reads
    · cases reads
    next notLow =>
      split at reads
      · cases reads
      next notHigh =>
        cases reads
        exact ⟨number, rfl, notLow, notHigh⟩

/-- What is read as a truth value is one. -/
theorem Form.truth_of_map_eq_ok {read : Except ParseError Bool} {value : Raw}
    (reads : read.map .bool = .ok value) : ∃ truth, value = .bool truth := by
  cases read with
  | error reason => cases reads
  | ok truth =>
    cases reads
    exact ⟨truth, rfl⟩

/-- What a form of the library reads fits it, and the text it was read from is passed over. -/
theorem Form.fits_of_read {form : Form} {reader after : Reader} {value : Raw}
    (native : form.isNative = true) (reads : form.read reader = (.ok value, after)) :
    ∃ text, form.Fits text value ∧ after.passed = reader.passed ++ text ∧
      reader.rest = text ++ after.rest := by
  have parts : ∀ {accepts : Char → Bool},
      reader.rest = reader.rest.takeWhile accepts ++ reader.rest.dropWhile accepts :=
    List.takeWhile_append_dropWhile.symm
  cases form with
  | foreign description read => cases native
  | word | greedy | selector =>
    obtain ⟨found, rfl⟩ := Reader.judge_eq_ok_iff.mp reads
    exact ⟨_, textOfRun_eq_ok_iff.mp found, rfl, parts⟩
  | integer low high =>
    obtain ⟨found, rfl⟩ := Reader.judge_eq_ok_iff.mp reads
    exact ⟨_, boundedInt_eq_ok found, rfl, parts⟩
  | float low high =>
    obtain ⟨found, rfl⟩ := Reader.judge_eq_ok_iff.mp reads
    exact ⟨_, boundedFloat_eq_ok found, rfl, parts⟩
  | boolean =>
    replace reads : reader.judge Reader.isWordChar (fun run => (Reader.boolOfRun run).map Raw.bool) =
        (.ok value, after) := reads
    obtain ⟨found, rfl⟩ := Reader.judge_eq_ok_iff.mp reads
    exact ⟨_, truth_of_map_eq_ok found, rfl, parts⟩

/-! ## What the arguments of a path record -/

/-- The text stands on the line, from one byte offset to another. -/
def Text.Spans (line : List Char) (start stop : Nat) (text : List Char) : Prop :=
  ∃ before after, line = before ++ text ++ after ∧ byteLength before = start ∧
    byteLength (before ++ text) = stop

/-- The binding is what a form has read out of the text of the line at the recorded range. -/
def Binding.Records (line : List Char) (form : Form) (binding : Binding) : Prop :=
  ∃ text, form.Fits text binding.value ∧ Spans line binding.start binding.stop text

/-- An argument that is taken records what its form has read. -/
theorem Pattern.records_of_consume {name : String} {form : Form} {line : List Char}
    {start stop : Nat} {parsed : Option Binding} (native : form.isNative = true)
    (starts : OnBoundary line start)
    (takes : (Pattern.argument name form).consume line start = .ok (stop, parsed)) :
    ∃ binding, parsed = some binding ∧ binding.Records line form := by
  obtain ⟨value, after, reads, _, _, _, rfl⟩ := consume_argument_iff.mp takes
  obtain ⟨before, rest, rfl, rfl⟩ := starts
  rw [Reader.atOffset_append] at reads
  obtain ⟨text, fits, passed, rest_⟩ := form.fits_of_read native reads
  replace passed : after.passed = before ++ text := passed
  replace rest_ : rest = text ++ after.rest := rest_
  refine ⟨_, rfl, text, fits, before, after.rest, ?_, rfl, ?_⟩
  · rw [rest_, List.append_assoc]
  · rw [← passed]
    rfl

/-- What the attempt of a node binds: an argument has recorded what its form has read, and a fixed word
binds nothing. -/
structure Attempt.Kept (line : List Char) (attempt : Attempt m κ ε) : Prop where
  argument : ∀ name form, attempt.node.clause.pattern = .argument name form →
    ∃ binding, attempt.parsed = some binding ∧ binding.Records line form
  literal : attempt.node.clause.pattern.isLiteral = true → attempt.parsed = none

/-- A node of the library's own forms that matches where a token may start keeps what it has read. -/
theorem Attempt.kept_of_consume {line : List Char} {node : Node m κ ε} {start stop : Nat}
    {parsed : Option Binding} (native : node.clause.pattern.isNative = true)
    (starts : OnBoundary line start)
    (takes : node.clause.pattern.consume line start = .ok (stop, parsed)) :
    (Attempt.make line node start).Kept line where
  argument := by
    intro name form pattern
    rw [make_of_ok takes]
    rw [show node.clause.pattern = .argument name form from pattern] at native takes
    exact Pattern.records_of_consume native starts takes
  literal := fun literal => parsed_make_of_isLiteral literal line start

/-- Every attempt of a path that takes the line to its end keeps what it has read. -/
theorem Tried.kept {line : List Char} {usable : Clause m κ ε → Bool} {nodes : List (Node m κ ε)}
    {start : Nat} {path : Path m κ ε} (tried : Tried line usable nodes start path)
    (native : ∀ clause ∈ Node.allClauses nodes, clause.pattern.isNative = true)
    (starts : OnBoundary line start) (ends : path.endsLine line = true) :
    ∀ attempt ∈ path.attempts, attempt.Kept line := by
  induction tried with
  | @here nodes start position node at_ _ =>
    intro attempt listed
    rw [List.mem_singleton.mp listed]
    obtain ⟨stop, parsed, takes, _⟩ := Attempt.endsLine_eq_true_iff.mp ends
    exact Attempt.kept_of_consume
      (native _ (Node.clause_mem_allClauses (List.mem_of_getElem? at_))) starts takes
  | @deeper nodes start position stop node parsed path at_ _ takes inside _ ih =>
    have member := List.mem_of_getElem? at_
    have own := native _ (Node.clause_mem_allClauses member)
    have next : OnBoundary line (stop + 1) :=
      (Pattern.behindSpace_next (Pattern.keepsLine_of_isNative own) starts takes inside).onBoundary
    intro attempt listed
    rcases List.mem_cons.mp listed with rfl | deeper
    · exact Attempt.kept_of_consume own starts takes
    · exact ih (fun clause below => native clause (Node.allClauses_children_subset member below))
        next ends attempt deeper

/-! ## The deepest argument of a name -/

/-- The node is an argument of a name. -/
def Node.BindsName (node : Node m κ ε) (id : String) : Prop :=
  ∃ form, node.clause.pattern = .argument id form

namespace Attempt

variable {line : List Char} {id : String}

/-- A node that is no argument of the name binds nothing to it. -/
theorem Kept.silent {attempt : Attempt m κ ε} (kept : attempt.Kept line)
    (other : ¬ attempt.node.BindsName id) :
    (if attempt.node.name = id then attempt.parsed else none) = none := by
  split
  next same =>
    cases pattern : attempt.node.clause.pattern with
    | literal name => exact kept.literal (by rw [pattern]; rfl)
    | argument name form =>
      have name_ : attempt.node.name = name := by rw [Node.name, pattern]; rfl
      obtain rfl : name = id := name_.symm.trans same
      exact absurd ⟨form, pattern⟩ other
  next => rfl

/-- Attempts none of which is an argument of the name bind nothing to it. -/
theorem deepest?_eq_none {attempts : List (Attempt m κ ε)}
    (kept : ∀ attempt ∈ attempts, attempt.Kept line)
    (others : ∀ attempt ∈ attempts, ¬ attempt.node.BindsName id) : deepest? attempts id = none := by
  induction attempts with
  | nil => rfl
  | cons first rest ih =>
    rw [deepest?_cons, (kept first List.mem_cons_self).silent (others first List.mem_cons_self),
      Option.or_none]
    exact ih (fun attempt member => kept attempt (List.mem_cons_of_mem _ member))
      (fun attempt member => others attempt (List.mem_cons_of_mem _ member))

/-- A name has the value of an argument below which no other one has the name. -/
theorem deepest?_of_split {above below : List (Attempt m κ ε)} {attempt : Attempt m κ ε}
    (kept : ∀ other ∈ above ++ attempt :: below, other.Kept line)
    (named : attempt.node.BindsName id)
    (others : ∀ other ∈ below, ¬ other.node.BindsName id) :
    deepest? (above ++ attempt :: below) id = attempt.parsed := by
  obtain ⟨form, pattern⟩ := named
  have own : attempt.node.name = id := by rw [Node.name, pattern]; rfl
  obtain ⟨binding, parsed, _⟩ :=
    (kept attempt (List.mem_append_right _ List.mem_cons_self)).argument id form pattern
  induction above with
  | nil =>
    rw [List.nil_append, deepest?_cons, if_pos own,
      deepest?_eq_none (fun other member => kept other (List.mem_cons_of_mem _ member)) others,
      Option.none_or]
  | cons first rest ih =>
    rw [List.cons_append, deepest?_cons,
      ih fun other member => kept other (List.mem_cons_of_mem _ member), parsed, Option.some_or]

end Attempt

/-! ## What the readers of an invocation answer -/

namespace Invocation

/-- The reader of a kind of raw values refuses to read an argument. -/
def Refuses (invocation : Invocation m κ ε) (id : String) (error : CommandError) : RawKind → Prop
  | .integer => invocation.int id = .error error
  | .float => invocation.float id = .error error
  | .boolean => invocation.bool id = .error error
  | .string => invocation.text id = .error error

/-- The reader of the kind of values that a form reads gives a value that the form allows for: between
its bounds, or the text of the line at the range that is recorded. -/
def Hands (invocation : Invocation m κ ε) (line : List Char) (id : String) : Form → Prop
  | .integer low high => ∃ number, invocation.int id = .ok number ∧ low ≤ number ∧ number ≤ high
  | .float low high =>
    ∃ number, invocation.float id = .ok number ∧ ¬ number < low ∧ ¬ high < number
  | .boolean => ∃ truth, invocation.bool id = .ok truth
  | .word | .greedy | .selector =>
    ∃ text binding, invocation.text id = .ok text ∧ text ≠ "" ∧
      invocation.parsed? id = some binding ∧
      Spans line binding.start binding.stop text.toList
  | .foreign .. => False

/-- What an invocation answers about the arguments of some attempts, from the first one down. -/
structure Serves (invocation : Invocation m κ ε) (line : List Char)
    (attempts : List (Attempt m κ ε)) : Prop where
  /-- The deepest argument of a name is handed over as the kind of value that its form reads, and as no
  other kind. -/
  hands : ∀ above attempt below id form, attempts = above ++ attempt :: below →
    attempt.node.clause.pattern = .argument id form →
    (∀ other ∈ below, ¬ other.node.BindsName id) →
    invocation.Hands line id form ∧
      ∀ kind, form.kind? ≠ some kind → invocation.Refuses id (.argumentType id kind) kind
  /-- A name that no argument has is missing, whatever kind of value is asked for. -/
  misses : ∀ id, (∀ attempt ∈ attempts, ¬ attempt.node.BindsName id) →
    ∀ kind, invocation.Refuses id (.missingArgument id) kind

variable {invocation : Invocation m κ ε} {line : List Char} {id : String} {form : Form}
  {binding : Binding}

/-- Without a binding every reader refuses. -/
theorem refuses_of_missing (missing : invocation.parsed? id = none) (kind : RawKind) :
    invocation.Refuses id (.missingArgument id) kind := by
  have raw : invocation.raw? id = none := by rw [raw?, missing]; rfl
  cases kind <;> (unfold Refuses; simp only [int, float, bool, text, rawAs, raw])

/-- What a form has recorded is handed over, as the kind of value that the form reads. -/
theorem hands_of_records (found : invocation.parsed? id = some binding)
    (records : binding.Records line form) :
    invocation.Hands line id form ∧
      ∀ kind, form.kind? ≠ some kind → invocation.Refuses id (.argumentType id kind) kind := by
  obtain ⟨text, fits, stands⟩ := records
  have raw : invocation.raw? id = some binding.value := by rw [raw?, found]; rfl
  -- Reading looks at nothing but the value, so that one case for each form remains.
  cases form with
  | foreign description read => exact fits.elim
  | word | greedy | selector =>
    obtain ⟨value, some_⟩ := fits
    rw [value] at raw
    refine ⟨⟨String.ofList text, binding, ?_, ?_, found, ?_⟩, ?_⟩
    · simp only [Invocation.text, rawAs, raw, Raw.text?]
    · intro empty
      exact some_ (by simpa using congrArg String.toList empty)
    · rwa [String.toList_ofList]
    · intro kind other
      cases kind with
      | string => exact absurd rfl other
      | _ => unfold Refuses; simp only [int, float, bool, rawAs, raw, Raw.int?, Raw.float?, Raw.bool?]
  | integer low high =>
    obtain ⟨number, value, bounds⟩ := fits
    rw [value] at raw
    refine ⟨⟨number, ?_, bounds⟩, ?_⟩
    · simp only [int, rawAs, raw, Raw.int?]
    · intro kind other
      cases kind with
      | integer => exact absurd rfl other
      | _ =>
        unfold Refuses
        simp only [float, bool, Invocation.text, rawAs, raw, Raw.float?, Raw.bool?, Raw.text?]
  | float low high =>
    obtain ⟨number, value, bounds⟩ := fits
    rw [value] at raw
    refine ⟨⟨number, ?_, bounds⟩, ?_⟩
    · simp only [Invocation.float, rawAs, raw, Raw.float?]
    · intro kind other
      cases kind with
      | float => exact absurd rfl other
      | _ =>
        unfold Refuses
        simp only [int, bool, Invocation.text, rawAs, raw, Raw.int?, Raw.bool?, Raw.text?]
  | boolean =>
    obtain ⟨truth, value⟩ := fits
    rw [value] at raw
    refine ⟨⟨truth, ?_⟩, ?_⟩
    · simp only [Invocation.bool, rawAs, raw, Raw.bool?]
    · intro kind other
      cases kind with
      | boolean => exact absurd rfl other
      | _ =>
        unfold Refuses
        simp only [int, Invocation.float, Invocation.text, rawAs, raw, Raw.int?, Raw.float?,
          Raw.text?]

/-- An invocation whose arguments are what some attempts bind serves their arguments. -/
theorem serves_of_kept {attempts : List (Attempt m κ ε)}
    (kept : ∀ attempt ∈ attempts, attempt.Kept line)
    (bound : ∀ id, invocation.parsed? id = Attempt.deepest? attempts id) :
    invocation.Serves line attempts where
  hands := by
    rintro above attempt below id form rfl pattern others
    obtain ⟨binding, parsed, records⟩ :=
      (kept attempt (List.mem_append_right _ List.mem_cons_self)).argument id form pattern
    refine hands_of_records ?_ records
    rw [bound, Attempt.deepest?_of_split kept ⟨form, pattern⟩ others, parsed]
  misses := by
    intro id others
    refine refuses_of_missing ?_
    rw [bound, Attempt.deepest?_eq_none kept others]

end Invocation

/-! ## Lines that are run -/

/-- Writes down what the readers answer about two names. -/
def Sample.report (invocation : Invocation Sample.Journal Unit Empty) :
    Sample.Journal (Except CommandError Bool) := do
  let told {α : Type} (show_ : α → String) : Except CommandError α → String
    | .ok value => show_ value
    | .error error => error.message
  modify (· ++
    [ told id (invocation.text "value"),
      told showInt (invocation.int "value"),
      told showInt (invocation.int "spare") ])
  return .ok true

/-- A number and then a word have one name, and what is read as spare leads to a word that is not typed.
-/
def Sample.shadowing : Grammar Sample.Journal Unit Empty :=
  { declared := 0
    roots :=
      [ Sample.node "set" (.literal "set") []
          [ Sample.node "spare" (.argument "spare" .anyInteger) []
              [Sample.node "off" (.literal "off") [] []],
            Sample.node "number" (.argument "value" .anyInteger) []
              [ .mk
                  { pattern := .argument "value" .word, requirements := [], source := none
                    mappers := [], chain := some ⟨[⟨.anyone, 0, .direct Sample.report⟩], []⟩ }
                  [] ] ] ] }

theorem Sample.shadowing_native :
    ∀ clause ∈ Node.allClauses Sample.shadowing.roots, clause.pattern.isNative = true := by
  simp [Node.allClauses, Node.clauses, Sample.shadowing, Sample.node, Pattern.isNative,
    Form.isNative, Form.anyInteger]

/-- Everybody may use what leads to a number and a word. -/
theorem Sample.shadowing_decided :
    Decided Sample.guest (fun _ => true) Sample.shadowing.roots := by
  have open_ : ∀ clause ∈ Node.allClauses Sample.shadowing.roots, clause.requirements = [] := by
    simp [Node.allClauses, Node.clauses, Sample.shadowing, Sample.node]
  intro clause member
  rw [Clause.allows, open_ clause member]
  rfl

/-- What a search comes to keeps the promise of the grammar: a node with a chain is the end of a path, its
chain is run on an invocation, and the invocation serves the arguments of the path below its root, and so
all of its arguments if it starts with a fixed word. -/
def Search.Promised [Monad m] [DecidableEq κ] (input : String) (sender : Sender m κ)
    (holds : Path m κ ε → Prop) (search : Search m κ ε) : Prop :=
  ∀ node arguments chain, search = .found node arguments → node.clause.chain = some chain →
    let invocation := Invocation.of sender input arguments chain.mappers
    search.run input sender = Except.mapError .execution <$> chain.runWith invocation ∧
      ∃ path, holds path ∧ path.last.node = node ∧
        invocation.Serves input.toList path.attempts.tail ∧
        (path.StartsFixed → invocation.Serves input.toList path.attempts)

/-- A search that comes to the end of a full path, with what the path binds below its root, keeps the
promise. -/
theorem Search.promised_of_bound [Monad m] [DecidableEq κ] {input : String} {sender : Sender m κ}
    {usable : Clause m κ ε → Bool} {roots : List (Node m κ ε)} {holds : Path m κ ε → Prop}
    {path : Path m κ ε} (native : ∀ clause ∈ Node.allClauses roots, clause.pattern.isNative = true)
    (full : FullPath input.toList usable roots path) (held : holds path) :
    Search.Promised input sender holds
      (.found path.last.node (Attempt.bindAll path.attempts.tail [])) := by
  rintro node arguments chain ⟨⟩ runs
  have kept := full.tried.kept native ⟨[], input.toList, rfl, rfl⟩ (fullPath_iff.mp full).2
  have values : ∀ id, (Invocation.of sender input (Attempt.bindAll path.attempts.tail [])
      chain.mappers).parsed? id = Attempt.deepest? path.attempts.tail id := by
    intro id
    show (Attempt.bindAll path.attempts.tail []).lookup id = _
    rw [Attempt.lookup_bindAll]
    exact Option.or_none
  refine ⟨?_, path, held, rfl, ?_, ?_⟩
  · unfold Search.run
    dsimp only
    rw [runs]
    rfl
  · exact Invocation.serves_of_kept
      (fun attempt deeper => kept attempt (List.mem_of_mem_tail deeper)) values
  · intro fixed
    refine Invocation.serves_of_kept kept fun id => ?_
    rw [values, full.deepest?_tail fixed]

namespace Grammar

variable [Monad m] [LawfulMonad m] [DecidableEq κ] {grammar : Grammar m κ ε}

/-- Whatever a line selects keeps the promise of the grammar. -/
theorem select_promised
    (native : ∀ clause ∈ Node.allClauses grammar.roots, clause.pattern.isNative = true)
    (input : String) (sender : Sender m κ) :
    Yields (Search.Promised input sender (FullPath input.toList (fun _ => true) grammar.roots))
      (grammar.select input.toList sender) := by
  refine (grammar.select_took input.toList sender).imp fun search took => ?_
  cases search with
  | missed deepest => exact nofun
  | found node arguments =>
    obtain ⟨path, tried, ends, rfl, rfl⟩ := took node arguments rfl
    have full := fullPath_iff.mpr ⟨mem_tries.mpr tried, ends⟩
    exact Search.promised_of_bound native full full

/-- Where the requirements are functions of the sender, the promise is about the first full path. -/
theorem select_promised_of_decided {input : String} {sender : Sender m κ}
    {usable : Clause m κ ε → Bool}
    (native : ∀ clause ∈ Node.allClauses grammar.roots, clause.pattern.isNative = true)
    (decided : Decided sender usable grammar.roots) :
    ∃ search, grammar.select input.toList sender = pure search ∧
      Search.Promised input sender (IsFirst (FullPath input.toList usable grammar.roots)) search := by
  refine ⟨_, select_eq_ofTries decided, ?_⟩
  cases selected :
    Search.ofTries input.toList .empty (tries input.toList usable grammar.roots 0) with
  | missed deepest => exact nofun
  | found node arguments =>
    obtain ⟨path, first, rfl, rfl⟩ := Search.isFirst_of_ofTries selected
    exact Search.promised_of_bound native first.has first

/-- A line is run by a search that keeps what the grammar promises, whatever else the host does: the
handlers get the value of every argument on the way to their node below the root, as the kind of value
that it was declared for, and of no argument that is not on the way. Where the requirements are functions
of the sender, this is the way of the first full path. -/
theorem execute_keeps_promises
    (native : ∀ clause ∈ Node.allClauses grammar.roots, clause.pattern.isNative = true)
    (input : String) (sender : Sender m κ) :
    (∃ search : m { search : Search m κ ε //
        search.Promised input sender (FullPath input.toList (fun _ => true) grammar.roots) },
      grammar.select input.toList sender = Subtype.val <$> search ∧
        grammar.execute input sender = search >>= fun search => search.1.run input sender) ∧
      ∀ usable : Clause m κ ε → Bool, Decided sender usable grammar.roots →
        ∃ search : Search m κ ε, grammar.select input.toList sender = pure search ∧
          search.Promised input sender (IsFirst (FullPath input.toList usable grammar.roots)) ∧
          grammar.execute input sender = search.run input sender := by
  constructor
  · obtain ⟨search, selects⟩ := select_promised native input sender
    refine ⟨search, selects, ?_⟩
    rw [execute_eq_run, selects, bind_map_left]
  · intro usable decided
    obtain ⟨search, selects, promised⟩ := select_promised_of_decided native decided
    refine ⟨search, selects, promised, ?_⟩
    rw [execute_eq_run, selects, pure_bind]

/-- Of two arguments with one name the word counts and not the number before it, and a spare argument
that was read on the way to nothing is missing. -/
theorem execute_keeps_promises_shadowing :
    (∀ clause ∈ Node.allClauses Sample.shadowing.roots, clause.pattern.isNative = true) ∧
      Decided Sample.guest (fun _ => true) Sample.shadowing.roots ∧
      (∃ search : Search Sample.Journal Unit Empty,
        Sample.shadowing.select "set 5 ann".toList Sample.guest = pure search ∧
          search.Promised "set 5 ann" Sample.guest
            (IsFirst (FullPath "set 5 ann".toList (fun _ => true) Sample.shadowing.roots)) ∧
          Sample.shadowing.execute "set 5 ann" Sample.guest = search.run "set 5 ann" Sample.guest) ∧
      ((Sample.shadowing.execute "set 5 ann" Sample.guest).run []).2 =
        [ "ann",
          "Command argument 'value' is not a integer",
          "Required command argument 'spare' is missing or failed to map" ] :=
  ⟨Sample.shadowing_native, Sample.shadowing_decided,
    (execute_keeps_promises Sample.shadowing_native _ _).2 _ Sample.shadowing_decided,
    by decide +kernel⟩

/-- The promise is not kept for what a root reads: its number is on the path, and is missing when the
chain of the root asks for it. -/
theorem execute_breaks_promise_at_root :
    (∀ clause ∈ Node.allClauses Sample.numbers.roots, clause.pattern.isNative = true) ∧
    ∃ path chain,
      IsFirst (FullPath "5".toList Sample.usable Sample.numbers.roots) path ∧
      Sample.numbers.select "5".toList Sample.guest = pure (.found path.last.node []) ∧
      path.last.node.clause.chain = some chain ∧
      path.last.node.clause.pattern = .argument "number" .anyInteger ∧
      (Invocation.of Sample.guest "5" [] chain.mappers).int "number" =
        .error (.missingArgument "number") ∧
      ¬ (Invocation.of Sample.guest "5" [] chain.mappers).Serves "5".toList path.attempts := by
  have found : (tries "5".toList Sample.usable Sample.numbers.roots 0).find?
      (Path.endsLine "5".toList) =
        some (.single 0 (.make "5".toList Sample.number.builder.build 0)) := rfl
  refine ⟨List.forall_mem_singleton.mpr rfl, _, ⟨[⟨.anyone, 0, .direct Sample.tellNumber⟩], []⟩,
    isFirst_of_find? (pairwise_tries _ 0) (fun _ => fullPath_iff) found, rfl, rfl, rfl, rfl, ?_⟩
  intro serves
  obtain ⟨⟨number, hands, _⟩, _⟩ := serves.hands [] _ [] "number" .anyInteger rfl rfl nofun
  cases hands

end Grammar

end CommandGrammar
