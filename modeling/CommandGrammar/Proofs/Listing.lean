import CommandGrammar.Proofs.Attaching
import CommandGrammar.Proofs.Consuming
import CommandGrammar.Proofs.Resolving

/-!
# What a list argument offers and takes

A list argument knows its candidates by their renderings, and three parts of it have to agree on them. Its
source offers the renderings that continue what is typed, without regard to case; its form takes one word;
and its mapper looks the word up among the candidates, letter by letter. The candidates are asked for anew
each time, so that the parts may even be given different ones.

A rendering that is offered and is a word can be typed: put in the place of the rest of the line, it is
taken up to the end, and where the candidates are the same it is looked up with success, and stands for
the first candidate that is rendered so (`Listing.Serves`). Conversely nothing is left out: whichever
candidates there are by then, those whose rendering continues the rest of the line are offered.

All of this is said of the child that declaring the argument attaches, for whatever its body declares, as
long as that does not offer something else in the place of the list (`Listing.Attaches`).
-/

set_option autoImplicit false

namespace CommandGrammar

open Text

variable {m : Type → Type} {κ ε ν β : Type}

/-! ## Words -/

/-- One or more word characters. -/
def Reader.IsWord (text : List Char) : Prop :=
  text ≠ [] ∧ ∀ c ∈ text, Reader.isWordChar c = true

/-- An argument that reads a word takes one that ends the line. -/
theorem Pattern.consume_word_end (name : String) (before : List Char) {text : List Char}
    (word : Reader.IsWord text) :
    (Pattern.argument name .word).consume (before ++ text) (byteLength before) =
      .ok (byteLength (before ++ text),
        some ⟨byteLength before, byteLength (before ++ text), .text (String.ofList text)⟩) := by
  have taken : text.takeWhile Reader.isWordChar = text := List.takeWhile_eq_self_iff.mpr word.2
  have left : text.dropWhile Reader.isWordChar = [] := List.dropWhile_eq_nil_iff.mpr word.2
  have reads : Form.word.read ⟨before, text⟩ =
      (.ok (.text (String.ofList text)), ⟨before ++ text, []⟩) := by
    refine Reader.judge_eq_ok_iff.mpr ⟨?_, ?_⟩
    · rw [taken]
      exact Form.textOfRun_eq_ok_iff.mpr ⟨rfl, word.1⟩
    · rw [taken, left]
  have further : byteLength before ≠ byteLength (before ++ text) := by
    have length := byteLength_pos word.1
    rw [byteLength_append]
    omega
  refine consume_argument_iff.mpr
    ⟨.text (String.ofList text), ⟨before ++ text, []⟩, ?_, further.symm, rfl, rfl, rfl⟩
  rw [Reader.atOffset_append]
  exact reads

/-! ## Lists of candidates -/

/-- The candidates of a list argument: where they come from, how they are rendered, and which value of the
host each of them is. -/
structure Listing (m : Type → Type) (κ ε β : Type) where
  id : String
  candidates : Invocation m κ ε → m (List β)
  render : β → String
  value : β → Value ε

namespace Listing

/-- A fixed list of texts, each of which is its own rendering. -/
def ofTexts [Monad m] (id : String) (values : List String) : Listing m κ ε String where
  id := id
  candidates _ := pure values
  render value := value
  value value := .raw (.text value)

section Candidates

variable (listing : Listing m κ ε β)

/-- The renderings of some candidates that continue a text. -/
def offered (members : List β) (typed : String) : List String :=
  Completion.matching (members.map listing.render) typed

/-- The candidate that a text is looked up as. -/
def found (members : List β) (text : String) : Option β :=
  members.find? fun member => listing.render member == text

/-- The candidate is the first one with a rendering. -/
def IsFirstOf (members : List β) (text : String) (first : β) : Prop :=
  ∃ front back, members = front ++ first :: back ∧ listing.render first = text ∧
    ∀ other ∈ front, listing.render other ≠ text

/-- The values of the candidates can be told apart from each other and read back. -/
def ReadBy (read : Value ε → Option β) : Prop :=
  ∀ member, read (listing.value member) = some member

variable {listing}

/-- A text is looked up as the first candidate with this rendering. -/
theorem found_eq_some_iff {members : List β} {text : String} {first : β} :
    listing.found members text = some first ↔ listing.IsFirstOf members text first := by
  rw [found, List.find?_eq_some_iff_append, IsFirstOf]
  constructor
  · rintro ⟨same, front, back, split_, others⟩
    refine ⟨front, back, split_, eq_of_beq same, fun other member => ?_⟩
    simpa using others other member
  · rintro ⟨front, back, split_, same, others⟩
    refine ⟨beq_iff_eq.mpr same, front, back, split_, fun other member => ?_⟩
    simpa using others other member

/-- What is offered are the renderings that continue the text. -/
theorem mem_offered_iff {members : List β} {typed text : String} :
    text ∈ listing.offered members typed ↔
      Completion.continues typed text = true ∧ ∃ member ∈ members, listing.render member = text := by
  rw [offered, Completion.matching, List.mem_filter, List.mem_map, and_comm]

/-- Every text that is offered stands for a candidate. -/
theorem exists_found {members : List β} {typed text : String}
    (listed : text ∈ listing.offered members typed) : ∃ first, listing.IsFirstOf members text first := by
  obtain ⟨_, member, among, same⟩ := mem_offered_iff.mp listed
  cases lookup : listing.found members text with
  | none => exact absurd (beq_iff_eq.mpr same) (List.find?_eq_none.mp lookup member among)
  | some first => exact ⟨first, found_eq_some_iff.mp lookup⟩

end Candidates

section Node

variable [Monad m] (listing : Listing m κ ε β)

/-- Looks a word up among the candidates. -/
def mapper : Mapper m κ ε :=
  .candidate listing.id listing.candidates listing.render listing.value

/-- Offers the candidates. -/
def source : Completion.Source m κ ε :=
  .candidates listing.candidates listing.render

/-- What an argument records that reads a text to the end of the line. -/
def typedAt (before : List Char) (text : String) : Binding where
  start := byteLength before
  stop := byteLength (before ++ text.toList)
  value := .text text

/-- What a node does with the candidates of a list, at whatever place of a line it is asked. -/
structure Serves (clause : Clause m κ ε) : Prop where
  /-- The candidates are those of the moment, and their renderings are offered that continue the rest of
  the line. -/
  offers : ∀ before rest sender arguments,
    let query := Offers.query (before ++ rest) sender clause (byteLength before) arguments
    clause.offers query =
      (fun members => .ready (listing.offered members (String.ofList rest))) <$>
        listing.candidates query.invocation
  /-- No candidate is left out whose rendering continues the rest of the line. -/
  all : ∀ members typed, ∀ member ∈ members,
    Completion.continues typed (listing.render member) = true →
      listing.render member ∈ listing.offered members typed
  /-- A word, whether it was offered or not, is taken in the place of the rest of the line. -/
  takes : ∀ before text, Reader.IsWord text.toList →
    clause.pattern.consume (before ++ text.toList) (byteLength before) =
      .ok (byteLength (before ++ text.toList), some (typedAt before text))
  /-- Among the candidates that a text was offered from, it stands for the first one that is rendered so.
  -/
  finds : ∀ members typed, ∀ text ∈ listing.offered members typed,
    ∃ first, listing.IsFirstOf members text first ∧ listing.found members text = some first
  /-- The value of the argument is what its text stands for among the candidates of the invocation: of the
  one that the mapper is given, and where asking comes to an end, of the one at hand. -/
  obtains : ∀ before text read sender input arguments mappers, listing.ReadBy read →
    arguments.lookup listing.id = some (typedAt before text) →
    mappers.lookup listing.id = some listing.mapper →
    let invocation := Invocation.of sender input arguments mappers
    invocation.getOptional read listing.id =
        (fun members => listing.found members text) <$>
          listing.candidates (Invocation.aside sender input arguments mappers listing.id) ∧
      (mappers.Terminates sender input arguments listing.id →
        invocation.getOptional read listing.id =
          (fun members => listing.found members text) <$> listing.candidates invocation)

section Lawful

variable [LawfulMonad m] {listing}

/-- The source asks for the candidates once, and offers those that continue the typed text. -/
theorem ask_source (query : Completion.Query m κ ε) :
    listing.source.ask query =
      (fun members => .ready (listing.offered members query.remaining)) <$>
        listing.candidates query.invocation := by
  show ((listing.candidates query.invocation >>= fun members =>
    pure (listing.offered members query.remaining)) >>= fun offers =>
      pure (Completion.Pending.ready offers)) = _
  rw [bind_assoc, map_eq_pure_bind]
  exact bind_congr fun members => pure_bind _ _

/-- The mapper asks for the candidates once, and hands on the one that the text is looked up as. -/
theorem mapper_eq {invocation : Invocation m κ ε} {text : String}
    (typed : invocation.rawText? listing.id = some text) :
    listing.mapper invocation =
      (fun members => (listing.found members text).map listing.value) <$>
        listing.candidates invocation := by
  rw [mapper, Mapper.candidate, Mapper.ofText, typed, map_eq_pure_bind]
  rfl

/-- A value that a text stands for is read back as the candidate. -/
theorem getOptional_eq {read : Value ε → Option β} (reads : listing.ReadBy read)
    {invocation : Invocation m κ ε} {text : String} {now : m (List β)}
    (resolve : invocation.resolve listing.id =
      (fun members => (listing.found members text).map listing.value) <$> now) :
    invocation.getOptional read listing.id = (fun members => listing.found members text) <$> now := by
  rw [Invocation.getOptional, resolve, bind_map_left, map_eq_pure_bind]
  refine bind_congr fun members => congrArg pure ?_
  cases listing.found members text with
  | none => rfl
  | some first => exact reads first

/-- A node that reads a word for the list and asks the list for completions serves it. -/
theorem serves_of_source {clause : Clause m κ ε} (pattern : clause.pattern = .argument listing.id .word)
    (source : clause.source = some listing.source) : listing.Serves clause where
  offers := by
    intro before rest sender arguments query
    have remaining : query.remaining = String.ofList rest := by
      show String.ofList ((dropBytes? (before ++ rest) (byteLength before)).getD []) = _
      rw [dropBytes?_append]
      rfl
    rw [Clause.offers, source]
    dsimp only
    rw [ask_source, remaining]
  all := fun members typed member among continues =>
    mem_offered_iff.mpr ⟨continues, member, among, rfl⟩
  takes := by
    intro before text word
    rw [pattern, Pattern.consume_word_end listing.id before word, String.ofList_toList]
    rfl
  finds := by
    intro members typed text listed
    obtain ⟨first, isFirst⟩ := exists_found listed
    exact ⟨first, isFirst, found_eq_some_iff.mpr isFirst⟩
  obtains := by
    intro before text read sender input arguments mappers reads bound mapped invocation
    have raw : ∀ other : Invocation m κ ε, other.arguments = arguments →
        other.rawText? listing.id = some text := by
      intro other same
      rw [Invocation.rawText?, Invocation.raw?, Invocation.parsed?, same, bound]
      rfl
    constructor
    · exact getOptional_eq reads
        ((Invocation.resolve_of_mapper sender input arguments mapped).trans (mapper_eq (raw _ rfl)))
    · intro ends
      exact getOptional_eq reads
        ((Invocation.resolve_of_terminates sender input arguments ends mapped).trans
          (mapper_eq (raw _ rfl)))

end Lawful

end Node

end Listing

/-! ## Declaring a list argument -/

namespace Listing

variable [Monad m]

/-- What declaring a list argument with some body comes to: a child is attached to the builder at hand, on
which the mapper of the list is set. The child keeps the source of the list if the body offers nothing else
for it, and then its node serves the list. -/
structure Attaches (listing : Listing m κ ε β) (body : List (Declaration m κ ε ν))
    (draft after : Draft m κ ε ν) (child : Builder m κ ε) : Prop where
  attached : after.builder = (draft.builder.map listing.id listing.mapper).attach child
  keeps : (∀ source, Declaration.offer source ∉ body) → child.source = some listing.source
  serves : child.source = some listing.source → listing.Serves child.build.clause

variable [LawfulMonad m]

/-- Declaring a list argument attaches a child that serves the list. -/
theorem exists_attaches (listing : Listing m κ ε β) (body : List (Declaration m κ ε ν))
    (draft : Draft m κ ε ν) :
    ∃ child, listing.Attaches body draft
      (Declaration.applyAll
        (Declaration.listArgument listing.id listing.candidates listing.render listing.value body) draft)
      child := by
  obtain ⟨child, composed⟩ :=
    Declaration.exists_composed listing.id .word listing.mapper listing.source body draft
  have pattern : child.build.clause.pattern = .argument listing.id .word := composed.pattern
  exact ⟨child, composed.attached, composed.keeps, serves_of_source pattern⟩

/-- Whatever list of candidates an argument is declared with, and whatever its body declares, what the
argument offers it takes and looks up, as long as it keeps offering its list. A list of texts is such a
list. -/
theorem lists_offer_what_they_take :
    (∀ (β : Type) (listing : Listing m κ ε β) (body : List (Declaration m κ ε ν)) (draft : Draft m κ ε ν),
      ∃ child, listing.Attaches body draft
        (Declaration.applyAll
          (Declaration.listArgument listing.id listing.candidates listing.render listing.value body)
          draft)
        child) ∧
      ∀ (id : String) (values : List String) (body : List (Declaration m κ ε ν)) (draft : Draft m κ ε ν),
        ∃ child, (ofTexts id values).Attaches body draft
          (Declaration.applyAll (Declaration.stringListArgument id values body) draft) child := by
  refine ⟨fun β listing body draft => listing.exists_attaches body draft, ?_⟩
  intro id values body draft
  exact (ofTexts id values).exists_attaches body draft

end Listing

/-- The tiers that are written down by now. -/
def Sample.tiers : Listing Sample.Journal Unit Empty String where
  id := "tier"
  candidates _ := get
  render tier := tier
  value tier := .raw (.text tier)

/-- A command in the making. -/
def Sample.opening : Draft Sample.Journal Unit Empty Unit :=
  ⟨.root "open", [], 0, []⟩

namespace Listing

/-- A tier that is written down later is offered and found from then on, and not before. -/
theorem lists_offer_what_they_take_late :
    ∃ child, Sample.tiers.Attaches [] Sample.opening
        (Declaration.applyAll
          (Declaration.listArgument "tier" (fun _ => get) (fun tier => tier)
            (fun tier => .raw (.text tier)) [])
          Sample.opening)
        child ∧
      child.source = some Sample.tiers.source ∧
      (∀ written,
        ((child.build.clause.offers (Offers.query ("open ".toList ++ "LEG".toList) Sample.guest
          child.build.clause (byteLength "open ".toList) [])).run written).1.readyOffers =
            Sample.tiers.offered written "LEG") ∧
      (∀ written,
        (((Invocation.of Sample.guest "open legendary" [("tier", typedAt "open ".toList "legendary")]
          [("tier", Sample.tiers.mapper)]).getOptional Value.text? "tier").run written).1 =
            Sample.tiers.found written "legendary") ∧
      Sample.tiers.offered ["common"] "LEG" = [] ∧
      Sample.tiers.offered ["common", "legendary"] "LEG" = ["legendary"] ∧
      Sample.tiers.found ["common"] "legendary" = none ∧
      Sample.tiers.found ["common", "legendary"] "legendary" = some "legendary" := by
  obtain ⟨child, attaches⟩ := lists_offer_what_they_take.1 String Sample.tiers [] Sample.opening
  have source := attaches.keeps fun _ => List.not_mem_nil
  have serves := attaches.serves source
  refine ⟨child, attaches, source, ?_, ?_, by decide +kernel, by decide +kernel, by decide, by decide⟩
  · intro written
    rw [serves.offers "open ".toList "LEG".toList Sample.guest []]
    rfl
  · intro written
    have value := (serves.obtains "open ".toList "legendary" Value.text? Sample.guest "open legendary"
      [("tier", typedAt "open ".toList "legendary")] [("tier", Sample.tiers.mapper)] (fun _ => rfl) rfl
      rfl).1
    replace value : (Invocation.of _ _ _ _).getOptional Value.text? "tier" = _ := value
    rw [value]
    rfl

end Listing

end CommandGrammar
