import CommandGrammar.Proofs.Answering
import CommandGrammar.Proofs.Targeting
import CommandGrammar.Settings

/-!
# Whom the shell lets a user travel to

The shell offers the names of the participants that a user may travel to, and a name that is offered may
or may not be of use. The name is not quoted: typed behind the command, it has to be one token, and what
a token selects is up to the roster, which knows tokens of its own and the first of several names that
differ in letter case only. The theorem at the end tells which offers are of use
(`Shell.teleports_iff`).
-/

set_option autoImplicit false

namespace CommandGrammar

open Text

variable {m : Type → Type} {κ ε : Type}

/-- Where the token at the start of a text ends, the text ends with it exactly when it has no blank. -/
theorem Text.dropToken_eq_nil_iff {text : List Char} :
    text.dropWhile (!isBlank ·) = [] ↔ ∀ c ∈ text, isBlank c = false := by
  rw [List.dropWhile_eq_nil_iff]
  exact forall₂_congr fun c _ => Bool.not_eq_true' (isBlank c) ▸ Iff.rfl

section Selector

variable {name : String} {before text : List Char} {stop : Nat} {parsed : Option Binding}

/-- A selector takes a token that ends at a boundary. -/
theorem Pattern.consume_selector_iff :
    (Pattern.argument name .selector).consume (before ++ text) (byteLength before) =
        .ok (stop, parsed) ↔
      text.takeWhile (!isBlank ·) ≠ [] ∧ atBoundary (text.dropWhile (!isBlank ·)) = true ∧
        stop = byteLength (before ++ text.takeWhile (!isBlank ·)) ∧
        parsed = some ⟨byteLength before, stop,
          .text (String.ofList (text.takeWhile (!isBlank ·)))⟩ := by
  rw [consume_argument_iff, Reader.atOffset_append]
  constructor
  · rintro ⟨value, after, reads, _, ends, rfl, rfl⟩
    obtain ⟨found, rfl⟩ := Reader.judge_eq_ok_iff.mp reads
    obtain ⟨rfl, some_⟩ := Form.textOfRun_eq_ok_iff.mp found
    exact ⟨some_, ends, rfl, rfl⟩
  · rintro ⟨some_, ends, rfl, rfl⟩
    refine ⟨_, _, Reader.judge_eq_ok_iff.mpr ⟨Form.textOfRun_eq_ok_iff.mpr ⟨rfl, some_⟩, rfl⟩, ?_, ends,
      rfl, rfl⟩
    intro same
    have bytes : byteLength before + byteLength (text.takeWhile (!isBlank ·)) = byteLength before :=
      (byteLength_append _ _).symm.trans same
    exact some_ (Text.eq_nil_of_byteLength (Nat.add_eq_left.mp bytes))

/-- It takes the line to its end exactly when the rest of the line is one token. -/
theorem Pattern.consume_selector_end_iff :
    ((Pattern.argument name .selector).consume (before ++ text) (byteLength before) =
        .ok (stop, parsed) ∧ byteLength (before ++ text) ≤ stop) ↔
      IsToken text ∧ stop = byteLength (before ++ text) ∧
        parsed = some ⟨byteLength before, stop, .text (String.ofList text)⟩ := by
  have parts : text.takeWhile (!isBlank ·) ++ text.dropWhile (!isBlank ·) = text :=
    List.takeWhile_append_dropWhile
  rw [consume_selector_iff]
  constructor
  · rintro ⟨⟨some_, ends, rfl, rfl⟩, last⟩
    have left : text.dropWhile (!isBlank ·) = [] := by
      refine Text.eq_nil_of_byteLength ?_
      have bytes := congrArg byteLength parts
      rw [byteLength_append] at bytes last
      rw [byteLength_append] at last
      omega
    have whole : text.takeWhile (!isBlank ·) = text := by rwa [left, List.append_nil] at parts
    rw [whole] at some_ ⊢
    exact ⟨⟨some_, Text.dropToken_eq_nil_iff.mp left⟩, rfl, rfl⟩
  · rintro ⟨⟨some_, unbroken⟩, rfl, rfl⟩
    have left := Text.dropToken_eq_nil_iff.mpr unbroken
    have whole : text.takeWhile (!isBlank ·) = text := by rwa [left, List.append_nil] at parts
    rw [whole, left]
    exact ⟨⟨some_, rfl, rfl, rfl⟩, Nat.le_refl _⟩

/-- A selector could take the last token of a line exactly when there is no space behind its start. -/
theorem Path.isAsked_selector_iff {path : Path m κ ε} {node : Node m κ ε}
    (pattern : node.clause.pattern = .argument name .selector)
    (last : path.last = .make (before ++ text) node (byteLength before)) :
    path.isAsked (before ++ text) = true ↔ ' ' ∉ text := by
  have outcome : path.last.outcome =
      (Pattern.argument name .selector).consume (before ++ text) (byteLength before) := by
    rw [last, ← pattern]
    rfl
  have remains : Offers.remaining (before ++ text) path.last.start = text := by
    rw [last]
    show (dropBytes? (before ++ text) (byteLength before)).getD [] = text
    rw [dropBytes?_append, Option.getD_some]
  rw [isAsked_iff, outcome, remains]
  constructor
  · rintro (⟨stop, parsed, ends⟩ | ⟨_, short⟩)
    · obtain ⟨⟨_, unbroken⟩, _⟩ := Pattern.consume_selector_end_iff.mp ends
      exact fun space => nomatch (unbroken ' ' space).symm.trans isBlank_space
    · exact short
  · intro short
    cases takes : (Pattern.argument name .selector).consume (before ++ text) (byteLength before) with
    | error reason => exact .inr ⟨⟨reason, rfl⟩, short⟩
    | ok token =>
      obtain ⟨stop, parsed⟩ := token
      obtain ⟨_, ends, rfl, rfl⟩ := Pattern.consume_selector_iff.mp takes
      have left : text.dropWhile (!isBlank ·) = [] := by
        by_contra more
        obtain ⟨behind, space⟩ := Pattern.exists_space ends more
        exact short ((List.dropWhile_sublist _).subset (space ▸ List.mem_cons_self))
      have parts : text.takeWhile (!isBlank ·) ++ text.dropWhile (!isBlank ·) = text :=
        List.takeWhile_append_dropWhile
      rw [left, List.append_nil] at parts
      exact .inl ⟨_, _, rfl, Nat.le_of_eq (by rw [parts])⟩

end Selector

/-- Where there is one node, and nothing below it, there is one path. -/
theorem Tried.eq_single {line : List Char} {usable : Clause m κ ε → Bool} {node : Node m κ ε}
    {start : Nat} {path : Path m κ ε} (tried : Tried line usable [node] start path)
    (leaf : node.children = []) : path = .single 0 (.make line node start) := by
  have only : ∀ {position other}, [node][position]? = some other → position = 0 ∧ node = other := by
    intro position other at_
    cases position with
    | zero => exact ⟨rfl, Option.some.inj at_⟩
    | succ position => cases at_
  cases tried with
  | here at_ _ =>
    obtain ⟨rfl, rfl⟩ := only at_
    rfl
  | deeper at_ _ _ _ below =>
    obtain ⟨rfl, rfl⟩ := only at_
    rw [leaf] at below
    cases below with
    | here none_ _ => cases none_
    | deeper none_ _ _ _ _ => cases none_

namespace Shell

variable {roster : Roster} {showIdentity : Nat → String} {user : User}

/-! ## The command to travel -/

/-- Who may be travelled to: the participants other than the sender. -/
def targetMapper (roster : Roster) : Mapper Printing Kind Extra :=
  .entity "target" roster.entities (.others roster.entities)

/-- The clause of the argument that tells whom to travel to. -/
def targetClause (roster : Roster) (serial : Nat) : Clause Printing Kind Extra where
  pattern := .argument "target" .selector
  requirements := []
  source := some (.entities roster.entities (.others roster.entities))
  chain := some
    ⟨[⟨.only .user, serial, .direct (travel "Teleported to " "")⟩,
        ⟨.only .console, serial + 1, .direct (travel "Consoles cannot travel, but " " is out there")⟩],
      [("target", targetMapper roster)]⟩
  mappers := [("target", targetMapper roster)]

/-- The words of the other commands. -/
def otherWords : List String :=
  ["teleport", "crate", "spawn", "clear", "msg", "sleep", "admin"]

/-- The command to travel is the second one, and has an argument. -/
theorem roots_travel (roster : Roster) (showIdentity : Nat → String) :
    ∃ first own serial others, (grammar roster showIdentity).roots =
        first :: .mk own [.mk (targetClause roster serial) []] :: others ∧
      own.pattern = .literal "tp" ∧ own.requirements = [] ∧
      (first :: others).map (fun root => root.clause.pattern) = otherWords.map .literal :=
  ⟨_, _, _, _, rfl, rfl, rfl, rfl⟩

/-- The start of a line that travels. -/
def travelWord : List Char :=
  "tp ".toList

/-- No other command matches a line that travels. -/
theorem consume_other {word : String} (other : word ∈ otherWords) (text : List Char) :
    (Pattern.literal word).consume (travelWord ++ text) 0 = .error (.expectedLiteral word) := by
  simp only [otherWords, List.mem_cons, List.not_mem_nil, or_false] at other
  rcases other with rfl | rfl | rfl | rfl | rfl | rfl | rfl <;> rfl

/-- Among the roots of the shell one takes the start of a line that travels, and only that one. It has one
child, the argument of the command. -/
structure TravelsBy (roster : Roster) (roots : List (Node Printing Kind Extra))
    (root target : Node Printing Kind Extra) : Prop where
  stands : roots[1]? = some root
  free : root.clause.requirements = []
  children : root.children = [target]
  leaf : target.children = []
  target : ∃ serial, target.clause = targetClause roster serial
  takes : ∀ text, root.clause.pattern.consume (travelWord ++ text) 0 = .ok (2, none)
  others : ∀ position other, roots[position]? = some other → position ≠ 1 →
    ∀ text, ∃ reason, other.clause.pattern.consume (travelWord ++ text) 0 = .error reason

/-- So it is in the grammar of the shell. -/
theorem exists_travelsBy (roster : Roster) (showIdentity : Nat → String) :
    ∃ root target, TravelsBy roster (grammar roster showIdentity).roots root target := by
  obtain ⟨first, own, serial, others, roots, word, free, words⟩ := roots_travel roster showIdentity
  refine ⟨.mk own [.mk (targetClause roster serial) []], .mk (targetClause roster serial) [],
    by rw [roots]; rfl, free, rfl, rfl, ⟨serial, rfl⟩, fun text => ?_, fun position other at_ not_ => ?_⟩
  · show own.pattern.consume (travelWord ++ text) 0 = _
    rw [word]
    rfl
  · have member : other ∈ first :: others := by
      rw [roots] at at_
      rcases position with _ | _ | position
      · cases at_
        exact List.mem_cons_self
      · exact absurd rfl not_
      · exact List.mem_cons_of_mem _ (List.mem_of_getElem? at_)
    have pattern := List.mem_map_of_mem (f := fun root => root.clause.pattern) member
    rw [words] at pattern
    obtain ⟨other', listed, same⟩ := List.mem_map.mp pattern
    exact fun text => ⟨_, same ▸ consume_other listed text⟩

/-- The path of a line to the argument of the command. -/
def targetPath (root target : Node Printing Kind Extra) (line : List Char) :
    Path Printing Kind Extra :=
  .under 1 (.make line root 0) (.single 0 (.make line target (byteLength travelWord)))

namespace TravelsBy

variable {roots : List (Node Printing Kind Extra)} {root target : Node Printing Kind Extra}

/-- No root could take the last token of a line that travels: there is a space behind its start. -/
theorem not_isAsked (travels : TravelsBy roster roots root target) {position : Nat}
    {other : Node Printing Kind Extra} (at_ : roots[position]? = some other) (text : List Char) :
    ¬ (Path.single position (.make (travelWord ++ text) other 0)).isAsked (travelWord ++ text) =
      true := by
  rw [Path.isAsked_iff]
  rintro (⟨stop, parsed, takes, last⟩ | ⟨_, short⟩)
  · replace takes : other.clause.pattern.consume (travelWord ++ text) 0 = _ := takes
    by_cases own : position = 1
    · obtain rfl : root = other := Option.some.inj (travels.stands.symm.trans (own ▸ at_))
      cases (travels.takes text).symm.trans takes
      rw [byteLength_append] at last
      exact Nat.not_lt.mpr (Nat.le_of_add_right_le last) (by decide)
    · obtain ⟨reason, fails⟩ := travels.others position other at_ own text
      cases fails.symm.trans takes
  · refine short ?_
    show ' ' ∈ travelWord ++ text
    exact List.mem_append_left _ (by decide)

/-- Of the paths that a line that travels has, only the one to the argument could take the last token. -/
theorem tried_iff (travels : TravelsBy roster roots root target) (sender : ShellSender)
    {text : List Char} {path : Path Printing Kind Extra}
    (asked : path.isAsked (travelWord ++ text) = true) :
    Tried (travelWord ++ text) (usable sender) roots 0 path ↔
      path = targetPath root target (travelWord ++ text) := by
  obtain ⟨serial, clause⟩ := travels.target
  constructor
  · intro tried
    cases tried with
    | here at_ _ => exact absurd asked (travels.not_isAsked at_ text)
    | @deeper _ _ position _ other _ _ at_ _ takes _ below =>
      obtain rfl : position = 1 := by
        by_contra elsewhere
        obtain ⟨reason, fails⟩ := travels.others position other at_ elsewhere text
        cases fails.symm.trans takes
      obtain rfl : root = other := Option.some.inj (travels.stands.symm.trans at_)
      cases (travels.takes text).symm.trans takes
      rw [travels.children] at below
      rw [below.eq_single travels.leaf]
      rfl
  · rintro rfl
    refine .deeper travels.stands ?_ (travels.takes text) ?_ ?_
    · rw [usable, travels.free]
      rfl
    · rw [byteLength_append]
      exact Nat.lt_of_lt_of_le (by decide) (Nat.le_add_right _ _)
    · rw [travels.children]
      refine .here rfl ?_
      rw [usable, clause]
      rfl

variable (travels : TravelsBy roster roots root target) (text : List Char)

include travels

/-- The argument takes what a selector takes. -/
theorem outcome_eq :
    (Attempt.make (travelWord ++ text) target (byteLength travelWord)).outcome =
      (Pattern.argument "target" .selector).consume (travelWord ++ text) (byteLength travelWord) := by
  obtain ⟨serial, clause⟩ := travels.target
  have pattern : target.clause.pattern = .argument "target" .selector := by
    rw [clause]
    rfl
  rw [← pattern]
  rfl

/-- The argument could take the last token where there is no space in the text. -/
theorem isAsked_iff :
    (targetPath root target (travelWord ++ text)).isAsked (travelWord ++ text) = true ↔
      ' ' ∉ text := by
  obtain ⟨serial, clause⟩ := travels.target
  exact Path.isAsked_selector_iff (congrArg Clause.pattern clause) rfl

/-- The argument is all that is asked, and it is asked where there is no space in the text. -/
theorem mem_asked_iff (sender : ShellSender) (path : Path Printing Kind Extra) :
    path ∈ (tries (travelWord ++ text) (usable sender) roots 0).filter
        (Path.isAsked (travelWord ++ text)) ↔
      path = targetPath root target (travelWord ++ text) ∧ ' ' ∉ text := by
  rw [List.mem_filter, mem_tries]
  constructor
  · rintro ⟨tried, asked⟩
    obtain rfl := (travels.tried_iff sender asked).mp tried
    exact ⟨rfl, (travels.isAsked_iff text).mp asked⟩
  · rintro ⟨rfl, short⟩
    have asked := (travels.isAsked_iff text).mpr short
    exact ⟨(travels.tried_iff sender asked).mpr rfl, asked⟩

/-- The argument takes the line to its end where the text is one token. -/
theorem endsLine_iff :
    (targetPath root target (travelWord ++ text)).endsLine (travelWord ++ text) = true ↔
      IsToken text := by
  refine Attempt.endsLine_eq_true_iff.trans ⟨?_, fun token => ?_⟩
  · rintro ⟨stop, parsed, takes, last⟩
    exact (Pattern.consume_selector_end_iff.mp ⟨(travels.outcome_eq text).symm.trans takes, last⟩).1
  · obtain ⟨takes, last⟩ := Pattern.consume_selector_end_iff.mpr ⟨token, rfl, rfl⟩
    exact ⟨_, _, (travels.outcome_eq text).trans takes, last⟩

/-- A line that travels has one full path if the text is one token, and none otherwise. -/
theorem fullPath_iff (sender : ShellSender) (path : Path Printing Kind Extra) :
    FullPath (travelWord ++ text) (usable sender) roots path ↔
      path = targetPath root target (travelWord ++ text) ∧ IsToken text := by
  rw [CommandGrammar.fullPath_iff, mem_tries]
  constructor
  · rintro ⟨tried, ends⟩
    obtain rfl := (travels.tried_iff sender (Path.isAsked_of_endsLine ends)).mp tried
    exact ⟨rfl, (travels.endsLine_iff text).mp ends⟩
  · rintro ⟨rfl, token⟩
    have ends := (travels.endsLine_iff text).mpr token
    exact ⟨(travels.tried_iff sender (Path.isAsked_of_endsLine ends)).mpr rfl, ends⟩

/-- The argument binds the token. -/
theorem lookup_bindAll (token : IsToken text) : ∃ binding,
    (Attempt.bindAll (targetPath root target (travelWord ++ text)).attempts.tail []).lookup "target" =
        some binding ∧ binding.value = .text (String.ofList text) := by
  obtain ⟨takes, _⟩ := Pattern.consume_selector_end_iff.mpr ⟨token, rfl, rfl⟩
  have parsed : (Attempt.make (travelWord ++ text) target (byteLength travelWord)).parsed =
      some ⟨byteLength travelWord, byteLength (travelWord ++ text), .text (String.ofList text)⟩ := by
    rw [Attempt.parsed, travels.outcome_eq, takes]
  have called : target.name = "target" := by
    obtain ⟨serial, clause⟩ := travels.target
    rw [Node.name, clause]
    rfl
  have bound : (Attempt.bindAll [Attempt.make (travelWord ++ text) target (byteLength travelWord)]
      []).lookup "target" =
        (Attempt.make (travelWord ++ text) target (byteLength travelWord)).parsed := by
    rw [Attempt.lookup_bindAll, Attempt.deepest?_cons]
    show ((none : Option Binding).or (if target.name = "target" then _ else none)).or none = _
    rw [if_pos called, Option.none_or, Option.or_none]
  exact ⟨_, bound.trans parsed, rfl⟩

end TravelsBy

/-! ## What is offered -/

/-- Whether a user may travel to a participant. -/
def User.mayJoin (user : User) (participant : Participant) : Bool :=
  user.identity != participant.identity

/-- The names of the others that continue a typed text. -/
def Roster.offersTo (roster : Roster) (user : User) (typed : String) : List String :=
  Completion.matching ((roster.participants.filter user.mayJoin).map Participant.name) typed

theorem Roster.mem_offersTo_iff {typed name : String} :
    name ∈ roster.offersTo user typed ↔ Completion.continues typed name = true ∧
      ∃ participant ∈ roster.participants, participant.name = name ∧
        participant.identity ≠ user.identity := by
  unfold offersTo Completion.matching
  rw [List.mem_filter, List.mem_map, and_comm]
  refine and_congr_right fun _ => exists_congr fun participant => ?_
  rw [List.mem_filter, User.mayJoin, bne_iff_ne, ne_comm, and_assoc, and_comm (b := _ = name)]

/-- Only the participants other than a user are for the user to travel to. -/
theorem others_participant {context : Context} (sender : context.sender = user.sender)
    (participant : Participant) :
    EntityFilter.others roster.entities context (.participant participant) =
      pure (user.mayJoin participant) := by
  unfold EntityFilter.others
  rw [sender]
  rfl

/-- A user is offered the names of the others. -/
theorem offers_target {clause : Clause Printing Kind Extra} {serial : Nat}
    (same : clause = targetClause roster serial) {query : Completion.Query Printing Kind Extra}
    (sender : query.invocation.sender = user.sender) :
    clause.offers query = pure (.ready (roster.offersTo user query.remaining)) := by
  rw [same]
  exact Completion.Source.ask_entities rfl (others_participant sender)

/-- Behind the command a user is asked to go on with the typed text. -/
theorem remaining_travel (typed : String) :
    String.ofList (Offers.remaining (travelWord ++ typed.toList) (byteLength travelWord)) = typed := by
  rw [Offers.remaining, dropBytes?_append, Option.getD_some, String.ofList_toList]

/-- What is offered for a line that travels: the names of the others that continue the typed text, if
there is no space in it. -/
theorem completions_travel (roster : Roster) (showIdentity : Nat → String) (user : User)
    (typed : String) :
    ∃ offered, (grammar roster showIdentity).completions ("tp " ++ typed) user.sender =
        pure offered ∧
      ∀ name, name ∈ offered ↔ ' ' ∉ typed.toList ∧ Completion.continues typed name = true ∧
        ∃ participant ∈ roster.participants, participant.name = name ∧
          participant.identity ≠ user.identity := by
  obtain ⟨root, target, travels⟩ := exists_travelsBy roster showIdentity
  obtain ⟨serial, clause⟩ := travels.target
  have line : ("tp " ++ typed).toList = travelWord ++ typed.toList := String.toList_append ..
  let texts := roster.offersTo user typed
  let asked := (tries (travelWord ++ typed.toList) (usable user.sender)
    (grammar roster showIdentity).roots 0).filter (Path.isAsked (travelWord ++ typed.toList))
  have mem_asked : ∀ path, path ∈ asked ↔ _ := travels.mem_asked_iff typed.toList user.sender
  have completes : (grammar roster showIdentity).complete ("tp " ++ typed) user.sender =
      pure (asked.map fun _ => Completion.Pending.ready texts) := by
    rw [Grammar.complete_eq_visits (decided roster showIdentity user.sender), line]
    refine Completion.mapM_eq_pure fun path member => ?_
    obtain ⟨rfl, _⟩ := (mem_asked path).mp member
    refine (offers_target clause rfl).trans ?_
    show pure (Completion.Pending.ready (roster.offersTo user (String.ofList
      (Offers.remaining (travelWord ++ typed.toList) (byteLength travelWord))))) = _
    rw [remaining_travel]
  have gives : ∀ answer ∈ asked.map fun _ => Completion.Pending.ready (m := Printing) texts,
      answer.Gives texts := by
    intro answer member
    obtain ⟨_, _, rfl⟩ := List.mem_map.mp member
    rfl
  obtain ⟨offered, collects, mem_iff⟩ := Completion.collect_eq_pure gives
  refine ⟨offered, by rw [Grammar.completions, completes, pure_bind, collects], fun name => ?_⟩
  rw [mem_iff, ← Roster.mem_offersTo_iff]
  constructor
  · rintro ⟨answer, member, offers⟩
    obtain ⟨path, listed, _⟩ := List.mem_map.mp member
    exact ⟨((mem_asked path).mp listed).2, offers⟩
  · rintro ⟨short, offers⟩
    exact ⟨_, List.mem_map_of_mem ((mem_asked _).mpr ⟨rfl, short⟩), offers⟩

/-! ## What is of use -/

/-- Whom a token takes a user to. -/
def Roster.target? (roster : Roster) (user : User) (token : String) : Option Participant :=
  match roster.resolve token with
  | .ok found => found.filter user.mayJoin
  | .error _ => none

/-- The mapper of the argument finds whom its text takes the user to. -/
theorem targetMapper_eq {context : Context} {token : String}
    (sender : context.sender = user.sender) (raw : context.rawText? "target" = some token) :
    targetMapper roster context =
      pure ((roster.target? user token).map fun participant => .host (.participant participant)) := by
  unfold targetMapper Mapper.entity Mapper.ofText Roster.target?
  rw [raw]
  show pure ((roster.resolve token).map (Option.map Extra.participant)) >>= _ = _
  rw [pure_bind]
  cases roster.resolve token with
  | error reason => rfl
  | ok found =>
    cases found with
    | none => rfl
    | some participant =>
      show EntityFilter.others roster.entities context (.participant participant) >>= _ = _
      rw [others_participant sender, pure_bind]
      dsimp only
      rw [Option.filter_some]
      cases user.mayJoin participant with
      | false => rfl
      | true => rfl

/-- The handler of the argument tells whom its text takes the user to; where it takes the user to nobody,
it fails. -/
theorem travel_eq {token before after input : String} {arguments : Bindings} {binding : Binding}
    (bound : arguments.lookup "target" = some binding) (value : binding.value = .text token) :
    travel before after (Invocation.of user.sender input arguments [("target", targetMapper roster)]) =
      match roster.target? user token with
      | none => pure (.error (.missingArgument "target"))
      | some participant => do
        printLine (before ++ participant.name ++ after)
        return .ok true := by
  have raw : (Invocation.aside user.sender input arguments [("target", targetMapper roster)]
      "target").rawText? "target" = some token := by
    show ((arguments.lookup "target").map Binding.value).bind Raw.text? = _
    rw [bound, Option.map_some, value]
    rfl
  have resolves : (Invocation.of user.sender input arguments
      [("target", targetMapper roster)]).resolve "target" = _ :=
    (Invocation.resolve_of_mapper user.sender input arguments rfl).trans (targetMapper_eq rfl raw)
  unfold travel Invocation.get Invocation.getOptional
  rw [resolves, pure_bind, pure_bind]
  cases roster.target? user token with
  | none => rfl
  | some participant => rfl

/-- Running the argument of the command takes the user to whom its text selects. -/
theorem run_travels {node : Node Printing Kind Extra} {serial : Nat} {token input : String}
    {arguments : Bindings} {binding : Binding} (clause : node.clause = targetClause roster serial)
    (bound : arguments.lookup "target" = some binding) (value : binding.value = .text token) :
    Search.run input user.sender (.found node arguments) =
      match roster.target? user token with
      | none => pure (.error (.execution (.missingArgument "target")))
      | some participant => do
        printLine ("Teleported to " ++ participant.name)
        return .ok (.handled none) := by
  unfold Search.run
  dsimp only
  rw [clause]
  let context : Context :=
    Invocation.of user.sender input arguments [("target", targetMapper roster)]
  show Except.mapError DispatchError.execution <$> Chain.tryHandlers context
    (⟨.only .user, serial, .direct (travel "Teleported to " "")⟩ :: _) = _
  have admits : (Audience.only Kind.user).admits context.sender.kind = true := rfl
  unfold Chain.tryHandlers
  dsimp only
  rw [if_pos admits, travel_eq bound value]
  cases roster.target? user token with
  | none => rfl
  | some participant =>
    dsimp only
    rw [String.append_empty]
    rfl

/-- A line that travels runs the argument of the command exactly when there is one token behind the
command. -/
theorem execute_travel (roster : Roster) (showIdentity : Nat → String) (user : User) (name : String) :
    (IsToken name.toList → (grammar roster showIdentity).execute ("tp " ++ name) user.sender =
      match roster.target? user name with
      | none => pure (.error (.execution (.missingArgument "target")))
      | some participant => do
        printLine ("Teleported to " ++ participant.name)
        return .ok (.handled none)) ∧
    (¬ IsToken name.toList → ∃ error,
      (grammar roster showIdentity).execute ("tp " ++ name) user.sender = pure (.error error)) := by
  obtain ⟨root, target, travels⟩ := exists_travelsBy roster showIdentity
  obtain ⟨serial, clause⟩ := travels.target
  have line : ("tp " ++ name).toList = travelWord ++ name.toList := String.toList_append ..
  have selects : (grammar roster showIdentity).select ("tp " ++ name).toList user.sender = _ :=
    Grammar.select_eq_ofTries (decided roster showIdentity user.sender)
  rw [line] at selects
  cases found : Search.ofTries (travelWord ++ name.toList) .empty (tries (travelWord ++ name.toList)
      (usable user.sender) (grammar roster showIdentity).roots 0) with
  | missed deepest =>
    rw [found, ← line] at selects
    have none_ : ¬ IsToken name.toList := by
      intro token
      have full := (travels.fullPath_iff name.toList user.sender _).mpr ⟨rfl, token⟩
      obtain ⟨_, _, same⟩ := Search.ofTries_found_iff.mpr ⟨_, full⟩
      cases found.symm.trans same
    exact ⟨fun token => absurd token none_, fun _ => ⟨_, Grammar.execute_of_missed selects⟩⟩
  | found node arguments =>
    rw [found, ← line] at selects
    obtain ⟨path, first, rfl, rfl⟩ := Search.isFirst_of_ofTries found
    obtain ⟨rfl, token⟩ := (travels.fullPath_iff name.toList user.sender path).mp first.has
    refine ⟨fun _ => ?_, fun none_ => absurd token none_⟩
    obtain ⟨binding, bound, value⟩ := travels.lookup_bindAll name.toList token
    rw [String.ofList_toList] at value
    rw [Grammar.execute_eq_run, selects, pure_bind]
    exact run_travels clause bound value

/-- The line is handled, and takes the user to a participant of the name. -/
def Teleports (roster : Roster) (showIdentity : Nat → String) (user : User) (line name : String) :
    Prop :=
  ∃ participant ∈ roster.participants, participant.name = name ∧
    ∀ printed, ((grammar roster showIdentity).execute line user.sender).run printed =
      (.ok (.handled none), printed ++ ["Teleported to " ++ participant.name])

/-- Whom a token takes a user to is on the roster. -/
theorem Roster.mem_of_target? {token : String} {participant : Participant}
    (found : roster.target? user token = some participant) : participant ∈ roster.participants := by
  have resolved : roster.resolve token = .ok (some participant) := by
    unfold Roster.target? at found
    split at found
    next found' resolves =>
      rw [resolves, (Option.filter_eq_some_iff.mp found).1]
    next => cases found
  unfold Roster.resolve at resolved
  split at resolved
  next => exact List.mem_of_head? (Except.ok.inj resolved)
  next =>
    split at resolved
    next =>
      split at resolved
      next => cases resolved
      next => exact List.mem_of_head? (Except.ok.inj resolved)
    next =>
      split at resolved
      next => cases resolved
      next => exact List.mem_of_find?_eq_some (Except.ok.inj resolved)

/-- A name behind the command takes the user to a participant of this name exactly when it is one token,
and the token selects such a participant, who is not the user. -/
theorem teleports_iff (roster : Roster) (showIdentity : Nat → String) (user : User) (name : String) :
    Teleports roster showIdentity user ("tp " ++ name) name ↔
      IsToken name.toList ∧
        ∃ participant, roster.target? user name = some participant ∧ participant.name = name := by
  obtain ⟨travels, refuses⟩ := execute_travel roster showIdentity user name
  constructor
  · rintro ⟨participant, _, rfl, runs⟩
    have token : IsToken participant.name.toList := by
      by_contra none_
      obtain ⟨error, fails⟩ := refuses none_
      have ran := runs []
      rw [fails] at ran
      cases ran
    refine ⟨token, ?_⟩
    have ran := runs []
    rw [travels token] at ran
    cases found : roster.target? user participant.name with
    | none =>
      rw [found] at ran
      cases ran
    | some other =>
      rw [found] at ran
      have said : ["Teleported to " ++ other.name] = ["Teleported to " ++ participant.name] :=
        congrArg Prod.snd ran
      exact ⟨other, rfl, String.append_right_inj _ |>.mp (List.singleton_inj.mp said)⟩
  · rintro ⟨token, participant, found, rfl⟩
    refine ⟨participant, Roster.mem_of_target? found, rfl, fun printed => ?_⟩
    rw [travels token, found]
    rfl

/-- The names of the roster are plain: each is one token and none of those that the roster keeps for
itself, and no two differ in the case of letters only. -/
structure Roster.Plain (roster : Roster) : Prop where
  token : ∀ participant ∈ roster.participants, IsToken participant.name.toList
  free : ∀ participant ∈ roster.participants, ¬ ['@'] <+: participant.name.toList
  apart : roster.participants.Pairwise fun first second =>
    equalIgnoringAsciiCase first.name second.name = false

/-- A plain name selects its own participant. -/
theorem Roster.Plain.resolve {participant : Participant} (plain : roster.Plain)
    (member : participant ∈ roster.participants) :
    roster.resolve participant.name = .ok (some participant) := by
  have free := plain.free participant member
  have found : roster.find? participant.name = some participant := by
    obtain ⟨before, after, split_⟩ := List.append_of_mem member
    have apart := plain.apart
    rw [split_] at apart
    refine List.find?_eq_some_iff_append.mpr ⟨beq_self_eq_true _, before, after, split_, ?_⟩
    intro other earlier
    rw [(List.pairwise_append.mp apart).2.2 other earlier participant List.mem_cons_self]
    rfl
  unfold Roster.resolve
  rw [if_neg, if_neg, if_neg, found]
  · exact fun begins => free (List.isPrefixOf_iff_prefix.mp begins)
  · exact fun same => free (same ▸ by decide)
  · exact fun same => free (same ▸ by decide)

/-- What the shell offers to travel to are the names of participants other than the user that continue the
typed text, if there is no space in it. A name that is offered takes the user to a participant of this
name exactly when it is one token that selects such a participant, who is not the user. That is so for
all names of a plain roster. -/
theorem offered_targets (roster : Roster) (showIdentity : Nat → String) (user : User)
    (typed : String) :
    ∃ offered, (grammar roster showIdentity).completions ("tp " ++ typed) user.sender =
        pure offered ∧
      (∀ name, name ∈ offered ↔ ' ' ∉ typed.toList ∧ Completion.continues typed name = true ∧
        ∃ participant ∈ roster.participants, participant.name = name ∧
          participant.identity ≠ user.identity) ∧
      ∀ name ∈ offered,
        (Teleports roster showIdentity user ("tp " ++ name) name ↔
          IsToken name.toList ∧
            ∃ participant, roster.target? user name = some participant ∧ participant.name = name) ∧
        (roster.Plain → Teleports roster showIdentity user ("tp " ++ name) name) := by
  obtain ⟨offered, offers, mem_iff⟩ := completions_travel roster showIdentity user typed
  refine ⟨offered, offers, mem_iff, fun name listed => ?_⟩
  obtain ⟨_, _, participant, member, rfl, other⟩ := (mem_iff name).mp listed
  have travels := teleports_iff roster showIdentity user participant.name
  refine ⟨travels, fun plain => travels.mpr ⟨plain.token participant member, participant, ?_, rfl⟩⟩
  rw [Roster.target?, plain.resolve member]
  exact Option.filter_eq_some_iff.mpr ⟨rfl, bne_iff_ne.mpr other.symm⟩

/-- The names of the standard settings are plain, and what is offered to one of these users is of use. -/
theorem offered_targets_standard :
    (Roster.ofNames ["alice", "bob"]).Plain ∧
      ∃ offered, (grammar (.ofNames ["alice", "bob"]) fun _ => "").completions ("tp " ++ "B")
          ((Roster.ofNames ["alice", "bob"]).user "alice").sender = pure offered ∧
        "bob" ∈ offered ∧
        Teleports (.ofNames ["alice", "bob"]) (fun _ => "")
          ((Roster.ofNames ["alice", "bob"]).user "alice") ("tp " ++ "bob") "bob" := by
  have plain : (Roster.ofNames ["alice", "bob"]).Plain :=
    ⟨by decide, by decide, by decide⟩
  obtain ⟨offered, offers, mem_iff, each⟩ := offered_targets (.ofNames ["alice", "bob"])
    (fun _ => "") ((Roster.ofNames ["alice", "bob"]).user "alice") "B"
  have listed : "bob" ∈ offered :=
    (mem_iff _).mpr ⟨by decide, by decide, ⟨"bob", 1⟩, by decide, rfl, by decide⟩
  exact ⟨plain, offered, offers, listed, (each _ listed).2 plain⟩

/-- The settings take a name with a space in it, and the shell offers it, but the name is of no use behind
the command. -/
theorem offered_targets_spaced :
    (Settings.load (.text "[shell]\nparticipants = [\"bob smith\", \"alice\"]\n")).toOption.map
        (·.shell.participants) = some ["bob smith", "alice"] ∧
      (∃ offered, (grammar (.ofNames ["bob smith", "alice"]) fun _ => "").completions ("tp " ++ "")
          ((Roster.ofNames ["bob smith", "alice"]).user "alice").sender = pure offered ∧
        "bob smith" ∈ offered) ∧
      ¬ Teleports (.ofNames ["bob smith", "alice"]) (fun _ => "")
        ((Roster.ofNames ["bob smith", "alice"]).user "alice") ("tp " ++ "bob smith") "bob smith" := by
  refine ⟨by decide +kernel, ?_, fun teleports => ?_⟩
  · obtain ⟨offered, offers, mem_iff⟩ := completions_travel (.ofNames ["bob smith", "alice"])
      (fun _ => "") ((Roster.ofNames ["bob smith", "alice"]).user "alice") ""
    refine ⟨offered, offers, (mem_iff _).mpr ⟨by decide, by decide, ⟨"bob smith", 0⟩, ?_⟩⟩
    exact ⟨by decide, rfl, by decide⟩
  · have unbroken := ((teleports_iff ..).mp teleports).1.2 ' ' (by decide)
    exact absurd isBlank_space (Bool.eq_false_iff.mp unbroken)

end Shell

end CommandGrammar
