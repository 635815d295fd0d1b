import CommandGrammar.Proofs.Asking
import CommandGrammar.Proofs.Printing
import CommandGrammar.Proofs.Promising
import CommandGrammar.Proofs.Registering
import CommandGrammar.Shell

/-!
# What a line of the shell does

A line of the shell prints lines and comes to an outcome, and neither depends on what was printed before.
It leaves work for later exactly when it selects the argument of the sleeping command
(`Shell.Dispatches`): the handler of that argument is the only one that does, it claims every line that a
user sends it, and the number of seconds that it finds lies between the bounds of the argument
(`Shell.processLine_answers`).
-/

set_option autoImplicit false

namespace CommandGrammar

/-- A node below another one has one of its clauses. -/
theorem Node.clause_mem_of_descendant? {m : Type → Type} {κ ε : Type} {node below : Node m κ ε}
    {path : List Nat} (stands : node.descendant? path = some below) :
    below.clause ∈ Node.clauses node := by
  induction path generalizing node with
  | nil =>
    cases stands
    obtain ⟨clause, children⟩ := below
    exact List.mem_cons_self
  | cons position rest ih =>
    rw [Node.descendant?] at stands
    obtain ⟨child, at_, stands'⟩ := Option.bind_eq_some_iff.mp stands
    obtain ⟨clause, children⟩ := node
    refine List.mem_cons_of_mem _ ?_
    exact Node.clauses_subset (List.mem_of_getElem? at_) (ih stands')

namespace Shell

open Text

variable {α β : Type} {roster : Roster} {showIdentity : Nat → String}

/-! ## The forest of the shell -/

/-- The clause of the argument that tells how long to sleep. -/
def secondsClause (serial : Nat) : Clause Printing Kind Extra where
  pattern := .argument "seconds" (.integer 0 60)
  requirements := []
  source := some (.deferred .running fun _ => ⟨0, pure (some ["1", "5", "10"])⟩)
  chain := some ⟨[⟨.only .user, serial, .background .running sleepJob⟩], []⟩
  mappers := []

/-- The root of the sleeping command. -/
def sleepRoot (serial : Nat) : Node Printing Kind Extra :=
  .mk
    { pattern := .literal "sleep", requirements := [], source := none, chain := none, mappers := [] }
    [.mk (secondsClause serial) []]

/-- The clauses of some roots are made of callbacks that only print. -/
def QuietRoots (roots : List (Node Printing Kind Extra)) : Prop :=
  ∀ clause ∈ Node.allClauses roots, clause.MadeOf quietParts

/-- Of the commands of the shell, the one before the last sleeps. -/
theorem roots_eq (roster : Roster) (showIdentity : Nat → String) :
    ∃ before serial after, (grammar roster showIdentity).roots = before ++ sleepRoot serial :: after ∧
      before.length = 6 ∧ QuietRoots before ∧ QuietRoots after := by
  let first : Grammar Printing Kind Extra :=
    (((Grammar.empty.command "teleport" ["tp"] (teleportSteps roster)).declare "crate" crateSteps).declare
      "spawn" spawnSteps).declare "clear" clearSteps
  let second := first.declare "msg" (messageSteps roster)
  let third := second.declare "sleep" sleepSteps
  have quiet : second.MadeOf quietParts :=
    ((((Grammar.madeOf_empty.command _ _ (quiet_teleport roster)).declare _ quiet_crate).declare _
      quiet_spawn).declare _ quiet_clear).declare _ (quiet_message roster)
  refine ⟨second.roots, second.declared,
    [(third.draft "admin" (adminSteps showIdentity)).builder.build], rfl, rfl, quiet, ?_⟩
  intro clause member
  rw [Node.allClauses, Node.allClauses, List.append_nil] at member
  exact third.madeOf_draft "admin" (quiet_admin showIdentity) clause member

/-- Every clause of the shell is made of callbacks that only print, or is the one that tells how long to
sleep. -/
theorem clause_cases {clause : Clause Printing Kind Extra}
    (member : clause ∈ Node.allClauses (grammar roster showIdentity).roots) :
    clause.MadeOf quietParts ∨ ∃ serial, clause = secondsClause serial := by
  obtain ⟨before, serial, after, roots, _, quiet, quiet'⟩ := roots_eq roster showIdentity
  rw [roots, Node.allClauses_append, Node.allClauses, List.mem_append, List.mem_append] at member
  rcases member with earlier | sleeps | later
  · exact .inl (quiet clause earlier)
  · rcases List.mem_cons.mp sleeps with rfl | below
    · exact .inl ⟨nofun, nofun, nofun, nofun⟩
    · exact .inr ⟨serial, List.mem_singleton.mp below⟩
  · exact .inl (quiet' clause later)

/-- What a sender may use is decided by its permissions. -/
def usable (sender : ShellSender) (clause : Clause Printing Kind Extra) : Bool :=
  clause.requirements.all fun requirement => ((requirement sender).run []).1

/-- Who may use the nodes of the shell is decided. -/
theorem decided (roster : Roster) (showIdentity : Nat → String) (sender : ShellSender) :
    Decided sender (usable sender) (grammar roster showIdentity).roots := by
  refine decided_of_requirements fun clause member requirement asked => ?_
  rcases clause_cases member with made | ⟨serial, rfl⟩
  · obtain ⟨permission, rfl⟩ := made.requirements requirement asked
    rfl
  · cases asked

/-- The roots of the shell are fixed words. -/
theorem literalRoots (roster : Roster) (showIdentity : Nat → String) :
    (grammar roster showIdentity).LiteralRoots :=
  ((((((Grammar.literalRoots_empty.command _ _ _).declare _ _).declare _ _).declare _ _).declare _
    _).declare _ _).declare _ _

/-! ## Lines only print -/

/-- Each visit prints behind those before it. -/
theorem Prints.mapM {good : β → Prop} {visit : α → Printing β} {members : List α}
    (prints : ∀ member ∈ members, Prints good (visit member)) :
    Prints (fun values => ∀ value ∈ values, good value) (members.mapM visit) := by
  induction members with
  | nil => exact .pure_ nofun
  | cons member rest ih =>
    rw [List.mapM_cons]
    refine (prints member List.mem_cons_self).bind fun value good_ => ?_
    refine (ih fun other behind => prints other (List.mem_cons_of_mem _ behind)).bind fun values all => ?_
    exact .pure_ (List.forall_mem_cons.mpr ⟨good_, all⟩)

/-- An invocation of a line only prints when its mappers do. -/
theorem quiet_invocation {sender : ShellSender} (tells : ∀ text, OnlyPrints (sender.tell text))
    (input : String) (arguments : Bindings) {mappers : Mappers Printing Kind Extra}
    (made : mappers.MadeOf quietParts) : Quiet (Invocation.of sender input arguments mappers) := by
  refine ⟨tells, fun id => ?_⟩
  show OnlyPrints (resolveWith sender input arguments (Assoc.names mappers) mappers id)
  generalize Assoc.names mappers = ids
  -- A mapper is set aside while it runs, so that there is one fewer of them for what it asks.
  generalize size : mappers.length = count
  induction count using Nat.strongRecOn generalizing mappers id with
  | ind count ih =>
    cases mapped : mappers.lookup id with
    | none =>
      rw [resolveWith_of_none sender input arguments mapped]
      exact .pure_ _
    | some mapper =>
      rw [resolveWith_of_mapper sender input arguments mapped]
      have fewer : Mappers.MadeOf quietParts (Assoc.erase id mappers) := by
        intro other held found
        rw [Assoc.lookup_erase] at found
        split at found
        · cases found
        · exact made other held found
      exact made id mapper mapped _
        ⟨tells, fun other => ih _ (size ▸ length_erase_lt_of_lookup mapped) fewer other rfl⟩

/-- The work of an answer, if there is any, only prints. -/
def QuietAnswer (answer : Completion.Pending Printing) : Prop :=
  ∀ work, answer = .waiting work → OnlyPrints work.run

/-- A clause of the shell that is asked only prints, and so does the work it leaves. -/
theorem offers_prints {clause : Clause Printing Kind Extra}
    {query : Completion.Query Printing Kind Extra} (quiet : Quiet query.invocation)
    (source : ∀ source, clause.source = some source → QuietSource source) :
    Prints QuietAnswer (clause.offers query) := by
  unfold Clause.offers
  cases held : clause.source with
  | none =>
    cases clause.pattern with
    | literal name => exact .pure_ nofun
    | argument name form => exact .pure_ nofun
  | some asked =>
    have quiet' := source asked held
    cases asked with
    | immediate offer => exact Prints.bind (quiet' query quiet) fun _ _ => .pure_ nofun
    | deferred scheduler work =>
      cases scheduler with
      | stopped => exact .pure_ nofun
      | running =>
        refine .pure_ fun _ same => ?_
        cases same
        exact quiet' query quiet

/-- Waiting for answers whose work only prints does nothing else. -/
theorem collect_prints {answers : List (Completion.Pending Printing)}
    (quiet : ∀ answer ∈ answers, QuietAnswer answer) : OnlyPrints (Completion.collect answers) := by
  have works : Prints (fun found => ∀ offers ∈ found, True)
      ((Completion.byDelay (answers.filterMap Completion.Pending.work?)).mapM fun work => work.run) :=
    Prints.mapM fun work member => quiet _ (Completion.mem_awaited_iff.mp member) work rfl
  exact works.bind fun _ _ => .pure_ trivial

section Lines

variable {sender : ShellSender} {line : String}

/-- Completing a line only prints. -/
theorem completions_prints (tells : ∀ text, OnlyPrints (sender.tell text)) :
    OnlyPrints ((grammar roster showIdentity).completions line sender) := by
  unfold Grammar.completions
  rw [Grammar.complete_eq_visits (decided roster showIdentity sender)]
  refine Prints.bind (Prints.mapM fun path listed => ?_) fun answers quiet => collect_prints quiet
  have member := (mem_tries.mp (List.mem_filter.mp listed).1).clause_mem
  rcases clause_cases member with made | ⟨serial, same⟩
  · exact offers_prints (quiet_invocation tells _ _ made.mappers) made.source
  · refine offers_prints (quiet_invocation tells _ _ (same ▸ nofun)) fun source held => ?_
    rw [same] at held
    cases held
    exact fun _ _ => .pure_ _

/-- Handlers that answer at once leave no work. -/
theorem tryHandlers_prints {context : Context} (quiet : Quiet context)
    {handlers : List (Handler Printing Kind Extra)} (made : Handlers.MadeOf quietParts handlers) :
    Prints (fun result => ∀ work, result ≠ .ok (.handled (some work)))
      (Chain.tryHandlers context handlers) := by
  induction handlers with
  | nil => exact .pure_ nofun
  | cons handler rest ih =>
    have behind := ih fun other member => made other (List.mem_cons_of_mem _ member)
    obtain ⟨answer, body, prints⟩ := made handler List.mem_cons_self
    unfold Chain.tryHandlers
    split
    · rw [body]
      refine Prints.bind (prints context quiet) fun result _ => ?_
      cases result with
      | error reason => exact .pure_ nofun
      | ok claims =>
        cases claims with
        | true => exact .pure_ nofun
        | false => exact behind
    · exact behind

/-- A line that selects a node with callbacks that only print leaves no work. -/
theorem run_prints (tells : ∀ text, OnlyPrints (sender.tell text))
    {node : Node Printing Kind Extra} {arguments : Bindings}
    (made : node.clause.MadeOf quietParts) :
    Prints (fun result => ∀ work, result ≠ .ok (.handled (some work)))
      (Search.run line sender (.found node arguments)) := by
  unfold Search.run
  dsimp only
  cases bound : node.clause.chain with
  | none => exact .pure_ fun _ same => nomatch same
  | some chain =>
    have quiet := quiet_invocation tells line arguments (made.chain chain bound).mappers
    have handled := tryHandlers_prints quiet (made.chain chain bound).handlers
    show Prints _ (_ <$> Chain.tryHandlers _ chain.handlers)
    rw [map_eq_pure_bind]
    refine handled.bind fun result none_ => .pure_ ?_
    cases result with
    | error reason => exact nofun
    | ok outcome =>
      rintro work same
      cases same
      exact none_ work rfl

end Lines

/-! ## Lines that send someone to sleep -/

/-- The line is run by the argument of the sleeping command (`node?_sleep` says that it stands there), with
a number of seconds. -/
def Dispatches (grammar : Grammar Printing Kind Extra) (sender : ShellSender) (line : String)
    (seconds : Int32) : Prop :=
  ∃ command node arguments binding, Request.ofLine line = .run command ∧
    grammar.select command.toList sender = pure (.found node arguments) ∧
    grammar.node? [6, 0] = some node ∧
    arguments.lookup "seconds" = some binding ∧ binding.value = .int seconds

/-- What is said when someone wakes. -/
def wakeText (user : User) (seconds : Int32) : String :=
  user.name ++ " woke up after " ++ showInt seconds ++ "s"

/-- What a user is told is printed. -/
theorem user_tells (user : User) (text : String) : OnlyPrints (user.sender.tell text) :=
  .line text

/-- The argument of the sleeping command does more than print. -/
theorem secondsClause_loud (serial : Nat) : ¬ (secondsClause serial).MadeOf quietParts := by
  intro made
  obtain ⟨_, body, _⟩ := (made.chain _ rfl).handlers _ List.mem_cons_self
  cases body

/-- The sleeping command stands behind six others, and its argument below it. -/
theorem node?_sleep (roster : Roster) (showIdentity : Nat → String) :
    ∃ root node serial, (grammar roster showIdentity).node? [6] = some root ∧
      root.clause.pattern = .literal "sleep" ∧
      (grammar roster showIdentity).node? [6, 0] = some node ∧
      node.clause = secondsClause serial := by
  obtain ⟨before, serial, after, roots, count, _⟩ := roots_eq roster showIdentity
  have stands : (grammar roster showIdentity).roots[6]? = some (sleepRoot serial) := by
    rw [roots, List.getElem?_append_right (Nat.le_of_eq count), count]
    rfl
  refine ⟨sleepRoot serial, .mk (secondsClause serial) [], serial, ?_, rfl, ?_, rfl⟩
  · rw [Grammar.node?, stands]
    rfl
  · rw [Grammar.node?, stands]
    rfl

/-- The argument of the sleeping command stands in no other place. -/
theorem node?_of_secondsClause {path : List Nat} {node : Node Printing Kind Extra} {serial : Nat}
    (stands : (grammar roster showIdentity).node? path = some node)
    (clause : node.clause = secondsClause serial) :
    (grammar roster showIdentity).node? [6, 0] = some node := by
  obtain ⟨before, serial', after, roots, count, quiet, quiet'⟩ := roots_eq roster showIdentity
  have elsewhere : ∀ {roots : List (Node Printing Kind Extra)} {position : Nat} {rest : List Nat}
      {root : Node Printing Kind Extra}, QuietRoots roots → roots[position]? = some root →
      root.descendant? rest ≠ some node := by
    intro roots position rest root quiet at_ stands
    refine secondsClause_loud serial (clause ▸ quiet _ ?_)
    exact Node.clauses_subset (List.mem_of_getElem? at_) (Node.clause_mem_of_descendant? stands)
  cases path with
  | nil => cases stands
  | cons position rest =>
    rw [Grammar.node?, roots] at stands
    obtain ⟨root, at_, stands'⟩ := Option.bind_eq_some_iff.mp stands
    rcases Nat.lt_trichotomy position 6 with earlier | rfl | later
    · rw [List.getElem?_append_left (count ▸ earlier)] at at_
      exact absurd stands' (elsewhere quiet at_)
    · rw [List.getElem?_append_right (Nat.le_of_eq count), count] at at_
      cases at_
      -- Below the root of the command there is nothing but its argument.
      have last : rest = [0] := by
        rcases rest with _ | ⟨first, deeper⟩
        · cases stands'
          cases clause
        · rcases first with _ | first
          · rcases deeper with _ | ⟨second, deeper⟩
            · rfl
            · cases stands'
          · cases stands'
      rw [Grammar.node?, roots, List.getElem?_append_right (Nat.le_of_eq count), count]
      rw [last] at stands'
      exact stands'
    · rw [List.getElem?_append_right (count ▸ Nat.le_of_lt later), count] at at_
      obtain ⟨offset, rfl⟩ := Nat.exists_eq_add_of_lt later
      rw [show 6 + offset + 1 - 6 = offset + 1 by omega, List.getElem?_cons_succ] at at_
      exact absurd stands' (elsewhere quiet' at_)

/-- The forms of the arguments of the shell are the library's own. -/
theorem patterns_native (roster : Roster) (showIdentity : Nat → String) :
    ∀ clause ∈ Node.allClauses (grammar roster showIdentity).roots, clause.pattern.isNative = true :=
  List.all_eq_true.mp rfl

/-- A full path to the argument of the sleeping command binds it to a number between its bounds. -/
theorem seconds_of_fullPath {line : List Char} {usable : Clause Printing Kind Extra → Bool}
    {path : Path Printing Kind Extra} {serial : Nat}
    (full : FullPath line usable (grammar roster showIdentity).roots path)
    (clause : path.last.node.clause = secondsClause serial) :
    ∃ binding seconds, Attempt.deepest? path.attempts.tail "seconds" = some binding ∧
      binding.value = .int seconds ∧ 0 ≤ seconds ∧ seconds ≤ 60 := by
  have kept := full.tried.kept (patterns_native roster showIdentity) ⟨[], line, rfl, rfl⟩
    (fullPath_iff.mp full).2
  have pattern : path.last.node.clause.pattern = .argument "seconds" (.integer 0 60) := by
    rw [clause]
    rfl
  obtain ⟨binding, parsed, text, ⟨seconds, value, low, high⟩, _⟩ :=
    (kept path.last (List.mem_append_right _ List.mem_cons_self)).argument _ _ pattern
  refine ⟨binding, seconds, ?_, value, low, high⟩
  rw [full.deepest?_tail (full.startsFixed (literalRoots roster showIdentity)), ← parsed]
  exact Attempt.deepest?_of_split kept ⟨_, pattern⟩ nofun

/-- What was run and left no work needs none. -/
theorem outcomeOfRun_work {sender : ShellSender} {line : String}
    {result : Except DispatchError (Outcome Printing)}
    (idle : ∀ work, result ≠ .ok (.handled (some work))) :
    (outcomeOfRun sender line result).2 = none := by
  cases result with
  | error reason => rfl
  | ok outcome =>
    cases outcome with
    | exhausted => rfl
    | handled work =>
      cases work with
      | none => rfl
      | some job => exact absurd rfl (idle job)

/-- What becomes of a line: its outcome, the lines that it prints by itself, and the seconds that its
sender goes to sleep for. -/
structure Answer where
  outcome : LineOutcome
  own : List String
  seconds? : Option Int32

/-- The work of a user who sleeps. -/
def wakeJob (user : User) (seconds : Int32) : Job Printing Unit :=
  ⟨1000 * seconds.toInt.toNat, printLine (wakeText user seconds)⟩

/-- This is what becomes of a line that a user sends, whatever was printed before. -/
structure Answers (grammar : Grammar Printing Kind Extra) (user : User) (line : String)
    (answer : Answer) : Prop where
  runs : ∀ printed, (processLine grammar user.sender line).run printed =
    ((answer.outcome, answer.seconds?.map (wakeJob user)), printed ++ answer.own)
  dispatches : ∀ seconds,
    Dispatches grammar user.sender line seconds ↔ answer.seconds? = some seconds
  bounds : ∀ seconds, answer.seconds? = some seconds → 0 ≤ seconds ∧ seconds ≤ 60

/-- A line that selects something sends someone to sleep only by the argument of the sleeping command. -/
theorem Dispatches.of_selects {grammar : Grammar Printing Kind Extra} {sender : ShellSender}
    {line command : String} {seconds : Int32} {search : Search Printing Kind Extra}
    (asks : Request.ofLine line = .run command)
    (selects : grammar.select command.toList sender = pure search)
    (dispatches : Dispatches grammar sender line seconds) :
    ∃ node arguments binding, search = .found node arguments ∧
      grammar.node? [6, 0] = some node ∧ arguments.lookup "seconds" = some binding ∧
      binding.value = .int seconds := by
  obtain ⟨command', node, arguments, binding, asks', selects', stands, bound, value⟩ := dispatches
  obtain rfl : command = command' := by
    rw [asks] at asks'
    cases asks'
    rfl
  rw [selects] at selects'
  -- What is come to without an effect can be read off a run.
  have same := congrArg (fun plain => (StateT.run plain ([] : List String)).1) selects'
  exact ⟨node, arguments, binding, same, stands, bound, value⟩

/-- What leaves no work is answered without sleep. -/
theorem Answers.of_prints {grammar : Grammar Printing Kind Extra} {user : User} {line : String}
    (prints : Prints (fun result => result.2 = none) (processLine grammar user.sender line))
    (awake : ∀ seconds, ¬ Dispatches grammar user.sender line seconds) :
    ∃ answer, Answers grammar user line answer := by
  obtain ⟨⟨outcome, work⟩, own, none_, runs⟩ := prints
  cases none_
  exact ⟨⟨outcome, own, none⟩, runs, fun seconds => ⟨fun there => (awake seconds there).elim, nofun⟩,
    nofun⟩

/-- A line that asks for no command sends nobody to sleep. -/
theorem not_dispatches {grammar : Grammar Printing Kind Extra} {sender : ShellSender} {line : String}
    (other : ∀ command, Request.ofLine line ≠ .run command) (seconds : Int32) :
    ¬ Dispatches grammar sender line seconds := by
  rintro ⟨command, _, _, _, asks, _⟩
  exact other command asks

/-- A command is run by what it selects. -/
theorem processLine_run {grammar : Grammar Printing Kind Extra} {sender : ShellSender}
    {line command : String} {search : Search Printing Kind Extra}
    (asks : Request.ofLine line = .run command)
    (selects : grammar.select command.toList sender = pure search) :
    processLine grammar sender line =
      (search.run command sender >>= fun result => pure (outcomeOfRun sender command result)) := by
  unfold processLine
  rw [asks]
  dsimp only
  rw [Grammar.execute_eq_run, selects, pure_bind]

/-- A user whose line selects the argument of the sleeping command goes to sleep. -/
theorem run_sleeps {node : Node Printing Kind Extra} {serial : Nat} {arguments : Bindings}
    {binding : Binding} {seconds : Int32} (clause : node.clause = secondsClause serial)
    (bound : arguments.lookup "seconds" = some binding) (value : binding.value = .int seconds)
    (user : User) (command : String) :
    Search.run command user.sender (.found node arguments) =
      pure (.ok (.handled (some (wakeJob user seconds)))) := by
  let context : Context := Invocation.of user.sender command arguments []
  have works : sleepJob context = wakeJob user seconds := by
    have raw : context.raw? "seconds" = some (.int seconds) := by
      show (arguments.lookup "seconds").map Binding.value = _
      rw [bound, ← value]
      rfl
    have read : context.int "seconds" = .ok seconds := by
      simp only [Invocation.int, Invocation.rawAs, raw, Raw.int?]
    unfold sleepJob
    rw [read]
    rfl
  have runs : Search.run command user.sender (.found node arguments) =
      pure (.ok (.handled (some (sleepJob context)))) := by
    unfold Search.run
    dsimp only
    rw [clause]
    rfl
  rw [runs, works]

/-- A line that selects the argument of the sleeping command sends the user to sleep, and does nothing
else. -/
theorem Answers.of_sleeps {user : User} {line command : String} {node : Node Printing Kind Extra}
    {arguments : Bindings} {serial : Nat} {binding : Binding} {seconds : Int32}
    (asks : Request.ofLine line = .run command)
    (selects : (grammar roster showIdentity).select command.toList user.sender =
      pure (.found node arguments))
    (stands : (grammar roster showIdentity).node? [6, 0] = some node)
    (clause : node.clause = secondsClause serial)
    (bound : arguments.lookup "seconds" = some binding) (value : binding.value = .int seconds)
    (bounds : 0 ≤ seconds ∧ seconds ≤ 60) :
    Answers (grammar roster showIdentity) user line ⟨.proceed [], [], some seconds⟩ where
  runs := by
    intro printed
    rw [processLine_run asks selects, run_sleeps clause bound value, List.append_nil]
    rfl
  dispatches := by
    intro other
    constructor
    · intro dispatches
      obtain ⟨node, arguments, binding', same, _, bound', value'⟩ := dispatches.of_selects asks selects
      cases same
      obtain rfl : binding = binding' := Option.some.inj (bound.symm.trans bound')
      exact congrArg some (Raw.int.inj (value.symm.trans value'))
    · rintro ⟨⟩
      exact ⟨command, _, _, _, asks, selects, stands, bound, value⟩
  bounds := by
    rintro other ⟨⟩
    exact bounds

/-- Every command of a user has an answer. -/
theorem processLine_answers_run (roster : Roster) (showIdentity : Nat → String) (user : User)
    {line command : String} (asks : Request.ofLine line = .run command) :
    ∃ answer, Answers (grammar roster showIdentity) user line answer := by
  have selects : (grammar roster showIdentity).select command.toList user.sender = _ :=
    Grammar.select_eq_ofTries (decided roster showIdentity user.sender)
  cases found : Search.ofTries command.toList .empty
      (tries command.toList (usable user.sender) (grammar roster showIdentity).roots 0) with
  | missed deepest =>
    rw [found] at selects
    refine Answers.of_prints ?_ fun seconds dispatches => ?_
    · rw [processLine_run asks selects]
      exact .pure_ rfl
    · obtain ⟨_, _, _, same, _⟩ := dispatches.of_selects asks selects
      cases same
  | found node arguments =>
    rw [found] at selects
    obtain ⟨path, first, rfl, rfl⟩ := Search.isFirst_of_ofTries found
    have full := first.has
    rcases clause_cases full.tried.clause_mem with made | ⟨serial, clause⟩
    · refine Answers.of_prints ?_ fun seconds dispatches => ?_
      · rw [processLine_run asks selects]
        exact (run_prints (user_tells user) made).bind fun result idle =>
          .pure_ (outcomeOfRun_work idle)
      · obtain ⟨_, sleeping, serial, _, _, stands, clause⟩ := node?_sleep roster showIdentity
        obtain ⟨node, _, _, same, stands', _⟩ := dispatches.of_selects asks selects
        obtain rfl : sleeping = node := Option.some.inj (stands.symm.trans stands')
        cases same
        exact secondsClause_loud serial (clause ▸ made)
    · obtain ⟨binding, seconds, bound, value, bounds⟩ := seconds_of_fullPath full clause
      have bound' : (Attempt.bindAll path.attempts.tail Trail.empty.arguments).lookup "seconds" =
          some binding := by
        rw [Attempt.lookup_bindAll, bound]
        rfl
      exact ⟨_, .of_sleeps asks selects (node?_of_secondsClause full.tried.node?_eq clause) clause bound'
        value bounds⟩

/-- Every line of a user has an answer: it prints lines behind those that are there and comes to an
outcome, and goes to sleep exactly when it selects the argument of the sleeping command. -/
theorem processLine_answers (roster : Roster) (showIdentity : Nat → String) (user : User)
    (line : String) : ∃ answer, Answers (grammar roster showIdentity) user line answer := by
  cases asks : Request.ofLine line with
  | complete start =>
    have answers : processLine (grammar roster showIdentity) user.sender line =
        ((grammar roster showIdentity).completions start user.sender >>= fun offers =>
          pure (.proceed offers, none)) := by
      unfold processLine Grammar.completions
      rw [asks, bind_assoc]
    refine Answers.of_prints ?_ (not_dispatches fun command => asks ▸ nofun)
    rw [answers]
    exact Prints.bind (completions_prints (user_tells user)) fun _ _ => .pure_ rfl
  | nothing | leave =>
    refine Answers.of_prints ?_ (not_dispatches fun command => asks ▸ nofun)
    unfold processLine
    rw [asks]
    exact .pure_ rfl
  | run command => exact processLine_answers_run roster showIdentity user asks

end Shell

end CommandGrammar
