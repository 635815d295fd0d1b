import CommandGrammar.Grammar
import CommandGrammar.Session.Question

/-!
# Sessions

A session holds one grammar, the chains it has kept, and the candidate lists of its world. Each
action gives an answer and what the callbacks noted: first while the action went on, and then while
the work it left for later was done.

The clock of a session stands still but for the actions that wait for answers. Work with a delay
that an action leaves sleeps until a later action waits long enough.
-/

set_option autoImplicit false

namespace CommandGrammar.Session

/-- What a declaration hands a builder out for. -/
inductive Note where
  /-- The journal tells of the builder. -/
  | report
  /-- The session keeps the chain of the builder under a name. -/
  | keep (name : String)

/-- A step of a declaration in a session. -/
abbrev Step : Type :=
  Declaration Effect Kind Extra Note

/-- Work that sleeps until the clock shows a time. -/
structure Sleeper where
  wake : Nat
  work : Effect Unit

/-- Where a session stands. -/
structure State where
  grammar : Grammar Effect Kind Extra
  chains : List (String × Chain Effect Kind Extra)
  sources : List (String × List Candidate)
  /-- The time in milliseconds. -/
  clock : Nat
  /-- The work that sleeps, the oldest first. -/
  sleepers : List Sleeper

/-- The state at the start of a session. -/
def State.start (sources : List (String × List Candidate)) : State :=
  ⟨.empty, [], sources, 0, []⟩

/-- What an action gives: its answer, and what was noted during it and after it. -/
structure Report (α : Type) where
  answer : α
  during : List Entry
  later : List Entry

/-- The report of an action that nothing was noted in. -/
def Report.silent {α : Type} (answer : α) : Report α :=
  ⟨answer, [], []⟩

/-- Carries out an effect with an empty journal. -/
def State.perform {α : Type} (state : State) (effect : Effect α) : α × List Entry :=
  let (answer, world) := effect.run ⟨[], state.sources⟩
  (answer, world.journal)

/-- Carries out an effect, and then the work it leaves. -/
def State.report {α : Type} (state : State) (effect : Effect (α × Option (Effect Unit))) :
    Report α :=
  let ((answer, work), during) := state.perform effect
  let later := match work with
    | some work => (state.perform work).2
    | none => []
  ⟨answer, during, later⟩

/-! ## Declaring commands -/

/-- What the journal tells of a builder. -/
def builderEntry (builder : Builder Effect Kind Extra) : Entry :=
  .builder builder.pattern.name (builder.chain.map ChainSummary.of)
    (Ascending.ofList (Assoc.names builder.mappers))

/-- Deals with the builders that a declaration handed out: the entries they give, and the chains
kept. -/
def takeNotes (chains : List (String × Chain Effect Kind Extra)) :
    List (Note × Builder Effect Kind Extra) →
      List Entry × List (String × Chain Effect Kind Extra)
  | [] => ([], chains)
  | (.report, builder) :: rest =>
    let (entries, chains) := takeNotes chains rest
    (builderEntry builder :: entries, chains)
  | (.keep name, builder) :: rest =>
    match builder.chain with
    | some chain => takeNotes (Assoc.put name chain chains) rest
    | none => takeNotes chains rest

/-- Declares one command: its root, and what was noted. -/
def State.declare (state : State) (name : String) (body : List Step) :
    State × Node Effect Kind Extra × List Entry :=
  let draft := state.grammar.draft name body
  let (entries, chains) := takeNotes state.chains draft.notes
  ({ state with grammar := state.grammar.register draft, chains }, draft.builder.build, entries)

/-- Declares commands in order: their roots, and what was noted. -/
def State.declareAll (state : State) :
    List (String × List Step) → State × Report (List (Node Effect Kind Extra))
  | [] => (state, .silent [])
  | (name, body) :: rest =>
    let (state, root, entries) := state.declare name body
    let (state, report) := state.declareAll rest
    (state, { report with answer := root :: report.answer, during := entries ++ report.during })

/-- Declares the same command under a name and its aliases. -/
def State.command (state : State) (name : String) (aliases : List String) (body : List Step) :
    State × Report (List (Node Effect Kind Extra)) :=
  state.declareAll ((name :: aliases).map fun label => (label, body))

/-- Replaces a named list of candidates. -/
def State.setSource (state : State) (name : String) (candidates : List Candidate) : State :=
  { state with sources := Assoc.put name candidates state.sources }

/-! ## Running lines -/

/-- The work that an outcome leaves. -/
def workOf {ε : Type} : Except ε (Outcome Effect) → Option (Effect Unit)
  | .ok (.handled (some job)) => some job.run
  | _ => none

/-- Runs a line. -/
def State.execute (state : State) (line : String) (sender : Sender Effect Kind) :
    Report (Except DispatchError (Outcome Effect)) :=
  state.report do
    let result ← state.grammar.execute line sender
    return (result, workOf result)

/-! ## Waiting for answers -/

/-- How long it takes until all answers are there. -/
def longestDelay (answers : List (Completion.Pending Effect)) : Nat :=
  (answers.filterMap Completion.Pending.work?).foldl (fun longest job => max longest job.delay) 0

/-- The sleepers that wake within a delay, as answers that offer nothing. -/
def State.wakingWithin (state : State) (delay : Nat) : List (Completion.Pending Effect) :=
  (state.sleepers.filter fun sleeper => sleeper.wake ≤ state.clock + delay).map fun sleeper =>
    .waiting
      { delay := sleeper.wake - state.clock
        run := do
          sleeper.work
          return none }

/-- Advances the clock by a delay, after the sleepers that wake within it have done their work. -/
def State.advance (state : State) (delay : Nat) : State :=
  { state with
    clock := state.clock + delay
    sleepers := state.sleepers.filter fun sleeper => state.clock + delay < sleeper.wake }

/-- Lets work sleep for a delay. -/
def State.sleep (state : State) (delay : Nat) (work : Effect Unit) : State :=
  { state with sleepers := state.sleepers ++ [⟨state.clock + delay, work⟩] }

/-- Asks for the completions of a line: how many sources were asked, and what they offer. -/
def State.complete (state : State) (line : String) (sender : Sender Effect Kind) :
    State × Report (Nat × List String) :=
  let report := state.report do
    let answers ← state.grammar.complete line sender
    let delay := longestDelay answers
    let offers ← Completion.collect (state.wakingWithin delay ++ answers)
    return ((delay, answers.length, offers), none)
  (state.advance report.answer.1, { report with answer := report.answer.2 })

/-! ## Asking single nodes and chains -/

/-- Whether a sender may use a node. -/
def State.allows (state : State) (node : Node Effect Kind Extra) (sender : Sender Effect Kind) :
    Report Bool :=
  state.report do
    return (← node.clause.allows sender, none)

/-- Runs the chain of a node on given arguments. -/
def State.executeNode (state : State) (node : Node Effect Kind Extra)
    (sender : Sender Effect Kind) (line : String) (arguments : Bindings) :
    Report (Except CommandError (Outcome Effect)) :=
  state.report do
    let result ← node.clause.execute sender line arguments
    return (result, workOf result)

/-- Waits for an answer several times over: the offers of each time, and what is left of the answer.
-/
def awaitTimes (answer : Completion.Pending Effect) :
    Nat → Effect (List (List String) × Completion.Pending Effect)
  | 0 => return ([], answer)
  | times + 1 => do
    let (offers, rest) ← answer.await
    let (later, rest) ← awaitTimes rest times
    return (offers :: later, rest)

/-- Asks a node for completions and waits for its answer several times over. Where nobody waits, the
work for the answer is left: without a delay it is done right after the action. -/
def State.suggest (state : State) (node : Node Effect Kind Extra) (sender : Sender Effect Kind)
    (line : String) (arguments : Bindings) (remaining : String) (start times : Nat) :
    State × Report (List (List String)) :=
  let report := state.report do
    let answer ← node.clause.offers
      { invocation := Invocation.of sender line arguments node.clause.mappers, remaining, start }
    let delay := longestDelay [answer]
    let waited := if times = 0 then 0 else delay
    let _ ← Completion.collect (state.wakingWithin waited)
    let (offers, rest) ← awaitTimes answer times
    let left : Option (Effect Unit) := rest.work?.map fun job => do let _ ← job.run
    let (now, sleeping) := if delay = 0 then (left, none) else (none, left)
    return ((delay, waited, sleeping, offers), now)
  let (delay, waited, sleeping, offers) := report.answer
  let state := state.advance waited
  let state := match sleeping with
    | some work => state.sleep delay work
    | none => state
  (state, { report with answer := offers })

/-- Runs a kept chain on given arguments. -/
def State.runChain (state : State) (chain : Chain Effect Kind Extra)
    (sender : Sender Effect Kind) (line : String) (arguments : Bindings) :
    Report (Except CommandError (Outcome Effect)) :=
  state.report do
    let result ← chain.run sender line arguments
    return (result, workOf result)

end CommandGrammar.Session
