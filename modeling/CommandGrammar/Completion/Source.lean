import CommandGrammar.Collection.Ascending
import CommandGrammar.Completion.Matching
import CommandGrammar.Invocation.Mapper
import CommandGrammar.Task.Job

/-!
# Completion sources

A source offers texts for the part of a line that its node would take. An immediate source answers
when it is asked. A deferred one hands its work to a scheduler and answers later, if at all: a
stopped scheduler drops the work, and work that breaks off gives no answer. Either way nothing is
offered, and the answers of other sources are untouched.

`collect` waits for every answer and gives the distinct texts in ascending order. Waiting sources
run in the order of their delays.
-/

set_option autoImplicit false

namespace CommandGrammar.Completion

/-- What a source is asked: the invocation so far, the text it should complete, and the byte offset
of that text in the line. -/
structure Query (m : Type → Type) (κ ε : Type) where
  invocation : Invocation m κ ε
  remaining : String
  start : Nat

/-- Offers texts for a query. -/
inductive Source (m : Type → Type) (κ ε : Type) where
  | immediate (offer : Query m κ ε → m (List String))
  | deferred (scheduler : Scheduler) (work : Query m κ ε → Job m (Option (List String)))

/-- The answer to a query: given, still awaited, or never to come. -/
inductive Pending (m : Type → Type) where
  | ready (offers : List String)
  | waiting (work : Job m (Option (List String)))
  | lost

variable {m : Type → Type} {κ ε : Type}

/-- Whether the source answers later. -/
def Source.isDeferred : Source m κ ε → Bool
  | .immediate _ => false
  | .deferred .. => true

/-- The work of an answer that is still awaited. -/
def Pending.work? : Pending m → Option (Job m (Option (List String)))
  | .waiting work => some work
  | _ => none

/-- The offers that need no waiting. -/
def Pending.readyOffers : Pending m → List String
  | .ready offers => offers
  | _ => []

variable [Monad m]

/-- Asks a source. -/
def Source.ask (source : Source m κ ε) (query : Query m κ ε) : m (Pending m) :=
  match source with
  | .immediate offer => do return .ready (← offer query)
  | .deferred scheduler work =>
    match scheduler.accept (work query) with
    | some accepted => pure (.waiting accepted)
    | none => pure .lost

/-- Waits for one answer; what is left of it afterwards is empty. -/
def Pending.await : Pending m → m (List String × Pending m)
  | .ready offers => pure (offers, .ready [])
  | .waiting work => do return ((← work.run).getD [], .ready [])
  | .lost => pure ([], .lost)

/-- Work in the order in which it starts: by delay, and in the given order where delays agree. -/
def byDelay {α : Type} (work : List (Job m α)) : List (Job m α) :=
  work.mergeSort fun first second => first.delay ≤ second.delay

/-- Waits for all answers and gives the distinct offers in ascending order. -/
def collect (answers : List (Pending m)) : m (List String) := do
  let late ← (byDelay (answers.filterMap Pending.work?)).mapM fun work => work.run
  return Ascending.ofList (answers.flatMap Pending.readyOffers ++ late.flatMap (·.getD []))

end CommandGrammar.Completion
