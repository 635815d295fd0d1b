import CommandGrammar.Invocation.Mapper
import CommandGrammar.Task.Job

/-!
# Handler chains

A chain is a list of handlers, each declared for an audience, together with the mappers in force
where the chain was made. Running a chain tries the handlers whose audience admits the sender, in
order, and stops at the first one that claims the invocation or fails. A background handler claims
the invocation as soon as its work is handed over, whatever the work comes to later.
-/

set_option autoImplicit false

namespace CommandGrammar

/-- What a handler does with an invocation. -/
inductive Body (m : Type → Type) (κ ε : Type) where
  /-- Answers at once whether it claims the invocation. -/
  | direct (answer : Invocation m κ ε → m (Except CommandError Bool))
  /-- Claims the invocation and leaves the work for later. -/
  | background (scheduler : Scheduler) (job : Invocation m κ ε → Job m Unit)

/-- A body and the senders it is declared for. Each declaration makes a handler of its own, and
`serial` tells the handlers apart. -/
structure Handler (m : Type → Type) (κ ε : Type) where
  audience : Audience κ
  serial : Nat
  body : Body m κ ε

/-- Handlers in the order they are tried, and the mappers their invocations use. -/
structure Chain (m : Type → Type) (κ ε : Type) where
  handlers : List (Handler m κ ε)
  mappers : Mappers m κ ε

/-- How a chain ended: some handler claimed the invocation, perhaps leaving work for later, or none
did. -/
inductive Outcome (m : Type → Type) where
  | handled (work : Option (Job m Unit))
  | exhausted

namespace Chain

variable {m : Type → Type} {κ ε : Type} [Monad m] [DecidableEq κ]

/-- Tries handlers in order until one claims the invocation or fails. -/
def tryHandlers (invocation : Invocation m κ ε) :
    List (Handler m κ ε) → m (Except CommandError (Outcome m))
  | [] => pure (.ok .exhausted)
  | handler :: rest =>
    if handler.audience.admits invocation.sender.kind then
      match handler.body with
      | .background scheduler job =>
        pure (.ok (.handled (scheduler.accept (job invocation))))
      | .direct answer => do
        match ← answer invocation with
        | .error error => return .error error
        | .ok true => return .ok (.handled none)
        | .ok false => tryHandlers invocation rest
    else tryHandlers invocation rest

/-- Runs a chain on an invocation. -/
def runWith (chain : Chain m κ ε) (invocation : Invocation m κ ε) :
    m (Except CommandError (Outcome m)) :=
  tryHandlers invocation chain.handlers

/-- Runs a chain on a line, with the arguments parsed from it and the chain's own mappers. -/
def run (chain : Chain m κ ε) (sender : Sender m κ) (input : String) (arguments : Bindings) :
    m (Except CommandError (Outcome m)) :=
  chain.runWith (Invocation.of sender input arguments chain.mappers)

omit [Monad m] in
/-- Whether two chains hold the very same handlers. -/
def sameHandlers (first second : Chain m κ ε) : Bool :=
  first.handlers.map (fun handler => (handler.audience, handler.serial))
    == second.handlers.map (fun handler => (handler.audience, handler.serial))

end Chain

end CommandGrammar
