/-!
# Work for later

Some work is not done at once: the body of a background handler, and the answer of a deferred
completion source. Such work is handed to a scheduler together with the time it waits before it
starts. A scheduler that has stopped takes work and drops it.
-/

set_option autoImplicit false

namespace CommandGrammar

/-- Whether work that is handed over will ever be done. -/
inductive Scheduler where
  | running
  | stopped
  deriving DecidableEq

/-- Work to be done after a number of milliseconds. -/
structure Job (m : Type → Type) (α : Type) where
  delay : Nat
  run : m α

/-- The work that a scheduler keeps of what it is given. -/
def Scheduler.accept {m : Type → Type} {α : Type} (scheduler : Scheduler) (job : Job m α) :
    Option (Job m α) :=
  match scheduler with
  | .running => some job
  | .stopped => none

end CommandGrammar
