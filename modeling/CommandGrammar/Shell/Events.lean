import CommandGrammar.Shell

/-!
# What happens to a terminal

Lines are entered at a terminal, and in between its clock moves. Each line has an outcome of its own;
when the clock moves, those wake whose time has come, and there is no outcome.
-/

set_option autoImplicit false

namespace CommandGrammar.Shell

/-- Something that happens to a terminal. -/
inductive Event where
  /-- A line is entered. -/
  | line (text : String)
  /-- The clock moves. -/
  | pass (milliseconds : Nat)

namespace Terminal

/-- Lets something happen. -/
def react (terminal : Terminal) : Event → Printing (Option LineOutcome × Terminal)
  | .line text => do
    let (outcome, terminal) ← terminal.enter text
    return (some outcome, terminal)
  | .pass milliseconds => return (none, ← terminal.advance milliseconds)

/-- Lets one thing happen after the other, and tells the outcome of each. -/
def attend (terminal : Terminal) : List Event → Printing (List (Option LineOutcome) × Terminal)
  | [] => pure ([], terminal)
  | event :: rest => do
    let (outcome, terminal) ← terminal.react event
    let (outcomes, terminal) ← terminal.attend rest
    return (outcome :: outcomes, terminal)

end Terminal

end CommandGrammar.Shell
