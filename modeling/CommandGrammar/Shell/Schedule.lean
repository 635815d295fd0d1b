import CommandGrammar.Shell

/-!
# The shell while tasks are at work

The work that a line leaves is handed to a runtime as a task. A task is started, sleeps until the clock
has reached its deadline, and then does what it is there for. When the runtime does this, and which of
several tasks it attends to first, is its own affair. A schedule is a list of what happens, and every list
is one: in some of them a task is forgotten, started twice or woken early.

What can be relied on are two laws. A task that is handed over is started once, while the clock stands
still (`StartsOnce`). A sleep ends once, at the first value of the clock that is not before its deadline
(`EndsOnTime`). Each law says what may happen next, and a schedule keeps a law when all that happens does
(`Keeps`). Nothing else is known of the runtime: the clock may move by any number of milliseconds, lines
may come in between, and of the tasks that are due any one may be next.
-/

set_option autoImplicit false

namespace CommandGrammar.Shell

/-- How far a task has come. -/
inductive Stage where
  | handed
  | asleep (deadline : Nat)
  | done
  deriving DecidableEq

/-- A task sleeps whose deadline has come. -/
def Stage.IsDue (now : Nat) : Stage → Prop
  | .asleep deadline => deadline ≤ now
  | _ => False

instance (now : Nat) : DecidablePred (Stage.IsDue now)
  | .handed => inferInstanceAs (Decidable False)
  | .asleep deadline => inferInstanceAs (Decidable (deadline ≤ now))
  | .done => inferInstanceAs (Decidable False)

/-- A task: what was handed over, and how far it has come. -/
structure Task where
  job : Job Printing Unit
  stage : Stage

/-- A shell and its runtime: who issues the lines, what the clock says in milliseconds, and the tasks, in
the order in which they were handed over. -/
structure Runtime where
  grammar : Grammar Printing Kind Extra
  sender : ShellSender
  now : Nat
  tasks : List Task

/-- What happens to a shell and its runtime. Tasks are told by their positions. -/
inductive Happening where
  /-- A line is processed. -/
  | line (text : String)
  /-- The clock moves. -/
  | passes (milliseconds : Nat)
  /-- A task is started, and goes to sleep. -/
  | starts (task : Nat)
  /-- The sleep of a task ends, and it does its work. -/
  | ends (task : Nat)
  deriving DecidableEq

/-- How far the clock moves. -/
def Happening.milliseconds : Happening → Nat
  | .passes milliseconds => milliseconds
  | _ => 0

/-- What the clock says after all that has happened. -/
def clock : List Happening → Nat
  | [] => 0
  | happening :: rest => happening.milliseconds + clock rest

namespace Runtime

/-- A runtime at the start of the clock. -/
def start (grammar : Grammar Printing Kind Extra) (sender : ShellSender) : Runtime :=
  ⟨grammar, sender, 0, []⟩

/-- Hands over the work that a line leaves. -/
def submit (runtime : Runtime) : Option (Job Printing Unit) → Runtime
  | none => runtime
  | some job => { runtime with tasks := runtime.tasks ++ [⟨job, .handed⟩] }

/-- Puts down how far a task has come. -/
def mark (runtime : Runtime) (position : Nat) (task : Task) (stage : Stage) : Runtime :=
  { runtime with tasks := runtime.tasks.set position { task with stage } }

/-- Lets something happen. Where there is no such task nothing does. -/
def react (runtime : Runtime) : Happening → Printing (Option LineOutcome × Runtime)
  | .line text => do
    let (outcome, work) ← processLine runtime.grammar runtime.sender text
    return (some outcome, runtime.submit work)
  | .passes milliseconds => return (none, { runtime with now := runtime.now + milliseconds })
  | .starts position =>
    match runtime.tasks[position]? with
    | none => return (none, runtime)
    | some task => return (none, runtime.mark position task (.asleep (runtime.now + task.job.delay)))
  | .ends position =>
    match runtime.tasks[position]? with
    | none => return (none, runtime)
    | some task => do
      task.job.run
      return (none, runtime.mark position task .done)

/-- Lets one thing happen after the other, and tells the outcomes of the lines. -/
def attend (runtime : Runtime) : List Happening → Printing (List (Option LineOutcome) × Runtime)
  | [] => pure ([], runtime)
  | happening :: rest => do
    let (outcome, runtime) ← runtime.react happening
    let (outcomes, runtime) ← runtime.attend rest
    return (outcome :: outcomes, runtime)

/-- A line is processed, and the work that it leaves is handed over. -/
theorem react_line (runtime : Runtime) (text : String) (printed : List String) :
    (runtime.react (.line text)).run printed =
      let after := (processLine runtime.grammar runtime.sender text).run printed
      ((some after.1.1, runtime.submit after.1.2), after.2) :=
  rfl

/-- The clock moves, and nothing is printed. -/
theorem react_passes (runtime : Runtime) (milliseconds : Nat) (printed : List String) :
    (runtime.react (.passes milliseconds)).run printed =
      ((none, { runtime with now := runtime.now + milliseconds }), printed) :=
  rfl

section Task

variable {runtime : Runtime} {position : Nat} {task : Task}

/-- A task that is started goes to sleep, and prints nothing. -/
theorem react_starts (stands : runtime.tasks[position]? = some task) (printed : List String) :
    (runtime.react (.starts position)).run printed =
      ((none, runtime.mark position task (.asleep (runtime.now + task.job.delay))), printed) := by
  unfold react
  dsimp only
  rw [stands]
  rfl

/-- A task whose sleep ends does its work. -/
theorem react_ends (stands : runtime.tasks[position]? = some task) (printed : List String) :
    (runtime.react (.ends position)).run printed =
      ((none, runtime.mark position task .done), (task.job.run.run printed).2) := by
  unfold react
  dsimp only
  rw [stands]
  rfl

end Task

/-- What happens first goes first. -/
theorem attend_cons (runtime : Runtime) (happening : Happening) (rest : List Happening)
    (printed : List String) :
    (runtime.attend (happening :: rest)).run printed =
      let first := (runtime.react happening).run printed
      let after := (first.1.2.attend rest).run first.2
      ((first.1.1 :: after.1.1, after.1.2), after.2) :=
  rfl

/-- Every task that was handed over has been started. -/
def AllStarted (runtime : Runtime) : Prop :=
  ∀ task ∈ runtime.tasks, task.stage ≠ .handed

/-- No task sleeps on whose deadline the clock has reached. -/
def NoneDue (runtime : Runtime) : Prop :=
  ∀ task ∈ runtime.tasks, ¬ task.stage.IsDue runtime.now

end Runtime

/-- A task is started once: after it was handed over, and before the clock moves on. -/
def StartsOnce (runtime : Runtime) : Happening → Prop
  | .starts position => ∃ task ∈ runtime.tasks[position]?, task.stage = .handed
  | .passes _ => runtime.AllStarted
  | _ => True

/-- A sleep ends once: when the clock has reached its deadline, and before the clock moves on from
there. -/
def EndsOnTime (runtime : Runtime) : Happening → Prop
  | .ends position => ∃ task ∈ runtime.tasks[position]?, task.stage.IsDue runtime.now
  | .passes _ => runtime.NoneDue
  | _ => True

/-- All that happens keeps a law. -/
def Keeps (law : Runtime → Happening → Prop) : Runtime → List Happening → Prop
  | _, [] => True
  | runtime, happening :: rest =>
    law runtime happening ∧ Keeps law ((runtime.react happening).run []).1.2 rest

instance (runtime : Runtime) : DecidablePred (StartsOnce runtime)
  | .line _ => inferInstanceAs (Decidable True)
  | .passes _ => inferInstanceAs (Decidable (∀ task ∈ runtime.tasks, task.stage ≠ .handed))
  | .starts position =>
    inferInstanceAs (Decidable (∃ task ∈ runtime.tasks[position]?, task.stage = .handed))
  | .ends _ => inferInstanceAs (Decidable True)

instance (runtime : Runtime) : DecidablePred (EndsOnTime runtime)
  | .line _ => inferInstanceAs (Decidable True)
  | .passes _ =>
    inferInstanceAs (Decidable (∀ task ∈ runtime.tasks, ¬ task.stage.IsDue runtime.now))
  | .starts _ => inferInstanceAs (Decidable True)
  | .ends position =>
    inferInstanceAs (Decidable (∃ task ∈ runtime.tasks[position]?, task.stage.IsDue runtime.now))

/-- Whether a law is kept can be seen from what happens. -/
instance decidableKeeps (law : Runtime → Happening → Prop) [∀ runtime, DecidablePred (law runtime)] :
    ∀ runtime, DecidablePred (Keeps law runtime)
  | _, [] => inferInstanceAs (Decidable True)
  | runtime, happening :: rest =>
    have := decidableKeeps law ((runtime.react happening).run []).1.2 rest
    inferInstanceAs (Decidable (_ ∧ _))

end CommandGrammar.Shell
