import CommandGrammar.Completion.Source

/-!
# Collecting answers while tasks end

A deferred answer is worked at by a task of its own, and the tasks end in any order. Whoever collects
the answers takes them in the order in which they were asked for, each as soon as it is known: an answer
that is still worked at holds up those behind it, and keeps its place. A task that breaks off leaves an
answer that is lost, and a lost answer is known to be empty.

A schedule is a list of events: the tasks that end, and the times at which the collector looks for the
next answer. `Completion.collect` waits for the answers in one order, that of their delays; here every
order is allowed.
-/

set_option autoImplicit false

namespace CommandGrammar.Completion

variable {m : Type → Type}

/-- The offers of an answer, if it is known what they are. -/
def Pending.offers? : Pending m → Option (List String)
  | .ready offers => some offers
  | .waiting _ => none
  | .lost => some []

/-- Lets the task of an answer come to its end. -/
def Pending.settle [Monad m] : Pending m → m (Pending m)
  | .waiting work => do
    match ← work.run with
    | some offers => return .ready offers
    | none => return .lost
  | answer => pure answer

/-- Answers that are being collected. -/
structure Collection (m : Type → Type) where
  answers : List (Pending m)
  /-- How many of them have been taken, from the first on. -/
  taken : Nat
  /-- The offers of those that have been taken. -/
  found : List String

/-- What happens while answers are collected. -/
inductive Event where
  /-- The task of the answer at a position comes to its end. -/
  | ends (position : Nat)
  /-- The collector takes the next answer, if it is known. -/
  | takes
  deriving DecidableEq

namespace Collection

/-- Nothing has been taken yet. -/
def start (answers : List (Pending m)) : Collection m :=
  ⟨answers, 0, []⟩

/-- All answers have been taken. -/
def isDone (collection : Collection m) : Bool :=
  collection.answers.length ≤ collection.taken

/-- Takes the next answer. As long as it is not known nothing is taken. -/
def take (collection : Collection m) : Collection m :=
  match collection.answers[collection.taken]?.bind Pending.offers? with
  | some offers =>
    { collection with
      taken := collection.taken + 1
      found := Ascending.insertAll offers collection.found }
  | none => collection

variable [Monad m]

/-- Lets the task of one answer end. -/
def settle (collection : Collection m) (position : Nat) : m (Collection m) :=
  match collection.answers[position]? with
  | some answer => do
    return { collection with answers := collection.answers.set position (← answer.settle) }
  | none => pure collection

/-- Lets one event happen. -/
def step (collection : Collection m) : Event → m (Collection m)
  | .ends position => collection.settle position
  | .takes => pure collection.take

/-- Lets the events of a schedule happen, one after the other. -/
def run (schedule : List Event) (collection : Collection m) : m (Collection m) :=
  schedule.foldlM step collection

end Collection

end CommandGrammar.Completion
