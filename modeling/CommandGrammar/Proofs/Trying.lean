import CommandGrammar.Chain
import Mathlib.Data.List.Basic

/-!
# Which handlers of a chain run

A chain asks the handlers that admit the sender, one after the other, until one of them claims the
invocation or fails. Those before it have passed, and those behind it are never asked. So a chain of two
parts is the first part, and the second one where the first is exhausted; and handlers for other senders
may be left out.

That a handler is asked is an effect of its body, and the chain shows nothing of it. It is made visible by
watching the handlers and not the chain: a watched handler does what it did and writes its answer down
(`Handler.watched`). The watched handlers are then tried by the same chain, and what they have written is
compared with the course that the handlers should take (`Chain.Course`). Nothing is asked of the host: a
body may have any effect, and may answer otherwise the next time.
-/

set_option autoImplicit false

namespace CommandGrammar

variable {m : Type → Type} {κ ε : Type}

/-! ## Single handlers -/

/-- The handler is meant for the sender. -/
def Handler.admits [DecidableEq κ] (invocation : Invocation m κ ε) (handler : Handler m κ ε) : Bool :=
  handler.audience.admits invocation.sender.kind

/-- What the body of a handler answers. One that leaves its work for later claims the invocation as soon
as the work is handed over. -/
def Handler.answer [Monad m] (invocation : Invocation m κ ε) (handler : Handler m κ ε) :
    m (Except CommandError Bool) :=
  match handler.body with
  | .direct answer => answer invocation
  | .background _ _ => pure (.ok true)

/-- The work that a handler leaves when it claims an invocation. -/
def Handler.work? (invocation : Invocation m κ ε) (handler : Handler m κ ε) : Option (Job m Unit) :=
  match handler.body with
  | .direct _ => none
  | .background scheduler job => scheduler.accept (job invocation)

/-- What a chain does once a handler has answered, given what it does with the handlers behind. -/
def Handler.afterwards [Monad m] (invocation : Invocation m κ ε) (handler : Handler m κ ε)
    (rest : m (Except CommandError (Outcome m))) :
    Except CommandError Bool → m (Except CommandError (Outcome m))
  | .error error => pure (.error error)
  | .ok true => pure (.ok (.handled (handler.work? invocation)))
  | .ok false => rest

/-- What follows an exhausted chain; any other result stands. -/
def Chain.orElse [Monad m] (rest : m (Except CommandError (Outcome m))) :
    Except CommandError (Outcome m) → m (Except CommandError (Outcome m))
  | .ok .exhausted => rest
  | .ok (.handled work) => pure (.ok (.handled work))
  | .error error => pure (.error error)

namespace Chain

section Trying

variable [Monad m] {invocation : Invocation m κ ε} {handler : Handler m κ ε}

/-- A handler for other senders is passed over. -/
theorem tryHandlers_cons_of_not_admits [DecidableEq κ] (other : handler.admits invocation = false)
    (rest : List (Handler m κ ε)) :
    tryHandlers invocation (handler :: rest) = tryHandlers invocation rest := by
  unfold Handler.admits at other
  rw [tryHandlers, other]
  rfl

variable [LawfulMonad m]

/-- What follows the handlers behind follows after the answer of a handler. -/
theorem afterwards_bind_orElse (first second : m (Except CommandError (Outcome m)))
    (answer : Except CommandError Bool) :
    handler.afterwards invocation first answer >>= orElse second =
      handler.afterwards invocation (first >>= orElse second) answer := by
  rcases answer with error | _ | _
  · simp only [Handler.afterwards, pure_bind, orElse]
  · rfl
  · simp only [Handler.afterwards, pure_bind, orElse]

variable [DecidableEq κ]

/-- A handler that admits the sender is asked, and its answer decides how it goes on. -/
theorem tryHandlers_cons_of_admits (admits : handler.admits invocation = true)
    (rest : List (Handler m κ ε)) :
    tryHandlers invocation (handler :: rest) =
      handler.answer invocation >>=
        handler.afterwards invocation (tryHandlers invocation rest) := by
  unfold Handler.admits at admits
  rw [tryHandlers, if_pos admits]
  cases body : handler.body with
  | background scheduler job =>
    simp only [Handler.answer, body, pure_bind, Handler.afterwards, Handler.work?]
  | direct answer =>
    simp only [Handler.answer, body]
    refine bind_congr fun result => ?_
    rcases result with error | _ | _
    · rfl
    · rfl
    · simp only [Handler.afterwards, Handler.work?, body]

/-- More handlers are tried where those before them are exhausted, and not otherwise. -/
theorem tryHandlers_append (invocation : Invocation m κ ε) (handlers others : List (Handler m κ ε)) :
    tryHandlers invocation (handlers ++ others) =
      tryHandlers invocation handlers >>= orElse (tryHandlers invocation others) := by
  induction handlers with
  | nil => simp only [List.nil_append, tryHandlers, pure_bind, orElse]
  | cons handler rest ih =>
    rw [List.cons_append]
    by_cases admits : handler.admits invocation = true
    · rw [tryHandlers_cons_of_admits admits, tryHandlers_cons_of_admits admits, bind_assoc, ih]
      exact bind_congr fun answer => (afterwards_bind_orElse _ _ answer).symm
    · rw [Bool.not_eq_true] at admits
      rw [tryHandlers_cons_of_not_admits admits, tryHandlers_cons_of_not_admits admits, ih]

/-- Only the handlers that admit the sender count. -/
theorem tryHandlers_filter (invocation : Invocation m κ ε) (handlers : List (Handler m κ ε)) :
    tryHandlers invocation (handlers.filter (Handler.admits invocation)) =
      tryHandlers invocation handlers := by
  induction handlers with
  | nil => rfl
  | cons handler rest ih =>
    by_cases admits : handler.admits invocation = true
    · rw [List.filter_cons_of_pos admits, tryHandlers_cons_of_admits admits,
        tryHandlers_cons_of_admits admits, ih]
    · rw [List.filter_cons_of_neg admits, ih,
        tryHandlers_cons_of_not_admits (Bool.not_eq_true _ ▸ admits)]

/-- A background handler that admits the sender claims the invocation as soon as it is asked. -/
theorem tryHandlers_background {scheduler : Scheduler} {job : Invocation m κ ε → Job m Unit}
    (admits : handler.admits invocation = true) (body : handler.body = .background scheduler job)
    (rest : List (Handler m κ ε)) :
    tryHandlers invocation (handler :: rest) =
      pure (.ok (.handled (scheduler.accept (job invocation)))) := by
  rw [tryHandlers_cons_of_admits admits]
  simp only [Handler.answer, Handler.afterwards, Handler.work?, body, pure_bind]

end Trying

end Chain

/-! ## Watched handlers -/

/-- A handler that was asked, and what it answered. -/
structure Trial (m : Type → Type) (κ ε : Type) where
  handler : Handler m κ ε
  answer : Except CommandError Bool

/-- A computation of the host beside which the trials are written down. -/
abbrev Watching (m : Type → Type) (κ ε : Type) : Type → Type :=
  StateT (List (Trial m κ ε)) m

/-- The invocation among watched handlers. -/
def Invocation.watched [Monad m] (invocation : Invocation m κ ε) :
    Invocation (Watching m κ ε) κ ε where
  sender :=
    { invocation.sender with tell := fun text => liftM (invocation.sender.tell text) }
  input := invocation.input
  arguments := invocation.arguments
  mapperIds := invocation.mapperIds
  resolve id := liftM (invocation.resolve id)

/-- The handler when it is watched: it does what it did with the invocation, and writes its answer down.
The work that it leaves is left out. -/
def Handler.watched [Monad m] (invocation : Invocation m κ ε) (handler : Handler m κ ε) :
    Handler (Watching m κ ε) κ ε where
  audience := handler.audience
  serial := handler.serial
  body := .direct fun _ => do
    let answer ← (handler.answer invocation : m (Except CommandError Bool))
    modify (· ++ [⟨handler, answer⟩])
    return answer

/-- The chain with its handlers watched. -/
def Chain.watched [Monad m] (chain : Chain m κ ε) (invocation : Invocation m κ ε) :
    Chain (Watching m κ ε) κ ε where
  handlers := chain.handlers.map (Handler.watched invocation)
  mappers := []

/-- The outcome without the work that was left. -/
def Outcome.withoutWork : Outcome m → Outcome (Watching m κ ε)
  | .handled _ => .handled none
  | .exhausted => .exhausted

/-- Handlers that were asked and let the next one try. -/
def Trial.passed (handlers : List (Handler m κ ε)) : List (Trial m κ ε) :=
  handlers.map fun handler => ⟨handler, .ok false⟩

/-- The course that a chain may take with the handlers that admit the sender: which of them are asked, and
what the chain comes to. -/
inductive Chain.Course (invocation : Invocation m κ ε) (admitted : List (Handler m κ ε)) :
    List (Trial m κ ε) → Except CommandError (Outcome m) → Prop where
  /-- All of them are asked and pass. -/
  | exhausted : Course invocation admitted (Trial.passed admitted) (.ok .exhausted)
  /-- Those before one of them pass, and that one claims the invocation. -/
  | claimed (before : List (Handler m κ ε)) (last : Handler m κ ε) (after : List (Handler m κ ε)) :
      admitted = before ++ last :: after →
      Course invocation admitted (Trial.passed before ++ [⟨last, .ok true⟩])
        (.ok (.handled (last.work? invocation)))
  /-- Those before one of them pass, and that one fails. -/
  | failed (before : List (Handler m κ ε)) (last : Handler m κ ε) (after : List (Handler m κ ε))
      (error : CommandError) :
      admitted = before ++ last :: after →
      Course invocation admitted (Trial.passed before ++ [⟨last, .error error⟩]) (.error error)

namespace Chain

variable {invocation : Invocation m κ ε} {admitted : List (Handler m κ ε)}

/-- One more handler in front that passes. -/
theorem Course.cons {trials : List (Trial m κ ε)} {result : Except CommandError (Outcome m)}
    (course : Course invocation admitted trials result) (handler : Handler m κ ε) :
    Course invocation (handler :: admitted) (⟨handler, .ok false⟩ :: trials) result := by
  cases course with
  | exhausted => exact .exhausted
  | claimed before last after split =>
    exact .claimed (handler :: before) last after (congrArg (handler :: ·) split)
  | failed before last after error split =>
    exact .failed (handler :: before) last after error (congrArg (handler :: ·) split)

variable [Monad m]

/-- The second computation does what the first one does, with the trials that it writes down behind those
that are there; and whenever the two come to an end, the trials and the result are a course that the
handlers may take. -/
def Shows (invocation : Invocation m κ ε) (admitted : List (Handler m κ ε))
    (plain : m (Except CommandError (Outcome m)))
    (watching : Watching m κ ε (Except CommandError (Outcome (Watching m κ ε)))) : Prop :=
  ∃ run : m { course : List (Trial m κ ε) × Except CommandError (Outcome m) //
      Course invocation admitted course.1 course.2 },
    plain = (fun course => course.1.2) <$> run ∧
    ∀ seen, watching.run seen =
      (fun course => (course.1.2.map Outcome.withoutWork, seen ++ course.1.1)) <$> run

/-- A watched handler is for the same senders. -/
theorem admits_watched [DecidableEq κ] (invocation : Invocation m κ ε) (handler : Handler m κ ε) :
    (handler.watched invocation).admits invocation.watched = handler.admits invocation := rfl

variable [LawfulMonad m]

/-- A watched handler is asked as the handler is, and its answer is written down. -/
theorem run_answer_watched (invocation : Invocation m κ ε) (handler : Handler m κ ε)
    (seen : List (Trial m κ ε)) :
    ((handler.watched invocation).answer invocation.watched).run seen =
      (fun answer => (answer, seen ++ [⟨handler, answer⟩])) <$> handler.answer invocation := by
  simp [Handler.watched, Handler.answer]

/-- Where there are no handlers, none is asked. -/
theorem Shows.nil (invocation : Invocation m κ ε) :
    Shows invocation [] (pure (.ok .exhausted)) (pure (.ok .exhausted)) := by
  refine ⟨pure ⟨([], .ok .exhausted), .exhausted⟩, ?_, fun seen => ?_⟩
  · rw [map_pure]
  · rw [map_pure, List.append_nil]
    rfl

/-- However a handler answers, watched handlers go on as the handlers do. -/
theorem Shows.afterwards {rest : m (Except CommandError (Outcome m))}
    {restWatching : Watching m κ ε (Except CommandError (Outcome (Watching m κ ε)))}
    (behind : Shows invocation admitted rest restWatching) (handler : Handler m κ ε)
    (answer : Except CommandError Bool) :
    ∃ run : m { course : List (Trial m κ ε) × Except CommandError (Outcome m) //
        Course invocation (handler :: admitted) course.1 course.2 },
      handler.afterwards invocation rest answer = (fun course => course.1.2) <$> run ∧
      ∀ seen, ((handler.watched invocation).afterwards invocation.watched restWatching answer).run
          (seen ++ [⟨handler, answer⟩]) =
        (fun course => (course.1.2.map Outcome.withoutWork, seen ++ course.1.1)) <$> run := by
  rcases answer with error | _ | _
  · refine ⟨pure ⟨([⟨handler, .error error⟩], .error error), .failed [] handler admitted error rfl⟩, ?_,
      fun seen => ?_⟩
    · rw [map_pure]
      rfl
    · rw [map_pure]
      rfl
  · obtain ⟨run, rfl, writes⟩ := behind
    refine ⟨(fun course => ⟨(⟨handler, .ok false⟩ :: course.1.1, course.1.2),
      course.2.cons handler⟩) <$> run, ?_, fun seen => ?_⟩
    · simp [Handler.afterwards]
    · simp [Handler.afterwards, writes]
  · refine ⟨pure ⟨([⟨handler, .ok true⟩], .ok (.handled (handler.work? invocation))),
      .claimed [] handler admitted rfl⟩, ?_, fun seen => ?_⟩
    · rw [map_pure]
      rfl
    · rw [map_pure]
      rfl

variable [DecidableEq κ]

/-- Handlers that are tried take a course that they may take. -/
theorem tryHandlers_shows (invocation : Invocation m κ ε) (handlers : List (Handler m κ ε)) :
    Shows invocation (handlers.filter (Handler.admits invocation)) (tryHandlers invocation handlers)
      (tryHandlers invocation.watched (handlers.map (Handler.watched invocation))) := by
  induction handlers with
  | nil => exact Shows.nil invocation
  | cons handler rest ih =>
    rw [List.map_cons]
    by_cases admits : handler.admits invocation = true
    · rw [List.filter_cons_of_pos admits, tryHandlers_cons_of_admits admits,
        tryHandlers_cons_of_admits ((admits_watched invocation handler).trans admits)]
      choose run plain writes using ih.afterwards handler
      refine ⟨handler.answer invocation >>= run, ?_, fun seen => ?_⟩
      · rw [map_bind]
        exact bind_congr plain
      · rw [StateT.run_bind, run_answer_watched, bind_map_left, map_bind]
        exact bind_congr fun answer => writes answer seen
    · have other : handler.admits invocation = false := Bool.not_eq_true _ ▸ admits
      rw [List.filter_cons_of_neg admits, tryHandlers_cons_of_not_admits other,
        tryHandlers_cons_of_not_admits ((admits_watched invocation handler).trans other)]
      exact ih

/-- Of the handlers of a chain those run that admit the sender, in order, up to the first one that claims
the invocation or fails, and this one decides what the chain comes to: that is what their bodies have
written down when they are watched. A background handler claims the invocation when its turn comes, and
its work is left for later, whatever it is. So the handlers of another chain that are put behind run where
the first ones are exhausted, and two chains do the same when they have the same handlers for the
sender. -/
theorem handlers_asked_in_turn (chain : Chain m κ ε) (invocation : Invocation m κ ε) :
    let admitted := chain.handlers.filter (Handler.admits invocation)
    Shows invocation admitted (chain.runWith invocation)
        ((chain.watched invocation).runWith invocation.watched) ∧
      (∀ before handler after scheduler job, chain.handlers = before ++ handler :: after →
        handler.admits invocation = true → handler.body = .background scheduler job →
        chain.runWith invocation = tryHandlers invocation before >>=
          orElse (pure (.ok (.handled (scheduler.accept (job invocation)))))) ∧
      (∀ other : Chain m κ ε,
        runWith ⟨chain.handlers ++ other.handlers, chain.mappers⟩ invocation =
          chain.runWith invocation >>= orElse (other.runWith invocation)) ∧
      ∀ other : Chain m κ ε, other.handlers.filter (Handler.admits invocation) = admitted →
        other.runWith invocation = chain.runWith invocation := by
  refine ⟨tryHandlers_shows invocation chain.handlers, ?_, ?_, ?_⟩
  · intro before handler after scheduler job split admits body
    rw [runWith, split, tryHandlers_append, tryHandlers_background admits body]
  · exact fun other => tryHandlers_append invocation chain.handlers other.handlers
  · intro other same
    rw [runWith, runWith, ← tryHandlers_filter, same, tryHandlers_filter]

end Chain

/-! ## A chain for two kinds of senders -/

namespace Sample

/-- A handler that writes a word into the journal of the host, and then claims the invocation or not. -/
def wordHandler (audience : Audience String) (serial : Nat) (word : String) (claims : Bool) :
    Handler (StateM (List String)) String Empty :=
  ⟨audience, serial, .direct fun _ => do
    modify (· ++ [word])
    return .ok claims⟩

/-- Handlers for players and for the console; one of them leaves its work for later. -/
def twoKinds : Chain (StateM (List String)) String Empty where
  handlers :=
    [wordHandler (.only "player") 0 "player" true, wordHandler .anyone 1 "anyone" false,
      ⟨.only "console", 2, .background .running fun _ => ⟨0, modify (· ++ ["later"])⟩⟩,
      wordHandler .anyone 3 "behind" true]
  mappers := []

/-- A line that the console sends. -/
def fromConsole : Invocation (StateM (List String)) String Empty :=
  .of ⟨"console", "console", fun _ => true, none, fun _ => pure ()⟩ "x" [] []

end Sample

/-- For the console the handler of players is passed over; the first handler for anyone is asked and passes,
and then the background handler claims the invocation, before its work is done. The chain does the same
without the handler of players. -/
theorem Chain.handlers_asked_in_turn_background :
    LawfulMonad (StateM (List String)) ∧
      Shows Sample.fromConsole (Sample.twoKinds.handlers.filter (Handler.admits Sample.fromConsole))
        (Sample.twoKinds.runWith Sample.fromConsole)
        ((Sample.twoKinds.watched Sample.fromConsole).runWith Sample.fromConsole.watched) ∧
      Sample.twoKinds.runWith Sample.fromConsole =
        tryHandlers Sample.fromConsole (Sample.twoKinds.handlers.take 2) >>=
          orElse (pure (.ok (.handled (some ⟨0, modify (· ++ ["later"])⟩)))) ∧
      runWith ⟨Sample.twoKinds.handlers.tail, []⟩ Sample.fromConsole =
        Sample.twoKinds.runWith Sample.fromConsole ∧
      ((Sample.twoKinds.runWith Sample.fromConsole).run []).2 = ["anyone"] ∧
      (((((Sample.twoKinds.watched Sample.fromConsole).runWith Sample.fromConsole.watched).run []).run
        []).1.2.map fun trial => trial.handler.serial) = [1, 2] := by
  obtain ⟨shows_, background, _, other⟩ := handlers_asked_in_turn Sample.twoKinds Sample.fromConsole
  have claims := background (Sample.twoKinds.handlers.take 2) ⟨.only "console", 2, _⟩ _ .running
    (fun _ => ⟨0, modify (· ++ ["later"])⟩) rfl rfl rfl
  exact ⟨inferInstance, shows_, claims, other _ rfl, rfl, rfl⟩

end CommandGrammar
