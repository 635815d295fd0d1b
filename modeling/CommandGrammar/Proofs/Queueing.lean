import CommandGrammar.Proofs.Answering
import CommandGrammar.Shell.Events
import CommandGrammar.Shell.Schedule

/-!
# A terminal is a runtime

A terminal keeps those who sleep in a queue, in the order of their deadlines, and lets them do their work
as soon as its clock has reached them. What happens at a terminal is therefore one of the schedules of
`Shell.Schedule`: a task is started in the line that hands it over, the clock moves by single milliseconds,
and after each of them the tasks end that stand first in the queue (`Shell.terminal_keeps_laws`). So the
two laws can be kept whatever a user does, and what is said of all schedules that keep them holds at a
terminal.

The relation between the two is `Shell.Queued`: the tasks that have not ended are those in the queue.
-/

set_option autoImplicit false

namespace CommandGrammar.Shell

variable {roster : Roster} {showIdentity : Nat → String} {shell : Grammar Printing Kind Extra}
  {user : User}

/-! ## Courses -/

/-- Whether something comes to a runtime from outside. The rest is what it does with its tasks. -/
def Happening.comesFromOutside : Happening → Bool
  | .line _ | .passes _ => true
  | .starts _ | .ends _ => false

/-- A runtime keeps the laws in what happens, tells the outcomes of the lines and prints, behind what was
printed before, and is left as another. -/
inductive Course : Runtime → List Happening → List LineOutcome → List String → Runtime → Prop where
  | nil (runtime : Runtime) : Course runtime [] [] [] runtime
  | cons {runtime next left : Runtime} {happening : Happening} {rest : List Happening}
      {outcome : Option LineOutcome} {own more : List String} {outcomes : List LineOutcome}
      (starts : StartsOnce runtime happening) (ends : EndsOnTime runtime happening)
      (runs : ∀ printed,
        (runtime.react happening).run printed = ((outcome, next), printed ++ own))
      (later : Course next rest outcomes more left) :
      Course runtime (happening :: rest) (outcome.toList ++ outcomes) (own ++ more) left

namespace Course

variable {runtime middle left : Runtime} {schedule rest : List Happening}
  {outcomes more : List LineOutcome} {own other : List String}

/-- One thing that happens. -/
theorem single {next : Runtime} {happening : Happening} {outcome : Option LineOutcome}
    (starts : StartsOnce runtime happening) (ends : EndsOnTime runtime happening)
    (runs : ∀ printed, (runtime.react happening).run printed = ((outcome, next), printed ++ own)) :
    Course runtime [happening] outcome.toList own next := by
  have course := Course.cons starts ends runs (.nil next)
  rwa [List.append_nil, List.append_nil] at course

/-- One course may follow another. -/
theorem append (first : Course runtime schedule outcomes own middle)
    (second : Course middle rest more other left) :
    Course runtime (schedule ++ rest) (outcomes ++ more) (own ++ other) left := by
  induction first with
  | nil => exact second
  | cons starts ends runs _ ih =>
    rw [List.append_assoc, List.append_assoc]
    exact .cons starts ends runs (ih second)

/-- A course keeps both laws. -/
theorem keeps (course : Course runtime schedule outcomes own left) :
    Keeps StartsOnce runtime schedule ∧ Keeps EndsOnTime runtime schedule := by
  induction course with
  | nil => exact ⟨trivial, trivial⟩
  | cons starts ends runs _ ih =>
    refine ⟨⟨starts, ?_⟩, ends, ?_⟩
    · rw [runs]
      exact ih.1
    · rw [runs]
      exact ih.2

/-- A course is what comes of its schedule. -/
theorem attend (course : Course runtime schedule outcomes own left) :
    ∃ told : List (Option LineOutcome), told.reduceOption = outcomes ∧
      ∀ printed, (runtime.attend schedule).run printed = ((told, left), printed ++ own) := by
  induction course with
  | nil => exact ⟨[], rfl, fun printed => by rw [List.append_nil]; rfl⟩
  | @cons runtime next left happening rest outcome own more outcomes _ _ runs _ ih =>
    obtain ⟨told, same, later⟩ := ih
    refine ⟨outcome :: told, ?_, fun printed => ?_⟩
    · rw [← same]
      cases outcome <;> rfl
    · rw [Runtime.attend_cons, runs]
      dsimp only
      rw [later, ← List.append_assoc]

end Course

/-! ## The queue -/

/-- The slot of a task in the queue: its position, the seconds it sleeps, and its deadline. -/
structure Slot where
  task : Nat
  seconds : Int32
  wakes : Nat

/-- Who holds the slot. -/
def Slot.sleeper (user : User) (slot : Slot) : Sleeper :=
  ⟨slot.wakes, printLine (wakeText user slot.seconds)⟩

/-- The queue of a terminal holds the tasks of a runtime that have not ended. -/
structure Queued (shell : Grammar Printing Kind Extra) (user : User) (terminal : Terminal)
    (runtime : Runtime) (queue : List Slot) : Prop where
  grammars : terminal.grammar = shell ∧ runtime.grammar = shell
  senders : terminal.sender = user.sender ∧ runtime.sender = user.sender
  now : runtime.now = terminal.now
  sleepers : terminal.sleepers = queue.map (Slot.sleeper user)
  ordered : queue.Pairwise fun first second => first.wakes ≤ second.wakes
  distinct : (queue.map Slot.task).Nodup
  asleep : ∀ slot ∈ queue,
    runtime.tasks[slot.task]? = some ⟨wakeJob user slot.seconds, .asleep slot.wakes⟩
  others : ∀ position task, runtime.tasks[position]? = some task →
    task.stage = .done ∨ position ∈ queue.map Slot.task

/-- Whether it is time to wake. -/
def Sleeper.isDue (now : Nat) (sleeper : Sleeper) : Bool :=
  sleeper.wakes ≤ now

/-- A terminal lets those do their work who are due. -/
theorem Terminal.wake_eq (terminal : Terminal) :
    terminal.wake = do
      (terminal.sleepers.takeWhile (Sleeper.isDue terminal.now)).forM Sleeper.work
      return { terminal with sleepers := terminal.sleepers.dropWhile (Sleeper.isDue terminal.now) } :=
  rfl

/-- Nobody in the queue is due. -/
def Waits (terminal : Terminal) (queue : List Slot) : Prop :=
  ∀ slot ∈ queue, terminal.now < slot.wakes

/-- A runtime can come to be what a terminal is: by a course with these things from outside, these outcomes
and these lines, after which nobody is due. -/
def Follows (shell : Grammar Printing Kind Extra) (user : User) (runtime : Runtime)
    (outside : List Happening) (outcomes : List LineOutcome) (own : List String) (terminal : Terminal) :
    Prop :=
  ∃ schedule left queue, Course runtime schedule outcomes own left ∧
    schedule.filter Happening.comesFromOutside = outside ∧
    Queued shell user terminal left queue ∧ Waits terminal queue

/-- A course may go before. -/
theorem Follows.after {runtime middle : Runtime} {schedule outside : List Happening}
    {outcomes more : List LineOutcome} {own other : List String} {terminal : Terminal}
    (follows : Follows shell user middle outside more other terminal)
    (course : Course runtime schedule outcomes own middle) :
    Follows shell user runtime (schedule.filter Happening.comesFromOutside ++ outside) (outcomes ++ more)
      (own ++ other) terminal := by
  obtain ⟨rest, left, queue, later, rfl, queued, waits⟩ := follows
  exact ⟨schedule ++ rest, left, queue, course.append later, List.filter_append _ _, queued, waits⟩

section Queue

variable {terminal : Terminal} {runtime : Runtime} {queue : List Slot}

/-- Every task has been started. -/
theorem Queued.allStarted (queued : Queued shell user terminal runtime queue) : runtime.AllStarted := by
  intro task member
  obtain ⟨position, stands⟩ := List.mem_iff_getElem?.mp member
  rcases queued.others position task stands with done | waits
  · rw [done]
    exact nofun
  · obtain ⟨slot, among, rfl⟩ := List.mem_map.mp waits
    rw [queued.asleep slot among] at stands
    cases stands
    exact nofun

/-- Where nobody in the queue is due, no task is. -/
theorem Queued.noneDue (queued : Queued shell user terminal runtime queue) (waits : Waits terminal queue) :
    runtime.NoneDue := by
  intro task member due
  obtain ⟨position, stands⟩ := List.mem_iff_getElem?.mp member
  rcases queued.others position task stands with done | there
  · rw [done] at due
    exact due
  · obtain ⟨slot, among, rfl⟩ := List.mem_map.mp there
    rw [queued.asleep slot among] at stands
    cases stands
    rw [queued.now] at due
    exact Nat.not_le.mpr (waits slot among) due

/-- A task that stands first in the queue ends. -/
theorem Queued.ends {slot : Slot} (queued : Queued shell user terminal runtime (slot :: queue)) :
    Queued shell user { terminal with sleepers := queue.map (Slot.sleeper user) }
      (runtime.mark slot.task ⟨wakeJob user slot.seconds, .asleep slot.wakes⟩ .done) queue where
  grammars := queued.grammars
  senders := queued.senders
  now := queued.now
  sleepers := rfl
  ordered := (List.pairwise_cons.mp queued.ordered).2
  distinct := (List.nodup_cons.mp queued.distinct).2
  asleep := by
    intro other among
    have apart : slot.task ≠ other.task := fun same =>
      (List.nodup_cons.mp queued.distinct).1 (same ▸ List.mem_map_of_mem among)
    show (runtime.tasks.set _ _)[_]? = _
    rw [List.getElem?_set_ne apart]
    exact queued.asleep other (List.mem_cons_of_mem _ among)
  others := by
    intro position task stands
    replace stands : (runtime.tasks.set slot.task
      ⟨wakeJob user slot.seconds, .done⟩)[position]? = some task := stands
    by_cases same : slot.task = position
    · subst same
      obtain ⟨within, is⟩ := List.getElem?_eq_some_iff.mp stands
      rw [List.getElem_set_self] at is
      exact .inl (is ▸ rfl)
    · rw [List.getElem?_set_ne same] at stands
      refine (queued.others position task stands).imp_right fun there => ?_
      exact (List.mem_cons.mp there).resolve_left (Ne.symm same)

/-- Where nobody is due, there is nobody to wake. -/
theorem Terminal.wake_of_waits (queued : Queued shell user terminal runtime queue)
    (waits : Waits terminal queue) : terminal.wake = pure terminal := by
  obtain ⟨grammar, sender, now, sleepers⟩ := terminal
  obtain rfl : sleepers = queue.map (Slot.sleeper user) := queued.sleepers
  cases queue with
  | nil => rfl
  | cons slot rest =>
    have late : ¬ (slot.sleeper user).isDue now = true := fun due =>
      Nat.not_le.mpr (waits slot List.mem_cons_self) (of_decide_eq_true due)
    rw [Terminal.wake_eq, List.map_cons, List.takeWhile_cons_of_neg late, List.dropWhile_cons_of_neg late]
    rfl

/-- Where the first in the queue is due, it does its work, and then the others are woken. -/
theorem Terminal.wake_of_due {slot : Slot} (queued : Queued shell user terminal runtime (slot :: queue))
    (due : slot.wakes ≤ terminal.now) (printed : List String) :
    terminal.wake.run printed =
      ({ terminal with sleepers := queue.map (Slot.sleeper user) }).wake.run
        (printed ++ [wakeText user slot.seconds]) := by
  have early : (slot.sleeper user).isDue terminal.now = true := decide_eq_true due
  rw [Terminal.wake_eq, queued.sleepers, List.map_cons, List.takeWhile_cons_of_pos early,
    List.dropWhile_cons_of_pos early]
  rfl

/-- When those who are due do their work, their tasks end. -/
theorem Queued.wake (queued : Queued shell user terminal runtime queue) :
    ∃ own left, (∀ printed, terminal.wake.run printed = (left, printed ++ own)) ∧
      Follows shell user runtime [] [] own left := by
  induction queue generalizing terminal runtime with
  | nil =>
    refine ⟨[], terminal, fun printed => ?_, [], runtime, [], .nil runtime, rfl, queued, nofun⟩
    rw [Terminal.wake_of_waits queued nofun, List.append_nil]
    rfl
  | cons slot rest ih =>
    by_cases due : slot.wakes ≤ terminal.now
    · obtain ⟨own, left, wakes, follows⟩ := ih queued.ends
      have stands := queued.asleep slot List.mem_cons_self
      have starts : StartsOnce runtime (.ends slot.task) := trivial
      have ends : EndsOnTime runtime (.ends slot.task) :=
        ⟨_, stands, show slot.wakes ≤ runtime.now from queued.now ▸ due⟩
      have runs : ∀ printed, (runtime.react (.ends slot.task)).run printed =
          ((none, runtime.mark slot.task ⟨wakeJob user slot.seconds, .asleep slot.wakes⟩ .done),
            printed ++ [wakeText user slot.seconds]) := by
        intro printed
        rw [Runtime.react_ends stands]
        rfl
      refine ⟨_, left, fun printed => ?_, follows.after (.cons starts ends runs (.nil _))⟩
      rw [Terminal.wake_of_due queued due, wakes, List.append_assoc]
      rfl
    · have late : Waits terminal (slot :: rest) := by
        intro other among
        rcases List.mem_cons.mp among with rfl | behind
        · exact Nat.not_le.mp due
        · exact Nat.lt_of_lt_of_le (Nat.not_le.mp due)
            ((List.pairwise_cons.mp queued.ordered).1 other behind)
      refine ⟨[], terminal, fun printed => ?_, [], runtime, _, .nil runtime, rfl, queued, late⟩
      rw [Terminal.wake_of_waits queued late, List.append_nil]
      rfl

end Queue

/-! ## What happens at a terminal -/

/-- Who is due stays due. -/
theorem isDue_add_of_mem_takeWhile (now more : Nat) (sleepers : List Sleeper) :
    ∀ sleeper ∈ sleepers.takeWhile (Sleeper.isDue now), sleeper.isDue (now + more) = true := by
  intro sleeper member
  have due : sleeper.isDue now = true := List.mem_takeWhile_imp member
  exact decide_eq_true (Nat.le_add_right_of_le (of_decide_eq_true due))

/-- Those who are due sooner or later are those who are due now, and then those who are due later. -/
theorem takeWhile_isDue_add (now more : Nat) (sleepers : List Sleeper) :
    sleepers.takeWhile (Sleeper.isDue (now + more)) =
      sleepers.takeWhile (Sleeper.isDue now) ++
        (sleepers.dropWhile (Sleeper.isDue now)).takeWhile (Sleeper.isDue (now + more)) := by
  rw [← List.takeWhile_append_of_pos (isDue_add_of_mem_takeWhile now more sleepers),
    List.takeWhile_append_dropWhile]

/-- Those who stay behind when some are woken early stay behind. -/
theorem dropWhile_isDue_add (now more : Nat) (sleepers : List Sleeper) :
    sleepers.dropWhile (Sleeper.isDue (now + more)) =
      (sleepers.dropWhile (Sleeper.isDue now)).dropWhile (Sleeper.isDue (now + more)) :=
  calc
    _ = (sleepers.takeWhile (Sleeper.isDue now) ++
          sleepers.dropWhile (Sleeper.isDue now)).dropWhile (Sleeper.isDue (now + more)) := by
      rw [List.takeWhile_append_dropWhile]
    _ = _ := List.dropWhile_append_of_pos (isDue_add_of_mem_takeWhile now more sleepers)

/-- The clock of a terminal may move in two steps. -/
theorem Terminal.advance_add (terminal : Terminal) (milliseconds more : Nat) :
    terminal.advance (milliseconds + more) =
      terminal.advance milliseconds >>= fun between => between.advance more := by
  unfold Terminal.advance
  simp only [Terminal.wake_eq]
  rw [← Nat.add_assoc, takeWhile_isDue_add (terminal.now + milliseconds) more,
    dropWhile_isDue_add (terminal.now + milliseconds) more]
  simp only [List.forM_eq_forM, List.forM_append, bind_assoc, pure_bind]

/-- The clock of a terminal moves, and with it that of the runtime. -/
theorem Queued.tick {terminal : Terminal} {runtime : Runtime} {queue : List Slot}
    (queued : Queued shell user terminal runtime queue) :
    Queued shell user { terminal with now := terminal.now + 1 } { runtime with now := runtime.now + 1 }
      queue :=
  { queued with now := congrArg (· + 1) queued.now }

/-- When the clock of a terminal moves, that of the runtime does so by single milliseconds, and the tasks
that become due end in between. -/
theorem Queued.advance {terminal : Terminal} {runtime : Runtime} {queue : List Slot}
    (queued : Queued shell user terminal runtime queue) (waits : Waits terminal queue) (milliseconds : Nat) :
    ∃ own left, (∀ printed, (terminal.advance milliseconds).run printed = (left, printed ++ own)) ∧
      Follows shell user runtime (List.replicate milliseconds (.passes 1)) [] own left := by
  induction milliseconds generalizing terminal runtime queue with
  | zero => exact queued.wake
  | succ milliseconds ih =>
    have runs : ∀ printed, (runtime.react (.passes 1)).run printed =
        ((none, { runtime with now := runtime.now + 1 }), printed ++ []) := by
      intro printed
      rw [Runtime.react_passes, List.append_nil]
    have starts : StartsOnce runtime (.passes 1) := queued.allStarted
    have ends : EndsOnTime runtime (.passes 1) := queued.noneDue waits
    have first : Course runtime [.passes 1] [] [] { runtime with now := runtime.now + 1 } :=
      .cons starts ends runs (.nil _)
    obtain ⟨own, between, wakes, schedule, middle, queue', course, inside, queued', waits'⟩ :=
      queued.tick.wake
    obtain ⟨more, left, advances, follows⟩ := ih queued' waits'
    refine ⟨own ++ more, left, fun printed => ?_, ?_⟩
    · rw [Nat.add_comm, Terminal.advance_add, StateT.run_bind]
      show ((terminal.advance 1).run printed >>= fun after => (after.1.advance milliseconds).run after.2) = _
      rw [Terminal.advance, wakes]
      show (between.advance milliseconds).run (printed ++ own) = _
      rw [advances, List.append_assoc]
    · have whole := (follows.after course).after first
      rw [inside] at whole
      exact whole

/-- A task that has just been started has its slot in the queue. -/
theorem addSleeper_queue (user : User) (slot : Slot) {queue : List Slot}
    (ordered : queue.Pairwise fun first second => first.wakes ≤ second.wakes) :
    ∃ longer : List Slot, addSleeper (slot.sleeper user) (queue.map (Slot.sleeper user)) =
        longer.map (Slot.sleeper user) ∧
      longer.Perm (slot :: queue) ∧
      longer.Pairwise fun first second => first.wakes ≤ second.wakes := by
  induction queue with
  | nil => exact ⟨[slot], rfl, .refl _, List.pairwise_singleton _ _⟩
  | cons first rest ih =>
    obtain ⟨before, ordered'⟩ := List.pairwise_cons.mp ordered
    by_cases earlier : first.wakes ≤ slot.wakes
    · obtain ⟨longer, same, perm, sorted⟩ := ih ordered'
      refine ⟨first :: longer, ?_, (perm.cons first).trans (.swap slot first rest), ?_⟩
      · have waits : (first.sleeper user).wakes ≤ (slot.sleeper user).wakes := earlier
        rw [List.map_cons, addSleeper, if_pos waits, same, List.map_cons]
      · refine List.pairwise_cons.mpr ⟨fun other member => ?_, sorted⟩
        rcases List.mem_cons.mp (perm.subset member) with rfl | behind
        · exact earlier
        · exact before other behind
    · have sooner : slot.wakes ≤ first.wakes := Nat.le_of_not_le earlier
      refine ⟨slot :: first :: rest, ?_, .refl _, ?_⟩
      · have waits : ¬ (first.sleeper user).wakes ≤ (slot.sleeper user).wakes := earlier
        rw [List.map_cons, addSleeper, if_neg waits, List.map_cons, List.map_cons]
      · refine List.pairwise_cons.mpr ⟨fun other member => ?_, ordered⟩
        rcases List.mem_cons.mp member with rfl | behind
        · exact sooner
        · exact Nat.le_trans sooner (before other behind)

/-- Work that goes to sleep at a terminal is handed over and started. -/
theorem Queued.sleep {terminal : Terminal} {runtime : Runtime} {queue : List Slot}
    (queued : Queued shell user terminal runtime queue) (seconds : Int32) :
    ∃ queue', Queued shell user (terminal.sleep (some (wakeJob user seconds)))
      ((runtime.submit (some (wakeJob user seconds))).mark runtime.tasks.length
        ⟨wakeJob user seconds, .handed⟩ (.asleep (runtime.now + (wakeJob user seconds).delay))) queue' := by
  let slot : Slot :=
    ⟨runtime.tasks.length, seconds, runtime.now + (wakeJob user seconds).delay⟩
  obtain ⟨longer, put, added, sorted⟩ := addSleeper_queue user slot queued.ordered
  have tasks : (runtime.tasks ++ [Task.mk (wakeJob user seconds) .handed]).set runtime.tasks.length
      ⟨wakeJob user seconds, .asleep slot.wakes⟩ =
        runtime.tasks ++ [⟨wakeJob user seconds, .asleep slot.wakes⟩] := by
    rw [List.set_append_right _ _ (Nat.le_refl _), Nat.sub_self]
    rfl
  -- The slots that are taken are those of earlier tasks.
  have earlier : ∀ other ∈ queue, other.task < runtime.tasks.length := fun other among =>
    (List.getElem?_eq_some_iff.mp (queued.asleep other among)).1
  refine ⟨longer, queued.grammars, queued.senders, queued.now, ?_, sorted, ?_, ?_, ?_⟩
  · rw [← put, ← queued.sleepers]
    show addSleeper ⟨terminal.now + _, _⟩ _ = addSleeper ⟨runtime.now + _, _⟩ _
    rw [queued.now]
    rfl
  · refine (added.map Slot.task).nodup_iff.mpr (List.nodup_cons.mpr ⟨fun there => ?_, queued.distinct⟩)
    obtain ⟨other, among, same⟩ := List.mem_map.mp there
    exact Nat.ne_of_lt (earlier other among) same
  · intro other among
    show ((runtime.tasks ++ [_]).set _ _)[_]? = _
    rw [tasks]
    rcases List.mem_cons.mp (added.subset among) with rfl | old
    · exact List.getElem?_concat_length
    · rw [List.getElem?_append_left (earlier other old)]
      exact queued.asleep other old
  · intro position task stands
    replace stands : ((runtime.tasks ++ [_]).set _ _)[_]? = _ := stands
    rw [tasks] at stands
    rw [(added.map Slot.task).mem_iff, List.map_cons, List.mem_cons]
    obtain ⟨within, _⟩ := List.getElem?_eq_some_iff.mp stands
    rw [List.length_append, List.length_singleton] at within
    rcases Nat.lt_succ_iff_lt_or_eq.mp within with old | rfl
    · rw [List.getElem?_append_left old] at stands
      exact (queued.others position task stands).imp_right .inr
    · exact .inr (.inl rfl)

/-- The runtime processes the line, and starts the task that it hands over. -/
theorem Queued.line {terminal : Terminal} {runtime : Runtime} {queue : List Slot} {text : String}
    {answer : Answer} (queued : Queued shell user terminal runtime queue)
    (answers : Answers shell user text answer) :
    ∃ schedule middle queue', Course runtime schedule [answer.outcome] answer.own middle ∧
      schedule.filter Happening.comesFromOutside = [.line text] ∧
      Queued shell user (terminal.sleep (answer.seconds?.map (wakeJob user))) middle queue' := by
  have runs : ∀ printed, (runtime.react (.line text)).run printed =
      ((some answer.outcome, runtime.submit (answer.seconds?.map (wakeJob user))),
        printed ++ answer.own) := by
    intro printed
    rw [Runtime.react_line, queued.grammars.2, queued.senders.2, answers.runs]
  have starts : StartsOnce runtime (.line text) := trivial
  have ends : EndsOnTime runtime (.line text) := trivial
  have first := Course.single starts ends runs
  cases slept : answer.seconds? with
  | none =>
    rw [slept] at first
    exact ⟨[.line text], _, queue, first, rfl, queued⟩
  | some seconds =>
    rw [slept] at first
    obtain ⟨queue', queued'⟩ := queued.sleep seconds
    let handed : Runtime := runtime.submit (some (wakeJob user seconds))
    have stands : handed.tasks[runtime.tasks.length]? = some ⟨wakeJob user seconds, .handed⟩ :=
      List.getElem?_concat_length
    have starts' : StartsOnce handed (.starts runtime.tasks.length) := ⟨_, stands, rfl⟩
    have ends' : EndsOnTime handed (.starts runtime.tasks.length) := trivial
    have runs' : ∀ printed, (handed.react (.starts runtime.tasks.length)).run printed =
        ((none, handed.mark runtime.tasks.length ⟨wakeJob user seconds, .handed⟩
          (.asleep (runtime.now + (wakeJob user seconds).delay))), printed ++ []) := by
      intro printed
      rw [Runtime.react_starts stands, List.append_nil]
      rfl
    have both := first.append (.single starts' ends' runs')
    rw [List.append_nil] at both
    exact ⟨_, _, queue', both, rfl, queued'⟩

/-- A line that is entered at a terminal is processed, and then the tasks end that are due. -/
theorem Queued.enter {terminal : Terminal} {runtime : Runtime} {queue : List Slot}
    (queued : Queued (grammar roster showIdentity) user terminal runtime queue) (text : String) :
    ∃ outcome own left,
      (∀ printed, (terminal.enter text).run printed = ((outcome, left), printed ++ own)) ∧
      Follows (grammar roster showIdentity) user runtime [.line text] [outcome] own left := by
  obtain ⟨answer, answers⟩ := processLine_answers roster showIdentity user text
  obtain ⟨schedule, middle, queue', course, outside, queued'⟩ := queued.line answers
  obtain ⟨own, left, wakes, follows⟩ := queued'.wake
  have whole := follows.after course
  rw [outside] at whole
  refine ⟨answer.outcome, answer.own ++ own, left, fun printed => ?_, whole⟩
  have enters : (terminal.enter text).run printed =
      let woken := (terminal.sleep (answer.seconds?.map (wakeJob user))).wake.run (printed ++ answer.own)
      ((answer.outcome, woken.1), woken.2) := by
    unfold Terminal.enter
    rw [queued.grammars.1, queued.senders.1, StateT.run_bind, answers.runs]
    rfl
  rw [enters, wakes, List.append_assoc]

/-! ## A terminal keeps the laws -/

/-- What comes to a runtime from outside when something happens to a terminal. -/
def Event.happenings : Event → List Happening
  | .line text => [.line text]
  | .pass milliseconds => List.replicate milliseconds (.passes 1)

/-- A runtime does what happens to a terminal. -/
theorem Queued.react {terminal : Terminal} {runtime : Runtime} {queue : List Slot}
    (queued : Queued (grammar roster showIdentity) user terminal runtime queue)
    (waits : Waits terminal queue) (event : Event) :
    ∃ outcome own left,
      (∀ printed, (terminal.react event).run printed = ((outcome, left), printed ++ own)) ∧
      Follows (grammar roster showIdentity) user runtime event.happenings outcome.toList own left := by
  cases event with
  | line text =>
    obtain ⟨outcome, own, left, enters, follows⟩ := queued.enter text
    refine ⟨some outcome, own, left, fun printed => ?_, follows⟩
    unfold Terminal.react
    dsimp only
    rw [StateT.run_bind, enters]
    rfl
  | pass milliseconds =>
    obtain ⟨own, left, advances, follows⟩ := queued.advance waits milliseconds
    refine ⟨none, own, left, fun printed => ?_, follows⟩
    unfold Terminal.react
    dsimp only
    rw [StateT.run_bind, advances]
    rfl

/-- A runtime does what happens to a terminal, one thing after the other. -/
theorem Queued.attend {terminal : Terminal} {runtime : Runtime} {queue : List Slot}
    (queued : Queued (grammar roster showIdentity) user terminal runtime queue)
    (waits : Waits terminal queue) (events : List Event) :
    ∃ outcomes own left,
      (∀ printed, (terminal.attend events).run printed = ((outcomes, left), printed ++ own)) ∧
      Follows (grammar roster showIdentity) user runtime (events.flatMap Event.happenings)
        outcomes.reduceOption own left := by
  induction events generalizing terminal runtime queue with
  | nil =>
    refine ⟨[], [], terminal, fun printed => ?_, [], runtime, queue, .nil runtime, rfl, queued, waits⟩
    rw [List.append_nil]
    rfl
  | cons event rest ih =>
    obtain ⟨outcome, own, between, reacts, schedule, middle, queue', course, outside, queued', waits'⟩ :=
      queued.react waits event
    obtain ⟨outcomes, more, left, attends, follows⟩ := ih queued' waits'
    have whole := follows.after course
    rw [outside, ← List.flatMap_cons] at whole
    refine ⟨outcome :: outcomes, own ++ more, left, fun printed => ?_, ?_⟩
    · have goes : (terminal.attend (event :: rest)).run printed =
          let after := (between.attend rest).run (printed ++ own)
          ((outcome :: after.1.1, after.1.2), after.2) := by
        rw [Terminal.attend, StateT.run_bind, reacts]
        rfl
      rw [goes, attends, List.append_assoc]
    · cases outcome with
      | none => exact whole
      | some outcome => exact whole

/-- Whatever happens to a terminal, some schedule that keeps both laws comes to the same: the same lines
are processed, the clock moves as far, the lines have the same outcomes, and the same is printed. -/
theorem terminal_keeps_laws (roster : Roster) (showIdentity : Nat → String) (user : User)
    (events : List Event) :
    let runtime := Runtime.start (grammar roster showIdentity) user.sender
    ∃ schedule, Keeps StartsOnce runtime schedule ∧ Keeps EndsOnTime runtime schedule ∧
      schedule.filter Happening.comesFromOutside = events.flatMap Event.happenings ∧
      ∀ printed,
        let here := ((Terminal.start (grammar roster showIdentity) user.sender).attend events).run printed
        let there := (runtime.attend schedule).run printed
        here.1.1.reduceOption = there.1.1.reduceOption ∧ here.2 = there.2 := by
  have queued : Queued (grammar roster showIdentity) user
      (.start (grammar roster showIdentity) user.sender)
      (.start (grammar roster showIdentity) user.sender) [] :=
    ⟨⟨rfl, rfl⟩, ⟨rfl, rfl⟩, rfl, rfl, .nil, .nil, nofun, nofun⟩
  obtain ⟨outcomes, own, left, attends, schedule, runtime, queue, course, outside, _⟩ :=
    queued.attend nofun events
  obtain ⟨told, same, runs⟩ := course.attend
  refine ⟨schedule, course.keeps.1, course.keeps.2, outside, fun printed => ?_⟩
  rw [attends, runs]
  exact ⟨same.symm, rfl⟩

-- One advance of the clock passes the ends of two sleeps, and a sleep of no length ends in its own line.
example :
    (((Terminal.start (grammar (.ofNames ["ann"]) fun _ => "") (User.mk "ann" 0 false []).sender).attend
      [.line "sleep 5", .pass 2000, .line "sleep 2", .line "sleep 0", .line "sleep 61",
        .pass 3000]).run []).2 =
      ["ann woke up after 0s", "ann woke up after 2s", "ann woke up after 5s"] := by
  decide +kernel

end CommandGrammar.Shell
