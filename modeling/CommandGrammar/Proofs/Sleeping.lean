import CommandGrammar.Proofs.Answering
import CommandGrammar.Shell.Schedule

/-!
# Those who sleep in the shell

A user enters lines in a shell while the clock moves, and some lines send the user to sleep. Whatever the
runtime does in between, as long as it keeps the two laws of `Shell.Schedule`, every such sleep ends: its
message is printed once, not before its time, and before the clock goes on behind its time; those whose
time has come earlier are before it (`Shell.sleepers_wake_once`). What else a line prints, and what it
comes to, is what it would print and come to alone, with nobody asleep.

The proof keeps books of the sleeps (`Shell.Kept`): all that have begun, each with the stage of its task.
The stage tells where the clock stands: a sleep that has not ended is not behind its time, because the
clock may not move on from there.
-/

set_option autoImplicit false

namespace CommandGrammar.Shell

variable {roster : Roster} {showIdentity : Nat → String} {user : User}

/-! ## The clock -/

/-- What happens later moves the clock on. -/
theorem clock_append (past rest : List Happening) : clock (past ++ rest) = clock past + clock rest := by
  induction past with
  | nil => exact (Nat.zero_add _).symm
  | cons first past ih =>
    show first.milliseconds + clock (past ++ rest) = first.milliseconds + clock past + clock rest
    rw [ih, Nat.add_assoc]

/-- The clock after one thing more. -/
theorem clock_concat (past : List Happening) (next : Happening) :
    clock (past ++ [next]) = clock past + next.milliseconds :=
  clock_append past [next]

/-- The clock does not go back. -/
theorem clock_take_le (past : List Happening) (moment : Nat) : clock (past.take moment) ≤ clock past := by
  have whole := clock_append (past.take moment) (past.drop moment)
  rw [List.take_append_drop] at whole
  rw [whole]
  exact Nat.le_add_right _ _

/-- After one thing more a moment is an earlier one, or it is the last. -/
theorem clock_take_concat (past : List Happening) (next : Happening) (moment : Nat) :
    clock ((past ++ [next]).take moment) = clock (past.take moment) ∨
      clock ((past ++ [next]).take moment) = clock (past ++ [next]) := by
  by_cases earlier : moment ≤ past.length
  · rw [List.take_append_of_le_length earlier]
    exact .inl rfl
  · refine .inr ?_
    rw [List.take_of_length_le]
    rw [List.length_append, List.length_singleton]
    omega

/-- A clock that moves by single milliseconds shows every value on the way. -/
theorem exists_clock_take_eq {past : List Happening} {value : Nat}
    (single : ∀ milliseconds, .passes milliseconds ∈ past → milliseconds ≤ 1)
    (reached : value ≤ clock past) : ∃ moment, clock (past.take moment) = value := by
  induction past generalizing value with
  | nil => exact ⟨0, (Nat.le_zero.mp reached).symm⟩
  | cons first rest ih =>
    have step : first.milliseconds ≤ 1 := by
      cases first with
      | passes milliseconds => exact single milliseconds List.mem_cons_self
      | _ => exact Nat.zero_le _
    cases value with
    | zero => exact ⟨0, rfl⟩
    | succ value =>
      replace reached : value + 1 ≤ first.milliseconds + clock rest := reached
      obtain ⟨moment, shows⟩ := @ih (value + 1 - first.milliseconds)
        (fun milliseconds member => single milliseconds (List.mem_cons_of_mem _ member)) (by omega)
      refine ⟨moment + 1, ?_⟩
      show first.milliseconds + clock (rest.take moment) = value + 1
      omega

/-! ## Sleeps -/

/-- A sleep: the position of the line that it began with, the seconds it lasts, and the time when it has
to end. -/
structure Sleep where
  position : Nat
  seconds : Int32
  wakes : Nat

/-- The sleep has begun: a line that was processed at its position was run by the sleeping command, and
the time when the sleep has to end is counted from that moment. -/
def Sleep.Began (grammar : Grammar Printing Kind Extra) (user : User) (past : List Happening)
    (sleep : Sleep) : Prop :=
  ∃ text, past[sleep.position]? = some (.line text) ∧
    Dispatches grammar user.sender text sleep.seconds ∧
    sleep.wakes = clock (past.take sleep.position) + 1000 * sleep.seconds.toInt.toNat

/-- The time of one sleep has come whenever the time of the other has. -/
def Sleep.NoLater (past : List Happening) (first second : Sleep) : Prop :=
  ∀ moment, second.wakes ≤ clock (past.take moment) → first.wakes ≤ clock (past.take moment)

/-- What comes of something that happens: the outcome of a line, the lines that it prints by itself, and
the sleeps that end. -/
structure Report where
  outcome : Option LineOutcome
  own : List String
  woken : List Sleep

/-- All that is printed: the lines that something prints by itself, and then a message for each sleep that
ends. -/
def Report.printed (user : User) (report : Report) : List String :=
  report.own ++ report.woken.map fun sleep => wakeText user sleep.seconds

/-- What comes of something that happens. A line has the outcome that it has alone, with nobody asleep,
and prints what it prints alone; one sleep ends with its task; and nothing comes of anything else. -/
def Report.IsOf (grammar : Grammar Printing Kind Extra) (user : User) (happening : Happening)
    (report : Report) : Prop :=
  match happening with
  | .line text =>
    let alone := (processLine grammar user.sender text).run []
    report = ⟨some alone.1.1, alone.2, []⟩
  | .ends _ => ∃ sleep, report = ⟨none, [], [sleep]⟩
  | .passes _ | .starts _ => report = ⟨none, [], []⟩

/-- The runtime is left as it is by what happens: it tells the outcomes of the reports, and what they print
is printed behind what was printed before. -/
def Reported (user : User) (runtime : Runtime) (schedule : List Happening) (reports : List Report)
    (left : Runtime) : Prop :=
  ∀ printed, (runtime.attend schedule).run printed =
    ((reports.map Report.outcome, left), printed ++ reports.flatMap (Report.printed user))

/-! ## The books -/

/-- A sleep that has begun, and how far its task has come. -/
structure Entry where
  sleep : Sleep
  stage : Stage

/-- The task of a sleep. -/
def Entry.task (user : User) (entry : Entry) : Task :=
  ⟨wakeJob user entry.sleep.seconds, entry.stage⟩

/-- Whether the sleep has ended. -/
def Entry.hasEnded (entry : Entry) : Bool :=
  entry.stage = .done

/-- Where the clock stands, as the stage of a task tells: the sleep is still to be begun and lasts from
now on, or it goes on and its time has not come before the clock shows what it shows, or it has ended and
its time has come. -/
def Entry.Fits (past : List Happening) (entry : Entry) : Prop :=
  match entry.stage with
  | .handed => entry.sleep.wakes = clock past + 1000 * entry.sleep.seconds.toInt.toNat
  | .asleep deadline => deadline = entry.sleep.wakes ∧
      ∀ moment, clock (past.take moment) = clock past ∨ clock (past.take moment) < entry.sleep.wakes
  | .done => entry.sleep.wakes ≤ clock past

/-- The books of a runtime: all sleeps that have begun, in the order of their tasks, and those that have
ended, in the order in which they did. -/
structure Kept (grammar : Grammar Printing Kind Extra) (user : User) (past : List Happening)
    (runtime : Runtime) (entries : List Entry) (woken : List Sleep) : Prop where
  serves : runtime.grammar = grammar
  listens : runtime.sender = user.sender
  now : runtime.now = clock past
  tasks : runtime.tasks = entries.map (Entry.task user)
  fits : ∀ entry ∈ entries, entry.Fits past
  listed : ∀ sleep, sleep ∈ entries.map Entry.sleep ↔ sleep.Began grammar user past
  distinct : ((entries.map Entry.sleep).map Sleep.position).Nodup
  ended : woken.Perm ((entries.filter Entry.hasEnded).map Entry.sleep)
  ordered : woken.Pairwise (Sleep.NoLater past)

section Kept

variable {grammar : Grammar Printing Kind Extra} {past : List Happening} {runtime : Runtime}
  {entries : List Entry} {woken : List Sleep}

/-- A sleep has begun before, or it begins with what happens last. -/
theorem began_concat {next : Happening} {sleep : Sleep} :
    sleep.Began grammar user (past ++ [next]) ↔ sleep.Began grammar user past ∨
      sleep.position = past.length ∧ ∃ text, next = .line text ∧
        Dispatches grammar user.sender text sleep.seconds ∧
        sleep.wakes = clock past + 1000 * sleep.seconds.toInt.toNat := by
  obtain ⟨position, seconds, wakes⟩ := sleep
  constructor
  · rintro ⟨text, at_, dispatches, wakes_⟩
    dsimp only at at_ dispatches wakes_ ⊢
    obtain ⟨within, _⟩ := List.getElem?_eq_some_iff.mp at_
    rw [List.length_append, List.length_singleton] at within
    rcases Nat.lt_succ_iff_lt_or_eq.mp within with earlier | rfl
    · rw [List.getElem?_append_left earlier] at at_
      rw [List.take_append_of_le_length (Nat.le_of_lt earlier)] at wakes_
      exact .inl ⟨text, at_, dispatches, wakes_⟩
    · rw [List.getElem?_concat_length] at at_
      rw [List.take_left] at wakes_
      exact .inr ⟨rfl, text, Option.some.inj at_, dispatches, wakes_⟩
  · rintro (⟨text, at_, dispatches, wakes_⟩ | ⟨rfl, text, rfl, dispatches, wakes_⟩)
    · dsimp only at at_ dispatches wakes_
      obtain ⟨earlier, _⟩ := List.getElem?_eq_some_iff.mp at_
      refine ⟨text, ?_, dispatches, ?_⟩
      · exact (List.getElem?_append_left earlier).trans at_
      · rw [wakes_]
        dsimp only
        rw [List.take_append_of_le_length (Nat.le_of_lt earlier)]
    · refine ⟨text, List.getElem?_concat_length, dispatches, ?_⟩
      rw [wakes_]
      dsimp only
      rw [List.take_left]

/-- Where no line sends the user to sleep, no sleep begins. -/
theorem began_concat_of_awake {next : Happening}
    (awake : ∀ text seconds, next = .line text → ¬ Dispatches grammar user.sender text seconds)
    (sleep : Sleep) :
    sleep.Began grammar user (past ++ [next]) ↔ sleep.Began grammar user past := by
  rw [began_concat]
  refine or_iff_left ?_
  rintro ⟨_, text, same, dispatches, _⟩
  exact awake text sleep.seconds same dispatches

/-- A sleep that has not ended is not behind its time when something happens that leaves the clock alone.
-/
theorem Entry.Fits.concat {entry : Entry} {next : Happening} (fits : entry.Fits past)
    (still : next.milliseconds = 0) : entry.Fits (past ++ [next]) := by
  have same : clock (past ++ [next]) = clock past := by rw [clock_concat, still, Nat.add_zero]
  obtain ⟨sleep, stage⟩ := entry
  cases stage with
  | handed =>
    show sleep.wakes = clock (past ++ [next]) + _
    rw [same]
    exact fits
  | asleep deadline =>
    refine ⟨fits.1, fun moment => ?_⟩
    rcases clock_take_concat past next moment with earlier | last
    · rw [earlier, same]
      exact fits.2 moment
    · exact .inl last
  | done =>
    show sleep.wakes ≤ clock (past ++ [next])
    rw [same]
    exact fits

/-- When the clock moves, those who sleep on have not been due. -/
theorem Entry.Fits.passes {entry : Entry} {milliseconds : Nat} (fits : entry.Fits past)
    (started : entry.stage ≠ .handed) (waits : ¬ entry.stage.IsDue (clock past)) :
    entry.Fits (past ++ [.passes milliseconds]) := by
  obtain ⟨sleep, stage⟩ := entry
  cases stage with
  | handed => exact absurd rfl started
  | asleep deadline =>
    refine ⟨fits.1, fun moment => ?_⟩
    rcases clock_take_concat past (.passes milliseconds) moment with earlier | last
    · have late : clock past < sleep.wakes := fits.1 ▸ Nat.not_le.mp waits
      rw [earlier]
      exact .inr (Nat.lt_of_le_of_lt (clock_take_le past moment) late)
    · exact .inl last
  | done =>
    show sleep.wakes ≤ clock (past ++ [.passes milliseconds])
    rw [clock_concat]
    exact Nat.le_trans fits (Nat.le_add_right _ _)

/-- Those who have woken were due. -/
theorem Kept.due (kept : Kept grammar user past runtime entries woken) :
    ∀ sleep ∈ woken, sleep.wakes ≤ clock past := by
  intro sleep member
  obtain ⟨⟨_, stage⟩, among, rfl⟩ := List.mem_map.mp (kept.ended.mem_iff.mp member)
  obtain ⟨listed, ended⟩ := List.mem_filter.mp among
  obtain rfl : stage = .done := of_decide_eq_true ended
  exact kept.fits _ listed

/-- What happens later does not change the order of those who have woken. -/
theorem Kept.ordered_concat (kept : Kept grammar user past runtime entries woken) (next : Happening) :
    woken.Pairwise (Sleep.NoLater (past ++ [next])) := by
  refine kept.ordered.imp_of_mem fun {first second} member _ noLater moment due => ?_
  rcases clock_take_concat past next moment with earlier | last
  · rw [earlier] at due ⊢
    exact noLater moment due
  · rw [last, clock_concat]
    exact Nat.le_trans (kept.due first member) (Nat.le_add_right _ _)

/-- The clock moves. -/
theorem Kept.passes (kept : Kept grammar user past runtime entries woken) (milliseconds : Nat)
    (started : runtime.AllStarted) (waits : runtime.NoneDue) :
    Kept grammar user (past ++ [.passes milliseconds])
      { runtime with now := runtime.now + milliseconds } entries woken where
  serves := kept.serves
  listens := kept.listens
  now := by
    rw [clock_concat, ← kept.now]
    rfl
  tasks := kept.tasks
  fits := by
    intro entry listed
    have among : entry.task user ∈ runtime.tasks := by
      rw [kept.tasks]
      exact List.mem_map_of_mem listed
    exact (kept.fits entry listed).passes (started _ among) (kept.now ▸ waits _ among)
  listed := by
    intro sleep
    rw [kept.listed, began_concat_of_awake]
    exact fun _ _ same => nomatch same
  distinct := kept.distinct
  ended := kept.ended
  ordered := kept.ordered_concat _

/-- A line is processed that sends nobody to sleep. -/
theorem Kept.idle {text : String} (kept : Kept grammar user past runtime entries woken)
    (awake : ∀ seconds, ¬ Dispatches grammar user.sender text seconds) :
    Kept grammar user (past ++ [.line text]) runtime entries woken where
  serves := kept.serves
  listens := kept.listens
  now := by
    rw [clock_concat]
    exact kept.now
  tasks := kept.tasks
  fits := fun entry listed => (kept.fits entry listed).concat rfl
  listed := by
    intro sleep
    rw [kept.listed, began_concat_of_awake]
    rintro _ seconds ⟨⟩
    exact awake seconds
  distinct := kept.distinct
  ended := kept.ended
  ordered := kept.ordered_concat _

/-- A line is processed that sends the user to sleep. -/
theorem Kept.begins {text : String} {seconds : Int32}
    (kept : Kept grammar user past runtime entries woken)
    (dispatches : ∀ other, Dispatches grammar user.sender text other ↔ other = seconds) :
    Kept grammar user (past ++ [.line text]) (runtime.submit (some (wakeJob user seconds)))
      (entries ++ [⟨⟨past.length, seconds, clock past + 1000 * seconds.toInt.toNat⟩, .handed⟩])
      woken where
  serves := kept.serves
  listens := kept.listens
  now := by
    rw [clock_concat]
    exact kept.now
  tasks := by
    rw [List.map_append, ← kept.tasks]
    rfl
  fits := by
    intro entry listed
    rcases List.mem_append.mp listed with earlier | last
    · exact (kept.fits entry earlier).concat rfl
    · rw [List.mem_singleton.mp last]
      show _ = clock (past ++ [.line text]) + _
      rw [clock_concat]
      rfl
  listed := by
    intro sleep
    rw [List.map_append, List.mem_append, kept.listed, began_concat]
    refine or_congr_right ⟨?_, ?_⟩
    · intro last
      rw [List.mem_singleton.mp last]
      exact ⟨rfl, text, rfl, (dispatches seconds).mpr rfl, rfl⟩
    · obtain ⟨position, seconds', wakes⟩ := sleep
      rintro ⟨position_, text', same, dispatches', wakes_⟩
      dsimp only at position_ dispatches' wakes_
      cases same
      cases (dispatches seconds').mp dispatches'
      rw [position_, wakes_]
      exact List.mem_singleton_self _
  distinct := by
    rw [List.map_append, List.map_append]
    refine List.nodup_append.mpr ⟨kept.distinct, List.nodup_cons.mpr ⟨nofun, .nil⟩, ?_⟩
    -- The positions that are down are those of earlier lines.
    intro position member other last
    obtain ⟨sleep, down, rfl⟩ := List.mem_map.mp member
    obtain ⟨_, at_, _⟩ := (kept.listed sleep).mp down
    obtain ⟨earlier, _⟩ := List.getElem?_eq_some_iff.mp at_
    rw [List.mem_singleton.mp last]
    exact Nat.ne_of_lt earlier
  ended := by
    rw [List.filter_append]
    exact (List.append_nil _).symm ▸ kept.ended
  ordered := kept.ordered_concat _

/-- A line is processed, whatever its answer. -/
theorem Kept.line {text : String} {answer : Answer}
    (kept : Kept grammar user past runtime entries woken) (answers : Answers grammar user text answer) :
    ∃ entries', Kept grammar user (past ++ [.line text])
      (runtime.submit (answer.seconds?.map (wakeJob user))) entries' woken := by
  have dispatches := answers.dispatches
  cases slept : answer.seconds? with
  | none =>
    refine ⟨entries, kept.idle fun seconds there => ?_⟩
    rw [dispatches, slept] at there
    cases there
  | some seconds =>
    refine ⟨_, kept.begins fun other => ?_⟩
    rw [dispatches, slept, Option.some_inj]
    exact eq_comm

/-- The task at a position is that of a sleep. -/
theorem Kept.split {position : Nat} {task : Task}
    (kept : Kept grammar user past runtime entries woken)
    (stands : runtime.tasks[position]? = some task) :
    ∃ before entry after, entries = before ++ entry :: after ∧ before.length = position ∧
      entry.task user = task := by
  rw [kept.tasks, List.getElem?_map, Option.map_eq_some_iff] at stands
  obtain ⟨entry, at_, is⟩ := stands
  obtain ⟨within, same⟩ := List.getElem?_eq_some_iff.mp at_
  refine ⟨entries.take position, entry, entries.drop (position + 1), ?_,
    List.length_take_of_le (Nat.le_of_lt within), is⟩
  rw [← same, List.getElem_cons_drop, List.take_append_drop]

/-- A task comes to another stage, while the clock stands still. -/
theorem Kept.mark {before after : List Entry} {sleep : Sleep} {stage stage' : Stage}
    {next : Happening} {now : List Sleep}
    (kept : Kept grammar user past runtime (before ++ ⟨sleep, stage⟩ :: after) woken)
    (still : next.milliseconds = 0) (other : ∀ text, next ≠ .line text)
    (fits : Entry.Fits (past ++ [next]) ⟨sleep, stage'⟩)
    (ended : (woken ++ now).Perm
      (((before ++ ⟨sleep, stage'⟩ :: after).filter Entry.hasEnded).map Entry.sleep))
    (ordered : (woken ++ now).Pairwise (Sleep.NoLater (past ++ [next]))) :
    Kept grammar user (past ++ [next])
      (runtime.mark before.length (Entry.task user ⟨sleep, stage⟩) stage')
      (before ++ ⟨sleep, stage'⟩ :: after) (woken ++ now) where
  serves := kept.serves
  listens := kept.listens
  now := by
    rw [clock_concat, still]
    exact kept.now
  tasks := by
    have place : before.length = (before.map (Entry.task user)).length := List.length_map _ |>.symm
    show runtime.tasks.set _ _ = _
    rw [kept.tasks, List.map_append, List.map_append, place,
      List.set_append_right _ _ (Nat.le_refl _), Nat.sub_self]
    rfl
  fits := by
    intro entry listed
    rcases List.mem_append.mp listed with first | rest
    · exact (kept.fits entry (List.mem_append_left _ first)).concat still
    · rcases List.mem_cons.mp rest with rfl | last
      · exact fits
      · exact (kept.fits entry
          (List.mem_append_right _ (List.mem_cons_of_mem _ last))).concat still
  listed := by
    intro other_
    rw [began_concat_of_awake fun text _ same => absurd same (other text), ← kept.listed]
    simp only [List.map_append, List.map_cons]
  distinct := by
    have distinct := kept.distinct
    simp only [List.map_append, List.map_cons] at distinct ⊢
    exact distinct
  ended := ended
  ordered := ordered

/-- A task is started, and its sleep lasts from now on. -/
theorem Kept.starts {before after : List Entry} {sleep : Sleep} (position : Nat)
    (kept : Kept grammar user past runtime (before ++ ⟨sleep, .handed⟩ :: after) woken) :
    Kept grammar user (past ++ [.starts position])
      (runtime.mark before.length (Entry.task user ⟨sleep, .handed⟩)
        (.asleep (runtime.now + (wakeJob user sleep.seconds).delay)))
      (before ++ ⟨sleep, .asleep (runtime.now + (wakeJob user sleep.seconds).delay)⟩ :: after)
      (woken ++ []) := by
  have begins : sleep.wakes = clock past + 1000 * sleep.seconds.toInt.toNat :=
    kept.fits _ (List.mem_append_right _ List.mem_cons_self)
  refine kept.mark rfl nofun ⟨?_, fun moment => ?_⟩ ?_ ?_
  · rw [begins, kept.now]
    rfl
  · have shown := clock_take_le (past ++ [Happening.starts position]) moment
    rw [clock_concat] at shown ⊢
    replace shown : _ ≤ clock past := shown
    show _ = clock past ∨ _ < sleep.wakes
    omega
  · have ended := kept.ended
    rw [List.filter_append, List.filter_cons_of_neg (by simp [Entry.hasEnded])] at ended ⊢
    rwa [List.append_nil]
  · rw [List.append_nil]
    exact kept.ordered_concat _

/-- The sleep of a task ends, and behind those who have woken there is one more. -/
theorem Kept.ends {before after : List Entry} {sleep : Sleep} {deadline : Nat} (position : Nat)
    (kept : Kept grammar user past runtime (before ++ ⟨sleep, .asleep deadline⟩ :: after) woken)
    (due : deadline ≤ runtime.now) :
    Kept grammar user (past ++ [.ends position])
      (runtime.mark before.length (Entry.task user ⟨sleep, .asleep deadline⟩) .done)
      (before ++ ⟨sleep, .done⟩ :: after) (woken ++ [sleep]) := by
  have fits : Entry.Fits past ⟨sleep, .asleep deadline⟩ :=
    kept.fits _ (List.mem_append_right _ List.mem_cons_self)
  have notBefore : ∀ moment,
      clock (past.take moment) = clock past ∨ clock (past.take moment) < sleep.wakes := fits.2
  obtain rfl : deadline = sleep.wakes := fits.1
  rw [kept.now] at due
  refine kept.mark rfl nofun ?_ ?_ ?_
  · show sleep.wakes ≤ clock (past ++ [.ends position])
    rw [clock_concat]
    exact due
  · have ended := kept.ended
    rw [List.filter_append, List.filter_cons_of_neg (by simp [Entry.hasEnded]), List.map_append] at ended
    rw [List.filter_append, List.filter_cons_of_pos (by simp [Entry.hasEnded]), List.map_append,
      List.map_cons]
    exact (ended.append_right _).trans (List.perm_append_singleton _ _ |>.trans List.perm_middle.symm)
  · refine List.pairwise_append.mpr ⟨kept.ordered_concat _, List.pairwise_singleton _ _, ?_⟩
    intro first member last only moment reached
    obtain rfl := List.mem_singleton.mp only
    -- The time of the last one has come only now, when that of the others has come as well.
    rcases clock_take_concat past (.ends position) moment with earlier | now
    · rw [earlier] at reached ⊢
      rcases notBefore moment with same | early
      · rw [same]
        exact kept.due first member
      · exact absurd reached (Nat.not_le.mpr early)
    · rw [now, clock_concat]
      exact kept.due first member

end Kept

/-! ## What happens is reported -/

/-- What happens next has its report, and the books are kept, if the laws are. -/
theorem Kept.react {past : List Happening} {runtime : Runtime} {entries : List Entry}
    {woken : List Sleep}
    (kept : Kept (grammar roster showIdentity) user past runtime entries woken) {next : Happening}
    (starts : StartsOnce runtime next) (ends : EndsOnTime runtime next) :
    ∃ (report : Report) (left : Runtime) (entries' : List Entry),
      (∀ printed, (runtime.react next).run printed =
        ((report.outcome, left), printed ++ report.printed user)) ∧
      report.IsOf (grammar roster showIdentity) user next ∧
      Kept (grammar roster showIdentity) user (past ++ [next]) left entries' (woken ++ report.woken) := by
  cases next with
  | line text =>
    obtain ⟨answer, answers⟩ := processLine_answers roster showIdentity user text
    have runs : ∀ printed, (runtime.react (.line text)).run printed =
        ((some answer.outcome, runtime.submit (answer.seconds?.map (wakeJob user))),
          printed ++ Report.printed user ⟨some answer.outcome, answer.own, []⟩) := by
      intro printed
      rw [Runtime.react_line, kept.serves, kept.listens, answers.runs, Report.printed, List.map_nil,
        List.append_nil]
    have is : Report.IsOf (grammar roster showIdentity) user (.line text)
        ⟨some answer.outcome, answer.own, []⟩ := by
      unfold Report.IsOf
      dsimp only
      rw [answers.runs, List.nil_append]
    obtain ⟨entries', kept'⟩ := kept.line answers
    refine ⟨_, _, entries', runs, is, ?_⟩
    rw [List.append_nil]
    exact kept'
  | passes milliseconds =>
    have runs : ∀ printed, (runtime.react (.passes milliseconds)).run printed =
        ((none, { runtime with now := runtime.now + milliseconds }), printed ++ []) := by
      intro printed
      rw [Runtime.react_passes, List.append_nil]
    refine ⟨⟨none, [], []⟩, _, entries, runs, rfl, ?_⟩
    rw [List.append_nil]
    exact kept.passes milliseconds starts ends
  | starts position =>
    obtain ⟨task, stands, handed⟩ := starts
    obtain ⟨before, ⟨sleep, stage⟩, after, rfl, rfl, is⟩ := kept.split stands
    obtain rfl : stage = .handed := (congrArg Task.stage is).trans handed
    refine ⟨⟨none, [], []⟩, _, _, fun printed => ?_, rfl, kept.starts before.length⟩
    show _ = (_, printed ++ [])
    rw [Runtime.react_starts stands, ← is, List.append_nil]
    rfl
  | ends position =>
    obtain ⟨task, stands, due⟩ := ends
    obtain ⟨before, ⟨sleep, stage⟩, after, rfl, rfl, is⟩ := kept.split stands
    have same : stage = task.stage := congrArg Task.stage is
    rw [← same] at due
    cases stage with
    | handed => exact due.elim
    | done => exact due.elim
    | asleep deadline =>
      refine ⟨⟨none, [], [sleep]⟩, _, _, fun printed => ?_, ⟨sleep, rfl⟩, kept.ends before.length due⟩
      rw [Runtime.react_ends stands, ← is]
      rfl

/-- Where nothing happens nothing is reported. -/
theorem reported_nil (user : User) (runtime : Runtime) : Reported user runtime [] [] runtime := by
  intro printed
  rw [List.flatMap_nil, List.append_nil]
  rfl

/-- The report of what happens first comes first. -/
theorem Reported.cons {runtime next left : Runtime} {happening : Happening} {rest : List Happening}
    {report : Report} {reports : List Report}
    (first : ∀ printed, (runtime.react happening).run printed =
      ((report.outcome, next), printed ++ report.printed user))
    (later : Reported user next rest reports left) :
    Reported user runtime (happening :: rest) (report :: reports) left := by
  intro printed
  rw [Runtime.attend_cons, first]
  dsimp only
  rw [later, List.append_assoc]
  rfl

/-- What happens, one thing after the other, has one report after the other, and the books are kept. -/
theorem Kept.attend {past : List Happening} {runtime : Runtime} {entries : List Entry}
    {woken : List Sleep}
    (kept : Kept (grammar roster showIdentity) user past runtime entries woken)
    {schedule : List Happening} (starts : Keeps StartsOnce runtime schedule)
    (ends : Keeps EndsOnTime runtime schedule) :
    ∃ reports : List Report,
      List.Forall₂ (Report.IsOf (grammar roster showIdentity) user) schedule reports ∧
      ∀ count, ∃ left entries',
        Reported user runtime (schedule.take count) (reports.take count) left ∧
        Kept (grammar roster showIdentity) user (past ++ schedule.take count) left entries'
          (woken ++ (reports.take count).flatMap Report.woken) := by
  induction schedule generalizing past runtime entries woken with
  | nil =>
    refine ⟨[], .nil, fun count => ⟨runtime, entries, ?_, ?_⟩⟩
    · rw [List.take_nil, List.take_nil]
      exact reported_nil user runtime
    · rw [List.take_nil, List.take_nil, List.flatMap_nil, List.append_nil, List.append_nil]
      exact kept
  | cons happening rest ih =>
    obtain ⟨report, next, entries', first, is, kept'⟩ := kept.react starts.1 ends.1
    have goesOn : ((runtime.react happening).run []).1.2 = next := by rw [first]
    obtain ⟨reports, all, counts⟩ := ih kept' (goesOn ▸ starts.2) (goesOn ▸ ends.2)
    refine ⟨report :: reports, .cons is all, fun count => ?_⟩
    cases count with
    | zero =>
      refine ⟨runtime, entries, reported_nil user runtime, ?_⟩
      rw [List.take_zero, List.take_zero, List.flatMap_nil, List.append_nil, List.append_nil]
      exact kept
    | succ count =>
      obtain ⟨left, entries'', later, kept''⟩ := counts count
      refine ⟨left, entries'', .cons first later, ?_⟩
      rw [List.take_succ_cons, List.take_succ_cons, List.flatMap_cons, ← List.append_assoc,
        List.append_cons]
      exact kept''

/-- At the start of the clock nobody sleeps. -/
theorem kept_start (grammar : Grammar Printing Kind Extra) (user : User) :
    Kept grammar user [] (.start grammar user.sender) [] [] where
  serves := rfl
  listens := rfl
  now := rfl
  tasks := rfl
  fits := nofun
  listed := by
    refine fun sleep => ⟨nofun, ?_⟩
    rintro ⟨text, at_, _⟩
    cases at_
  distinct := .nil
  ended := .refl _
  ordered := .nil

/-- A sleep lasts for at most a minute. -/
theorem Sleep.Began.bounds {past : List Happening} {sleep : Sleep}
    (began : sleep.Began (grammar roster showIdentity) user past) :
    0 ≤ sleep.seconds ∧ sleep.seconds ≤ 60 := by
  obtain ⟨text, _, dispatches, _⟩ := began
  obtain ⟨answer, answers⟩ := processLine_answers roster showIdentity user text
  exact answers.bounds _ ((answers.dispatches _).mp dispatches)

/-! ## Every sleep ends once -/

/-- The sleeps that have ended, of all that have begun. -/
structure WakeOnce (grammar : Grammar Printing Kind Extra) (user : User) (past : List Happening)
    (left : Runtime) (woken : List Sleep) : Prop where
  /-- Nobody wakes early: who has woken went to sleep with a line, and the time has come. -/
  notEarly : ∀ sleep ∈ woken, sleep.Began grammar user past ∧ sleep.wakes ≤ clock past
  /-- Nobody wakes twice. -/
  once : (woken.map Sleep.position).Nodup
  /-- Nobody sleeps on: who went to sleep has woken before the clock goes on behind the first value that
  it shows at or after the time. -/
  notLate : ∀ (sleep : Sleep) (moment : Nat), sleep.Began grammar user past →
    sleep.wakes ≤ clock (past.take moment) → clock (past.take moment) < clock past → sleep ∈ woken
  /-- When the runtime has nothing to do, those have woken whose time has come. -/
  atRest : left.AllStarted → left.NoneDue →
    ∀ sleep : Sleep, sleep.Began grammar user past → sleep.wakes ≤ clock past → sleep ∈ woken
  /-- They have woken in the order of the values of the clock at which their time has come. -/
  ordered : woken.Pairwise (Sleep.NoLater past)
  /-- A sleep lasts for at most a minute. -/
  bounds : ∀ sleep : Sleep, sleep.Began grammar user past → 0 ≤ sleep.seconds ∧ sleep.seconds ≤ 60

/-- Who went to sleep has woken, unless the task still has something to wait for. -/
theorem Kept.mem_woken {grammar : Grammar Printing Kind Extra} {past : List Happening}
    {runtime : Runtime} {entries : List Entry} {woken : List Sleep} {sleep : Sleep}
    (kept : Kept grammar user past runtime entries woken) (began : sleep.Began grammar user past)
    (nothing : ∀ stage, ⟨sleep, stage⟩ ∈ entries → stage = .done) : sleep ∈ woken := by
  obtain ⟨⟨_, stage⟩, listed, rfl⟩ := List.mem_map.mp ((kept.listed sleep).mpr began)
  obtain rfl := nothing stage listed
  exact kept.ended.mem_iff.mpr (List.mem_map.mpr ⟨_, List.mem_filter.mpr ⟨listed, rfl⟩, rfl⟩)

/-- Books that are kept show that every sleep ends once. -/
theorem Kept.wakeOnce {past : List Happening} {runtime : Runtime} {entries : List Entry}
    {woken : List Sleep}
    (kept : Kept (grammar roster showIdentity) user past runtime entries woken) :
    WakeOnce (grammar roster showIdentity) user past runtime woken where
  notEarly := by
    refine fun sleep member => ⟨(kept.listed sleep).mp ?_, kept.due sleep member⟩
    obtain ⟨entry, among, rfl⟩ := List.mem_map.mp (kept.ended.mem_iff.mp member)
    exact List.mem_map_of_mem (List.mem_filter.mp among).1
  once := by
    refine (kept.ended.map Sleep.position).nodup_iff.mpr (kept.distinct.sublist ?_)
    exact (List.filter_sublist.map Entry.sleep).map Sleep.position
  notLate := by
    intro sleep moment began reached gone
    refine kept.mem_woken began fun stage listed => ?_
    have fits := kept.fits _ listed
    cases stage with
    | done => rfl
    | handed =>
      replace fits : sleep.wakes = clock past + _ := fits
      omega
    | asleep deadline =>
      have waits : clock (past.take moment) = clock past ∨ clock (past.take moment) < sleep.wakes :=
        fits.2 moment
      omega
  atRest := by
    intro started none_ sleep began reached
    refine kept.mem_woken began fun stage listed => ?_
    have fits := kept.fits _ listed
    have among : Entry.task user ⟨sleep, stage⟩ ∈ runtime.tasks := by
      rw [kept.tasks]
      exact List.mem_map_of_mem listed
    cases stage with
    | done => rfl
    | handed => exact absurd rfl (started _ among)
    | asleep deadline =>
      have late : ¬ deadline ≤ runtime.now := none_ _ among
      rw [kept.now, show deadline = sleep.wakes from fits.1] at late
      exact absurd reached late
  ordered := kept.ordered
  bounds := fun _ began => began.bounds

/-- On a clock that moves by single milliseconds those who have woken did so in the order of their times.
-/
theorem WakeOnce.sorted {grammar : Grammar Printing Kind Extra} {past : List Happening} {left : Runtime}
    {woken : List Sleep} (wakes : WakeOnce grammar user past left woken)
    (single : ∀ milliseconds, .passes milliseconds ∈ past → milliseconds ≤ 1) :
    woken.Pairwise fun first second => first.wakes ≤ second.wakes := by
  refine wakes.ordered.imp_of_mem fun {first second} _ member noLater => ?_
  obtain ⟨moment, shows⟩ := exists_clock_take_eq single (wakes.notEarly second member).2
  have reached := noLater moment shows.ge
  rwa [shows] at reached

/-- Whatever lines a user enters while the clock moves, and whatever the runtime does in between that
keeps the laws, at every moment those have woken who went to sleep with one of the lines and whose time has
come: each of them once, nobody early, nobody left behind when the clock goes on, in the order in which
their time has come, and on a clock that moves by single milliseconds in the order of their times. What is
printed are the messages of these sleeps, each as its sleep ends, and what the lines print by themselves.
This, and the outcome of a line, is the same as for the line alone, with nobody asleep. -/
theorem sleepers_wake_once (roster : Roster) (showIdentity : Nat → String) (user : User)
    (schedule : List Happening)
    (starts : Keeps StartsOnce (.start (grammar roster showIdentity) user.sender) schedule)
    (ends : Keeps EndsOnTime (.start (grammar roster showIdentity) user.sender) schedule) :
    ∃ reports : List Report,
      List.Forall₂ (Report.IsOf (grammar roster showIdentity) user) schedule reports ∧
      ∀ count,
        let past := schedule.take count
        let woken := (reports.take count).flatMap Report.woken
        (∃ left, Reported user (.start (grammar roster showIdentity) user.sender) past
            (reports.take count) left ∧
          WakeOnce (grammar roster showIdentity) user past left woken) ∧
        ((∀ milliseconds, .passes milliseconds ∈ past → milliseconds ≤ 1) →
          woken.Pairwise fun first second => first.wakes ≤ second.wakes) := by
  obtain ⟨reports, all, counts⟩ := (kept_start (grammar roster showIdentity) user).attend starts ends
  refine ⟨reports, all, fun count => ?_⟩
  obtain ⟨left, entries, reported, kept⟩ := counts count
  rw [List.nil_append, List.nil_append] at kept
  exact ⟨⟨left, reported, kept.wakeOnce⟩, kept.wakeOnce.sorted⟩

/-- A user who goes to sleep three times: the last sleep ends at once, and the second before the first. -/
def Sample.naps : List Happening :=
  [ .line "sleep 2", .starts 0, .passes 500, .line "sleep 1", .line "sleep 0", .starts 2, .starts 1,
    .line "sleep 61", .ends 2, .passes 999, .line "?sleep ", .passes 1, .ends 1, .passes 1000, .ends 0 ]

/-- The shell of a user who is not an operator. -/
def Sample.ann : User :=
  User.mk "ann" 0 false []

/-- One roster is enough to sleep. -/
def Sample.shell : Grammar Printing Kind Extra :=
  grammar (.ofNames ["ann"]) fun _ => ""

theorem sleepers_wake_once_naps :
    Keeps StartsOnce (.start Sample.shell Sample.ann.sender) Sample.naps ∧
    Keeps EndsOnTime (.start Sample.shell Sample.ann.sender) Sample.naps ∧
    (∃ reports : List Report,
      List.Forall₂ (Report.IsOf Sample.shell Sample.ann) Sample.naps reports ∧
      ∀ count,
        let past := Sample.naps.take count
        let woken := (reports.take count).flatMap Report.woken
        (∃ left, Reported Sample.ann (.start Sample.shell Sample.ann.sender) past
            (reports.take count) left ∧
          WakeOnce Sample.shell Sample.ann past left woken) ∧
        ((∀ milliseconds, .passes milliseconds ∈ past → milliseconds ≤ 1) →
          woken.Pairwise fun first second => first.wakes ≤ second.wakes)) ∧
    (((Runtime.start Sample.shell Sample.ann.sender).attend Sample.naps).run []).2 =
      ["ann woke up after 0s", "ann woke up after 1s", "ann woke up after 2s"] := by
  have starts : Keeps StartsOnce (.start Sample.shell Sample.ann.sender) Sample.naps := by
    decide +kernel
  have ends : Keeps EndsOnTime (.start Sample.shell Sample.ann.sender) Sample.naps := by
    decide +kernel
  exact ⟨starts, ends, sleepers_wake_once _ _ _ _ starts ends, by decide +kernel⟩

end CommandGrammar.Shell
