import CommandGrammar.Program
import CommandGrammar.Proofs.Reading
import Mathlib.Data.List.TakeWhile

/-!
# The two ways to give lines to the program

The program takes its lines from its arguments or from its input. Both ways come to the same: the lines are
answered one by one up to the first that leaves the shell, and a conversation shows the answers that the
other way gives, with a prompt before the first one and behind each (`Program.modes_agree`). That holds of
lines that leave no work in the background, since such work is done when its time comes and not with its
line. What reads the arguments and the settings makes no difference, as long as it reads the same options
but for the lines.

How a line is written down makes no difference, as long as it is the same request
(`Shell.Request.ofLine`). Blanks around a line are not part of its request, with one exception: behind a
line that asks for completions they are.
-/

set_option autoImplicit false

namespace CommandGrammar

open Text

/-! ## Requests -/

namespace Shell

/-- The request of a line that asks for nothing but what its text is, without the blanks around it. -/
def Request.ofText (text : List Char) : Request :=
  if String.ofList text = "" then .nothing
  else if String.ofList text = "exit" || String.ofList text = "quit" then .leave
  else .run (String.ofList text)

/-- The line leaves the shell: without the blanks around it, it is one of two words. -/
def Leaves (line : String) : Prop :=
  String.ofList (trim line.toList) = "exit" ∨ String.ofList (trim line.toList) = "quit"

instance : DecidablePred Leaves :=
  fun _ => inferInstanceAs (Decidable (_ ∨ _))

/-- The line asks for completions: a question mark is its first character that is no blank. -/
def Asks (line : String) : Prop :=
  line.toList.find? (!isBlank ·) = some '?'

instance : DecidablePred Asks :=
  fun _ => inferInstanceAs (Decidable (_ = _))

theorem isBlank_of_isLineEnd (c : Char) (lineEnd : isLineEnd c = true) : isBlank c = true := by
  simp only [isLineEnd, Bool.or_eq_true, decide_eq_true_eq] at lineEnd
  rcases lineEnd with rfl | rfl <;> decide

/-- The first character of a line that is no blank is the first one of its trimmed text. -/
theorem asks_iff {line : String} : Asks line ↔ ∃ start, trimStart line.toList = '?' :: start := by
  rw [Asks, List.find?_not_eq_head?_dropWhile, List.head?_eq_some_iff]
  rfl

/-- Where completions are asked for, only line ends are dropped. -/
theorem Request.ofLine_of_asks {line : String} {start : List Char}
    (asks : trimStart line.toList = '?' :: start) :
    ofLine line = .complete (String.ofList (dropEndWhile isLineEnd start)) := by
  simp only [ofLine, asks, dropEndWhile_cons (by decide : isLineEnd '?' = false)]

/-- Otherwise all blanks around the line are. -/
theorem Request.ofLine_of_not_asks {line : String} (other : ¬ Asks line) :
    ofLine line = ofText (trim line.toList) := by
  have same : trimEnd (dropEndWhile isLineEnd (trimStart line.toList)) = trim line.toList :=
    trimEnd_dropEndWhile isBlank_of_isLineEnd _
  simp only [ofLine, same]
  split
  next start starts =>
    obtain ⟨dropped, parts, _⟩ := exists_of_dropEndWhile isLineEnd (trimStart line.toList)
    rw [starts] at parts
    exact absurd (asks_iff.mpr ⟨_, parts⟩) other
  next => rfl

/-- A line leaves the shell exactly when it is a request to leave. -/
theorem Request.ofLine_eq_leave_iff {line : String} : ofLine line = .leave ↔ Leaves line := by
  by_cases asks : Asks line
  · obtain ⟨start, starts⟩ := asks_iff.mp asks
    have trimmed : trim line.toList = '?' :: trimEnd start := by
      rw [trim, starts]
      exact dropEndWhile_cons (by decide) start
    rw [ofLine_of_asks starts, Leaves, trimmed]
    refine iff_of_false nofun (not_or.mpr ⟨fun same => ?_, fun same => ?_⟩) <;>
      exact absurd (String.toList_ofList.symm.trans (congrArg String.toList same)) (by simp)
  · rw [ofLine_of_not_asks asks, ofText, Leaves]
    split
    next none_ =>
      rw [none_]
      exact iff_of_false nofun (by decide)
    next =>
      split
      next leaves => simpa using leaves
      next stays => simpa using stays

/-! ## Lines with the same request -/

/-- The second line is the first one with blanks around it. Behind a line that asks for completions there are
none, and no blank is a line feed. -/
def Padded (line padded : String) : Prop :=
  ∃ lead trail, padded.toList = lead ++ line.toList ++ trail ∧
    (∀ c ∈ lead ++ trail, isBlank c = true ∧ c ≠ '\n') ∧ (Asks line → trail = [])

/-- The characters around a line can be looked at one by one. -/
theorem Padded.of_all {line padded : String} (lead trail : List Char)
    (around : padded.toList = lead ++ line.toList ++ trail)
    (blanks : (lead ++ trail).all (fun c => isBlank c && c != '\n') = true)
    (short : Asks line → trail = []) : Padded line padded := by
  refine ⟨lead, trail, around, fun c member => ?_, short⟩
  have both := List.all_eq_true.mp blanks c member
  rwa [Bool.and_eq_true, bne_iff_ne] at both

/-- Blanks behind a line leave it as it asks. -/
theorem asks_append_iff {line longer : String} {lead trail : List Char}
    (around : longer.toList = lead ++ line.toList ++ trail) (before : ∀ c ∈ lead, isBlank c = true)
    (behind : ∀ c ∈ trail, isBlank c = true) : Asks longer ↔ Asks line := by
  rw [asks_iff, asks_iff, around, List.append_assoc, trimStart_append before,
    trimStart_append_blank behind]
  cases trimStart line.toList with
  | nil => simp
  | cons c rest => simp

/-- Blanks around a line that does not ask for completions are not part of its request. -/
theorem Request.ofLine_of_blanks {line longer : String} {lead trail : List Char}
    (around : longer.toList = lead ++ line.toList ++ trail) (before : ∀ c ∈ lead, isBlank c = true)
    (behind : ∀ c ∈ trail, isBlank c = true) (other : ¬ Asks line) : ofLine longer = ofLine line := by
  rw [ofLine_of_not_asks other, ofLine_of_not_asks ((asks_append_iff around before behind).not.mpr other),
    around, List.append_assoc, trim, trimStart_append before, ← trim, trim_append behind]

/-- Blanks around a line are not part of its request. -/
theorem Padded.ofLine_eq {line padded : String} (around : Padded line padded) :
    Request.ofLine padded = Request.ofLine line := by
  obtain ⟨lead, trail, around, blanks, short⟩ := around
  obtain ⟨before, behind⟩ := List.forall_mem_append.mp blanks
  by_cases asks : Asks line
  · rw [short asks, List.append_nil] at around
    unfold Request.ofLine
    rw [around, trimStart_append fun c member => (before c member).1]
  · exact Request.ofLine_of_blanks around (fun c member => (before c member).1)
      (fun c member => (behind c member).1) asks

/-- Blanks around a line do not make it leave the shell, nor stay. -/
theorem Padded.leaves_iff {line padded : String} (around : Padded line padded) :
    Leaves padded ↔ Leaves line := by
  rw [← Request.ofLine_eq_leave_iff, around.ofLine_eq, Request.ofLine_eq_leave_iff]

/-- Blanks around a line do not break it. -/
theorem Padded.unbroken {line padded : String} (around : Padded line padded)
    (unbroken : '\n' ∉ line.toList) : '\n' ∉ padded.toList := by
  obtain ⟨lead, trail, around, blanks, _⟩ := around
  rw [around]
  simp only [List.mem_append, not_or]
  refine ⟨⟨fun member => ?_, unbroken⟩, fun member => ?_⟩
  · exact (blanks _ (List.mem_append_left _ member)).2 rfl
  · exact (blanks _ (List.mem_append_right _ member)).2 rfl

/-- A carriage return at the end of a line is no part of its request. -/
theorem Request.ofLine_append_return (text : String) : ofLine (text ++ "\r") = ofLine text := by
  have around : (text ++ "\r").toList = [] ++ text.toList ++ ['\r'] := by simp
  have lineEnd : ∀ c ∈ ['\r'], isLineEnd c = true := List.forall_mem_singleton.mpr (by decide)
  have blank : ∀ c ∈ ['\r'], isBlank c = true := fun c member =>
    isBlank_of_isLineEnd c (lineEnd c member)
  by_cases asks : Asks text
  · obtain ⟨start, starts⟩ := asks_iff.mp asks
    have longer : trimStart (text ++ "\r").toList = '?' :: (start ++ ['\r']) := by
      rw [around, List.nil_append, trimStart_append_blank blank, starts]
      rfl
    rw [ofLine_of_asks starts, ofLine_of_asks longer, dropEndWhile_append lineEnd]
  · exact ofLine_of_blanks around (by simp) blank asks

/-! ## Lines that leave no work -/

variable {terminal : Terminal}

/-- The line leaves no work for later, when it is entered at the terminal. -/
def Terminal.LeavesNoWork (terminal : Terminal) (line : String) : Prop :=
  ((processLine terminal.grammar terminal.sender line).run []).1.2 = none

/-- What becomes of a line is told by its request. -/
theorem processLine_congr {line other : String} (same : Request.ofLine line = Request.ofLine other)
    (grammar : Grammar Printing Kind Extra) (sender : ShellSender) :
    processLine grammar sender line = processLine grammar sender other := by
  unfold processLine
  rw [same]

/-- A command does not end the session, whatever comes of it. -/
theorem outcomeOfRun_ne_leave (sender : ShellSender) (line : String)
    (result : Except DispatchError (Outcome Printing)) : (outcomeOfRun sender line result).1 ≠ .leave := by
  rcases result with error | work | _ <;> exact nofun

/-- A line ends the session exactly when it leaves the shell. -/
theorem processLine_leave_iff (grammar : Grammar Printing Kind Extra) (sender : ShellSender)
    (line : String) (told : List String) :
    ((processLine grammar sender line).run told).1.1 = .leave ↔ Leaves line := by
  rw [← Request.ofLine_eq_leave_iff, processLine]
  cases Request.ofLine line with
  | complete start => exact iff_of_false nofun nofun
  | nothing => exact iff_of_false nofun nofun
  | leave => exact iff_of_true rfl rfl
  | run command =>
    exact iff_of_false (outcomeOfRun_ne_leave sender command _) nofun

/-- Where nobody sleeps, there is nobody to wake. -/
theorem Terminal.wake_of_rested (rested : terminal.sleepers = []) : terminal.wake = pure terminal := by
  obtain ⟨grammar, sender, now, sleepers⟩ := terminal
  cases rested
  rfl

/-- A line without work leaves the terminal as it was. -/
theorem Terminal.enter_run (rested : terminal.sleepers = []) {line : String}
    (idle : terminal.LeavesNoWork line) :
    (terminal.enter line).run [] =
      ((((processLine terminal.grammar terminal.sender line).run []).1.1, terminal),
        ((processLine terminal.grammar terminal.sender line).run []).2) := by
  unfold LeavesNoWork at idle
  rw [enter, StateT.run_bind]
  rcases ran : (processLine terminal.grammar terminal.sender line).run [] with ⟨⟨outcome, work⟩, told⟩
  rw [ran] at idle
  cases idle
  show (terminal.wake >>= fun awake => pure (outcome, awake)).run told = _
  rw [wake_of_rested rested]
  rfl

end Shell

namespace Program

open Shell (Leaves Padded Request Terminal processLine)

variable {terminal : Terminal} {line : String} {lines : List String}

/-- What the program prints for a line that is entered at the terminal. -/
def answer (terminal : Terminal) (line : String) : String :=
  (exchange terminal line).1

/-- The lines before the first one that leaves the shell. -/
def beforeLeaving (lines : List String) : List String :=
  lines.takeWhile fun line => !Leaves line

/-- A line is answered by its request. -/
theorem exchange_congr {other : String} (same : Request.ofLine line = Request.ofLine other)
    (terminal : Terminal) : exchange terminal line = exchange terminal other := by
  simp only [exchange, Terminal.enter, Shell.processLine_congr same]

/-- A line that leaves the shell prints nothing. -/
theorem exchange_of_leaves (rested : terminal.sleepers = []) (leaves : Leaves line) :
    exchange terminal line = ("", none) := by
  have ends : processLine terminal.grammar terminal.sender line = pure (.leave, none) := by
    rw [processLine, Request.ofLine_eq_leave_iff.mpr leaves]
  have idle : terminal.LeavesNoWork line := by
    rw [Terminal.LeavesNoWork, ends]
    rfl
  rw [exchange, Terminal.enter_run rested idle, ends]
  rfl

/-- Any other line is answered, and where it leaves no work the terminal stays as it was. -/
theorem exchange_of_stays (rested : terminal.sleepers = []) (idle : terminal.LeavesNoWork line)
    (stays : ¬ Leaves line) : exchange terminal line = (answer terminal line, some terminal) := by
  have goesOn := (Shell.processLine_leave_iff terminal.grammar terminal.sender line []).not.mpr stays
  rw [answer, exchange, Terminal.enter_run rested idle]
  cases outcome : ((processLine terminal.grammar terminal.sender line).run []).1.1 with
  | proceed lines => rfl
  | leave => exact absurd outcome goesOn

/-- What a terminal prints for lines, each with a text behind its answer, up to one that leaves the shell. -/
def answers (terminal : Terminal) (behind : String) (lines : List String) : String :=
  String.join ((beforeLeaving lines).map fun line => answer terminal line ++ behind)

theorem answers_of_leaves (terminal : Terminal) (behind : String) (leaves : Leaves line)
    (rest : List String) : answers terminal behind (line :: rest) = "" := by
  simp [answers, beforeLeaving, leaves]

theorem answers_of_stays (terminal : Terminal) (behind : String) (stays : ¬ Leaves line)
    (rest : List String) : answers terminal behind (line :: rest) =
      answer terminal line ++ behind ++ answers terminal behind rest := by
  simp [answers, beforeLeaving, stays, String.join_cons]

/-- Behind a line that stays in the shell, only the other lines can leave it. -/
theorem leaves_cons_of_stays (stays : ¬ Leaves line) (rest : List String) :
    (∃ other ∈ line :: rest, Leaves other) ↔ ∃ other ∈ rest, Leaves other := by
  rw [List.exists_mem_cons_iff, or_iff_right stays]

/-- Lines that are given are answered up to one that leaves the shell, and what follows it is left alone. -/
theorem runLines_append (rested : terminal.sleepers = [])
    (idle : ∀ line ∈ lines, terminal.LeavesNoWork line) (more : List String) :
    runLines terminal (lines ++ more) = answers terminal "" lines ++
      if ∃ line ∈ lines, Leaves line then "" else runLines terminal more := by
  induction lines with
  | nil => simp [answers, beforeLeaving]
  | cons line rest ih =>
    obtain ⟨here, behind⟩ := List.forall_mem_cons.mp idle
    rw [List.cons_append, runLines]
    by_cases leaves : Leaves line
    · rw [exchange_of_leaves rested leaves, answers_of_leaves terminal "" leaves, if_pos]
      · rfl
      · exact ⟨line, .head _, leaves⟩
    · rw [exchange_of_stays rested here leaves, answers_of_stays terminal "" leaves]
      simp only [ih behind, leaves_cons_of_stays leaves, String.append_empty, String.append_assoc]

theorem Result.after_after (result : Result) (first second : String) :
    (result.after second).after first = result.after (first ++ second) := by
  simp only [Result.after, String.append_assoc]

/-- What is read for a line is the same request. -/
theorem ReadAs.exists_text {read : Option String} (readAs : ReadAs line read) :
    ∃ text, read = some text ∧ Request.ofLine text = Request.ofLine line := by
  cases readAs with
  | same => exact ⟨line, rfl, rfl⟩
  | @shorter text longer => exact ⟨text, rfl, longer ▸ (Request.ofLine_append_return text).symm⟩

/-- A conversation answers the lines up to one that leaves the shell, with the prompt behind each answer, and
what follows that line is left alone. -/
theorem converse_append (prompt : String) (rested : terminal.sleepers = [])
    (idle : ∀ line ∈ lines, terminal.LeavesNoWork line) {reads : List (Option String)}
    (readAs : List.Forall₂ ReadAs lines reads) (more : List (Option String)) :
    converse prompt terminal (reads ++ more) =
      (if ∃ line ∈ lines, Leaves line then ⟨success, ""⟩ else converse prompt terminal more).after
        (answers terminal prompt lines) := by
  induction readAs with
  | nil => simp [answers, beforeLeaving, Result.after]
  | @cons line read rest reads here _ ih =>
    obtain ⟨idle, behind⟩ := List.forall_mem_cons.mp idle
    obtain ⟨text, rfl, same⟩ := here.exists_text
    rw [List.cons_append, converse, takeTurn, exchange_congr same]
    by_cases leaves : Leaves line
    · rw [exchange_of_leaves rested leaves, answers_of_leaves terminal prompt leaves, if_pos]
      · rfl
      · exact ⟨line, .head _, leaves⟩
    · rw [exchange_of_stays rested idle leaves, answers_of_stays terminal prompt leaves]
      simp only [ih behind, leaves_cons_of_stays leaves, Result.after_after]

/-! ## Lines in the arguments -/

/-- Lines that were collected before stand before the lines of the options. -/
theorem collect_lines {occurrences : List Occurrence} {collected : Collected} {options : Options}
    (orders : collect collected occurrences = .run options) (earlier : List String) :
    collect { collected with linesReversed := collected.linesReversed ++ earlier } occurrences =
      .run { options with lines := earlier.reverse ++ options.lines } := by
  fun_induction collect collected occurrences with
  | case1 collected =>
    cases orders
    simp [collect, Collected.options]
  | case6 collected rest first ih =>
    rw [collect, if_neg first]
    exact ih orders
  | case9 collected path rest some_ first ih =>
    rw [collect, if_neg some_, if_neg first]
    exact ih orders
  | case11 collected name rest first ih =>
    rw [collect, if_neg first]
    exact ih orders
  | case12 collected line rest ih => exact ih orders
  | case2 | case3 | case4 | case5 | case7 | case8 | case10 => cases orders

/-- The argument that gives a line. -/
def lineArgument (line : String) : String :=
  ValueOption.line.name ++ "=" ++ line

theorem occurrences_lineArgument (line : String) (rest : List String) :
    occurrences (lineArgument line :: rest) = .given .line line :: occurrences rest := by
  have chars : (lineArgument line).toList =
      '-' :: '-' :: ("command".toList ++ '=' :: line.toList) := by
    simp [lineArgument, ValueOption.name]
  have cut : Text.cutAt? '=' ("command".toList ++ '=' :: line.toList) =
      some ("command".toList, line.toList) :=
    Text.cutAt?_eq_some_iff.mpr ⟨rfl, by decide⟩
  have reads : readArgument (lineArgument line) = ⟨[.given .line line], none⟩ := by
    have option : longOption? "command".toList = some .line := by decide
    simp only [readArgument, chars, readLong, cut, option, String.ofList_toList]
  have other : lineArgument line ≠ "--" := by
    intro same
    rw [same] at chars
    exact absurd chars (by simp)
  rw [occurrences, if_neg other]
  simp only [reads]
  rfl

/-- Any lines can be given, in front of any arguments. -/
theorem ofArguments_lines {arguments : List String} {options : Options}
    (orders : Order.ofArguments arguments = .run options) (lines : List String) :
    Order.ofArguments (lines.map lineArgument ++ arguments) =
      .run { options with lines := lines ++ options.lines } := by
  have collects (collected : Collected) : collect collected (occurrences (lines.map lineArgument ++ arguments)) =
      collect { collected with linesReversed := lines.reverse ++ collected.linesReversed }
        (occurrences arguments) := by
    induction lines generalizing collected with
    | nil => rfl
    | cons line rest ih =>
      rw [List.map_cons, List.cons_append, occurrences_lineArgument, collect, ih]
      simp
  rw [Order.ofArguments, collects, List.append_nil]
  have front := collect_lines orders lines.reverse
  rwa [List.reverse_reverse] at front

/-! ## Both ways -/

/-- Blanks around the lines change nothing of what is printed for them. -/
theorem answers_of_padded {padded : List String} (around : List.Forall₂ Padded lines padded)
    (terminal : Terminal) (behind : String) :
    answers terminal behind padded = answers terminal behind lines := by
  induction around with
  | nil => rfl
  | @cons line written lines padded here _ ih =>
    by_cases leaves : Leaves line
    · rw [answers_of_leaves terminal behind leaves,
        answers_of_leaves terminal behind (here.leaves_iff.mpr leaves)]
    · rw [answers_of_stays terminal behind leaves,
        answers_of_stays terminal behind (here.leaves_iff.not.mpr leaves), ih, answer, answer,
        exchange_congr here.ofLine_eq]

/-- Blanks around lines that leave no work do not make them leave any. -/
theorem leavesNoWork_of_padded {padded : List String} (around : List.Forall₂ Padded lines padded)
    (idle : ∀ line ∈ lines, terminal.LeavesNoWork line) :
    ∀ line ∈ padded, terminal.LeavesNoWork line := by
  induction around with
  | nil => exact nofun
  | cons here _ ih =>
    obtain ⟨first, behind⟩ := List.forall_mem_cons.mp idle
    refine List.forall_mem_cons.mpr ⟨?_, ih behind⟩
    rwa [Terminal.LeavesNoWork, Shell.processLine_congr here.ofLine_eq]

/-- Lines with blanks around them have no line feed, where the lines have none. -/
theorem unbroken_of_padded {padded : List String} (around : List.Forall₂ Padded lines padded)
    (unbroken : ∀ line ∈ lines, '\n' ∉ line.toList) : ∀ line ∈ padded, '\n' ∉ line.toList := by
  induction around with
  | nil => exact nofun
  | cons here _ ih =>
    obtain ⟨first, behind⟩ := List.forall_mem_cons.mp unbroken
    exact List.forall_mem_cons.mpr ⟨here.unbroken first, ih behind⟩

/-- A run that is given the lines in its arguments comes to the first result, and a run that is fed the
lines comes to the second one. Apart from the lines, both have the same options. -/
structure ComeTo (readers : Readers) (options : Options) (showIdentity : Nat → String)
    (lines : List String) (given conversation : Result) : Prop where
  given : ∀ arguments input, readers.order arguments = .run { options with lines := lines } →
    run readers arguments showIdentity input = given
  fed : ∀ arguments input, readers.order arguments = .run { options with lines := [] } →
    Feeds lines input → run readers arguments showIdentity input = conversation

section Runs

variable {readers : Readers} {arguments : List String} {options : Options}
  {settings : Settings} {showIdentity : Nat → String}

/-- A run with lines in its arguments. -/
theorem run_given (orders : readers.order arguments = .run { options with lines := lines })
    (loads : readers.settings options.settingsPath = .ok settings) (some_ : lines ≠ [])
    (input : List UInt8) : run readers arguments showIdentity input =
      ⟨success, runLines (openTerminal options settings showIdentity) lines⟩ := by
  have given : lines.isEmpty = false := List.isEmpty_eq_false_iff.mpr some_
  simp only [run, orders, loads, runWith, given]
  rfl

/-- A run without lines in its arguments. -/
theorem run_fed (orders : readers.order arguments = .run { options with lines := [] })
    (loads : readers.settings options.settingsPath = .ok settings) (input : List UInt8) :
    run readers arguments showIdentity input =
      (converse settings.shell.prompt (openTerminal options settings showIdentity)
        (inputLines input)).after settings.shell.prompt := by
  simp only [run, orders, loads, runWith]
  rfl

/-- Lines that leave no work are answered one by one, with prompts between the answers where they are fed. -/
theorem comeTo_answers (loads : readers.settings options.settingsPath = .ok settings)
    (some_ : lines ≠ []) (unbroken : ∀ line ∈ lines, '\n' ∉ line.toList)
    (idle : ∀ line ∈ lines, (openTerminal options settings showIdentity).LeavesNoWork line) :
    ComeTo readers options showIdentity lines
      ⟨success, answers (openTerminal options settings showIdentity) "" lines⟩
      ⟨success, settings.shell.prompt ++
        answers (openTerminal options settings showIdentity) settings.shell.prompt lines⟩ := by
  refine ⟨fun arguments input orders => ?_, fun arguments input orders feeds => ?_⟩
  · have all := runLines_append rfl idle []
    rw [List.append_nil] at all
    rw [run_given orders loads some_, all]
    split <;> simp [runLines]
  · have all := converse_append settings.shell.prompt rfl idle (feeds.inputLines_eq unbroken) []
    rw [List.append_nil] at all
    rw [run_fed orders loads, all, Result.after_after]
    split <;> simp [converse, Result.after]

/-- A list of lines is given to the program in its arguments or fed to it as its input, and none of the lines
leaves work in the background. Both runs answer the lines up to the first one that leaves the shell, and
the second run prints what the first one prints for each of them, with the prompt behind it and once at the
start. Blanks around the lines change nothing of that, and neither does anything that follows a line which
leaves the shell, be it bytes that are no text. -/
theorem modes_agree (loads : readers.settings options.settingsPath = .ok settings)
    (some_ : lines ≠ []) (unbroken : ∀ line ∈ lines, '\n' ∉ line.toList)
    (idle : ∀ line ∈ lines, (openTerminal options settings showIdentity).LeavesNoWork line) :
    let terminal := openTerminal options settings showIdentity
    let prompt := settings.shell.prompt
    let given : Result := ⟨success, answers terminal "" lines⟩
    let conversation : Result := ⟨success, prompt ++ answers terminal prompt lines⟩
    ComeTo readers options showIdentity lines given conversation ∧
      (∀ padded, List.Forall₂ Padded lines padded →
        ComeTo readers options showIdentity padded given conversation) ∧
      ((∃ line ∈ lines, Leaves line) →
        (∀ arguments input more,
          readers.order arguments = .run { options with lines := lines ++ more } →
          run readers arguments showIdentity input = given) ∧
        ∀ arguments input rest, readers.order arguments = .run { options with lines := [] } →
          Ended lines input → run readers arguments showIdentity (input ++ rest) = conversation) := by
  refine ⟨comeTo_answers loads some_ unbroken idle, fun padded around => ?_, fun leaves => ⟨?_, ?_⟩⟩
  · have padded_ : padded ≠ [] := by
      rintro rfl
      cases around
      exact some_ rfl
    rw [← answers_of_padded around, ← answers_of_padded around]
    exact comeTo_answers loads padded_ (unbroken_of_padded around unbroken)
      (leavesNoWork_of_padded around idle)
  · intro arguments input more orders
    rw [run_given orders loads (List.append_ne_nil_of_left_ne_nil some_ more),
      runLines_append rfl idle, if_pos leaves, String.append_empty]
  · intro arguments input rest orders ended
    obtain ⟨reads, readAs, inputLines_⟩ := ended.inputLines_append unbroken
    rw [run_fed orders loads, inputLines_, converse_append settings.shell.prompt rfl idle readAs,
      if_pos leaves, Result.after_after]
    simp [Result.after]

end Runs

/-! ## Lines of the console -/

namespace Sample

/-- The terminal of the console with the standard settings. -/
abbrev console : Terminal :=
  openTerminal {} {} fun _ => ""

/-- The console asks what may follow, runs a command, and leaves; one more line is behind. -/
def entered : List String :=
  ["?cr", "admin whoami", "exit", "dance"]

/-- The same lines with blanks around them. -/
def enteredPadded : List String :=
  ["\t?cr", "  admin whoami ", "exit\u3000", "dance"]

/-- The padded lines as bytes, with both kinds of line ends and none behind the last line. -/
def enteredBytes : List UInt8 :=
  encode "\t?cr" ++ [carriageReturn] ++ lineFeed :: (encode "  admin whoami " ++ [] ++ lineFeed ::
    (encode "exit\u3000" ++ [] ++ lineFeed :: [])) ++ encode "dance"

end Sample

/-- The lines of the console are answered up to the one that leaves, also with blanks around them, and with
prompts where they are fed. -/
theorem modes_agree_console :
    let given : Result := ⟨success, "crate\n[console] console\n"⟩
    let conversation : Result := ⟨success, "> crate\n> [console] console\n> "⟩
    let readers : Readers := .standard fun _ => .absent
    ComeTo readers {} (fun _ => "") Sample.entered given conversation ∧
      List.Forall₂ Padded Sample.entered Sample.enteredPadded ∧
      run readers (Sample.enteredPadded.map lineArgument) (fun _ => "") [] = given ∧
      run readers [] (fun _ => "") Sample.enteredBytes = conversation := by
  intro given conversation readers
  have idle : ∀ line ∈ Sample.entered, Sample.console.LeavesNoWork line := by
    have isNone : ∀ line ∈ Sample.entered,
        ((processLine Sample.console.grammar Sample.console.sender line).run []).1.2.isNone = true := by
      decide +kernel
    exact fun line listed => Option.isNone_iff_eq_none.mp (isNone line listed)
  have around : List.Forall₂ Padded Sample.entered Sample.enteredPadded := by
    refine .cons (.of_all ['\t'] [] rfl (by decide) fun _ => rfl) (.cons
      (.of_all [' ', ' '] [' '] rfl (by decide) fun asks => absurd asks (by decide)) (.cons
        (.of_all [] ['\u3000'] rfl (by decide) fun asks => absurd asks (by decide)) (.cons
          (.of_all [] [] rfl (by decide) fun _ => rfl) .nil)))
  have feeds : Feeds Sample.enteredPadded Sample.enteredBytes :=
    .unended (.cons _ (.inr rfl) (.cons _ (.inl rfl) (.cons _ (.inl rfl) .nil))) (by decide)
  have before : beforeLeaving Sample.entered = ["?cr", "admin whoami"] := by decide
  have first : answer Sample.console "?cr" = "crate\n" := by decide +kernel
  have second : answer Sample.console "admin whoami" = "[console] console\n" := by
    decide +kernel
  have printed (behind : String) : answers Sample.console behind Sample.entered =
      "crate\n" ++ behind ++ ("[console] console\n" ++ behind) := by
    simp [answers, before, first, second, String.join_cons]
  obtain ⟨plain, padded, _⟩ := @modes_agree Sample.entered readers {} {} (fun _ => "") rfl
    (by decide) (by decide) idle
  simp only [printed] at plain padded
  have orders : Order.ofArguments (Sample.enteredPadded.map lineArgument) =
      .run { lines := Sample.enteredPadded } :=
    List.append_nil (Sample.enteredPadded.map lineArgument) ▸
      ofArguments_lines (rfl : Order.ofArguments [] = .run {}) Sample.enteredPadded
  exact ⟨plain, around, (padded _ around).given _ _ orders, (padded _ around).fed _ _ rfl feeds⟩

end Program

end CommandGrammar
