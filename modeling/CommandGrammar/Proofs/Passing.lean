import CommandGrammar.Line.Passage
import CommandGrammar.Proofs.Integers
import CommandGrammar.Proofs.Stepping

/-!
# Reading loses nothing

Whoever reads a line step by step counts on three things: that the cursor never lies inside a character,
that it never goes back, and that no character is skipped and none is read twice. The steps come in any
order, and some of them fail on the way; a failing step has to put the cursor back to where it was.

Cursors are followed by the readers that stand where they do (`Reader.perform_toCursor`), and whatever is
asked for, a reader takes the longest run of a class of characters and judges it. So one lemma says what each
step does. It passes over the run where a value stands for it, and over nothing where none does
(`Reader.goesOver_judge`). What has been passed over and what is ahead are therefore always the line that the
cursor was set on (`Reader.Follows.goesOver`), however many steps were made.

Offsets are those of the UTF-8 encoding, and a boundary between characters is one in the sense of the core
library: the bytes before it are well-formed by themselves (`onBoundary_iff_isValid`).
-/

set_option autoImplicit false

namespace CommandGrammar

open Text Decimal

/-! ## Offsets in the encoded text -/

/-- The length in bytes is that of the encoded text. -/
theorem Text.utf8ByteSize_ofList (text : List Char) :
    (String.ofList text).utf8ByteSize = byteLength text := by
  induction text with
  | nil => rfl
  | cons c rest ih => simp [← ih]

/-- Between two characters the bytes of the encoded text can be cut. -/
theorem onBoundary_iff_isValid {input : String} {offset : Nat} :
    OnBoundary input.toList offset ↔ (String.Pos.Raw.mk offset).IsValid input := by
  rw [String.Pos.Raw.isValid_iff_exists_append]
  constructor
  · rintro ⟨before, after, whole, rfl⟩
    refine ⟨String.ofList before, String.ofList after, ?_, ?_⟩
    · rw [← String.ofList_append, ← whole, String.ofList_toList]
    · rw [← utf8ByteSize_ofList]
      rfl
  · rintro ⟨before, after, rfl, offset_⟩
    refine ⟨before.toList, after.toList, String.toList_append, ?_⟩
    rw [← utf8ByteSize_ofList, String.ofList_toList]
    exact (congrArg String.Pos.Raw.byteIdx offset_).symm

/-! ## What is asked for -/

namespace Reading

/-- The characters that a reading passes over. -/
def accepts : Reading → Char → Bool
  | .word | .boolean => Reader.isWordChar
  | .token => fun c => !isBlank c
  | .blanks => isBlank
  | .rest => fun _ => true
  | .integer | .float => Reader.isNumberChar

/-- The value stands for the run. Texts are read as they are; blanks are passed over for no value. -/
inductive Reads : Reading → List Char → Option Raw → Prop where
  | word (run : List Char) : Reads .word run (some (.text (String.ofList run)))
  | token (run : List Char) : Reads .token run (some (.text (String.ofList run)))
  | blanks (run : List Char) : Reads .blanks run none
  | rest (run : List Char) : Reads .rest run (some (.text (String.ofList run)))
  | integer {run : List Char} {number : Int32} (numeral : IsNumeral run number.toInt) :
    Reads .integer run (some (.int number))
  | float {run : List Char} {number : Float} (numeral : readFloat? run = some number) :
    Reads .float run (some (.float number))
  | yes : Reads .boolean "true".toList (some (.bool true))
  | no : Reads .boolean "false".toList (some (.bool false))

/-- What a reading comes to where the longest run of its class is this one. The text that is passed over is
told last. -/
inductive Outcome (reading : Reading) (run : List Char) :
    Except ParseError (Option Raw) → List Char → Prop where
  /-- A value stands for the run, which is passed over. -/
  | passes {value : Option Raw} (reads : reading.Reads run value) : Outcome reading run (.ok value) run
  /-- No value stands for the run, and nothing is passed over. -/
  | stays (none_ : ∀ value, ¬ reading.Reads run value) (reason : ParseError) :
    Outcome reading run (.error reason) []

/-- What is made of a run. -/
def verdict : Reading → List Char → Except ParseError (Option Raw)
  | .word, run | .token, run | .rest, run => .ok (some (.text (String.ofList run)))
  | .blanks, _ => .ok none
  | .integer, run => (Reader.intOfRun run).map fun number => some (.int number)
  | .float, run => (Reader.floatOfRun run).map fun number => some (.float number)
  | .boolean, run => (Reader.boolOfRun run).map fun truth => some (.bool truth)

end Reading

namespace Reader

variable {run : List Char}

/-- A run is read as a float when it is a numeral for it; the empty run is none. -/
theorem floatOfRun_eq_ok_iff {number : Float} :
    floatOfRun run = .ok number ↔ readFloat? run = some number := by
  cases run with
  | nil => exact ⟨nofun, nofun⟩
  | cons c rest =>
    unfold floatOfRun
    rw [if_neg (by simp)]
    cases readFloat? (c :: rest) with
    | none => exact ⟨nofun, nofun⟩
    | some found => simp

/-- The two truth values have one text each. -/
theorem boolOfRun_eq_ok_iff {truth : Bool} :
    boolOfRun run = .ok truth ↔ run = (if truth then "true" else "false").toList := by
  constructor
  · intro reads
    unfold boolOfRun at reads
    split at reads
    · cases reads
    · split at reads
      next yes =>
        cases reads
        exact yes
      next =>
        split at reads
        next no =>
          cases reads
          exact no
        next => cases reads
  · rintro rfl
    cases truth <;> rfl

end Reader

namespace Reading

variable {reading : Reading} {run : List Char} {value : Option Raw}

/-- A value that is wrapped was read before. -/
theorem map_eq_ok_iff {α β : Type} {read : Except ParseError α} {wrap : α → β} {wrapped : β} :
    read.map wrap = .ok wrapped ↔ ∃ value, read = .ok value ∧ wrap value = wrapped := by
  cases read with
  | error reason => exact ⟨nofun, nofun⟩
  | ok found => simp [Except.map]

/-- What is made of a run is the value that stands for it. -/
theorem verdict_eq_ok_iff : reading.verdict run = .ok value ↔ reading.Reads run value := by
  cases reading with
  | word | token | rest | blanks =>
    constructor
    · rintro ⟨⟩
      constructor
    · rintro ⟨⟩
      rfl
  | integer =>
    constructor
    · intro reads
      obtain ⟨number, found, rfl⟩ := map_eq_ok_iff.mp reads
      exact .integer (Reader.intOfRun_eq_ok_iff.mp found)
    · rintro ⟨⟩
      next number numeral =>
        exact map_eq_ok_iff.mpr ⟨number, Reader.intOfRun_eq_ok_iff.mpr numeral, rfl⟩
  | float =>
    constructor
    · intro reads
      obtain ⟨number, found, rfl⟩ := map_eq_ok_iff.mp reads
      exact .float (Reader.floatOfRun_eq_ok_iff.mp found)
    · rintro ⟨⟩
      next number numeral =>
        exact map_eq_ok_iff.mpr ⟨number, Reader.floatOfRun_eq_ok_iff.mpr numeral, rfl⟩
  | boolean =>
    constructor
    · intro reads
      obtain ⟨truth, found, rfl⟩ := map_eq_ok_iff.mp reads
      obtain rfl := Reader.boolOfRun_eq_ok_iff.mp found
      cases truth with
      | true => exact .yes
      | false => exact .no
    · intro reads
      cases reads with
      | yes => rfl
      | no => rfl

end Reading

/-! ## One step -/

namespace Reader

/-- A reader goes over a text of its line. -/
structure GoesOver (before : Reader) (text : List Char) (after : Reader) : Prop where
  passed : after.passed = before.passed ++ text
  rest : before.rest = text ++ after.rest

namespace GoesOver

variable {before between after : Reader} {text text' : List Char}

theorem refl (reader : Reader) : reader.GoesOver [] reader :=
  ⟨(List.append_nil _).symm, rfl⟩

theorem trans (first : before.GoesOver text between) (second : between.GoesOver text' after) :
    before.GoesOver (text ++ text') after where
  passed := by rw [second.passed, first.passed, List.append_assoc]
  rest := by rw [first.rest, second.rest, List.append_assoc]

/-- The line stays the same. -/
theorem line_eq (goes : before.GoesOver text after) : after.line = before.line := by
  rw [line, line, goes.passed, goes.rest, List.append_assoc]

/-- The offset grows by the length of the text. -/
theorem cursor_eq (goes : before.GoesOver text after) :
    after.cursor = before.cursor + byteLength text := by
  rw [cursor, goes.passed, byteLength_append]
  rfl

/-- The text is what stands on the line between the two offsets. -/
theorem spans (goes : before.GoesOver text after) :
    Spans before.line before.cursor after.cursor text := by
  refine ⟨before.passed, after.rest, ?_, rfl, ?_⟩
  · rw [line, goes.rest, List.append_assoc]
  · rw [cursor, goes.passed]

/-- The line can be cut at both offsets, and the text is what is between them. -/
theorem slice? (goes : before.GoesOver text after) :
    Text.slice? before.line before.cursor after.cursor = some text := by
  rw [line, goes.rest, goes.cursor_eq]
  exact slice?_append _ _ _

end GoesOver

/-- A value that is wrapped after it was read comes of a run that is judged so. -/
theorem wrapped_judge {α : Type} (accepts : Char → Bool) (verdict : List Char → Except ParseError α)
    (wrap : α → Raw) (reader : Reader) :
    Cursor.wrapped wrap (some (reader.judge accepts verdict).toCursor) =
      some (reader.judge accepts fun run =>
        (verdict run).map fun value => some (wrap value)).toCursor := by
  unfold judge
  dsimp only
  cases verdict (reader.takeRun accepts).1 with
  | error reason => rfl
  | ok value => rfl

/-- Whatever is asked for at a cursor, a reader that stands there judges the longest run of a class. -/
theorem perform_toCursor (reader : Reader) (reading : Reading) :
    reader.toCursor.perform reading =
      some (reader.judge reading.accepts reading.verdict).toCursor := by
  cases reading with
  | word =>
    rw [Cursor.perform, takeWord_toCursor]
    rfl
  | token =>
    rw [Cursor.perform, takeToken_toCursor]
    rfl
  | rest =>
    rw [Cursor.perform, takeRest_toCursor, ← takeRun_all]
    rfl
  | blanks =>
    rw [Cursor.perform, skipBlanks_toCursor]
    rfl
  | integer =>
    rw [Cursor.perform, readInt_toCursor]
    exact wrapped_judge _ _ _ reader
  | float =>
    rw [Cursor.perform, readFloat_toCursor]
    exact wrapped_judge _ _ _ reader
  | boolean =>
    rw [Cursor.perform, readBool_toCursor]
    exact wrapped_judge _ _ _ reader

/-- A reading looks at the longest run of its class. It goes over the run where a value stands for it, and
over nothing where none does. -/
theorem goesOver_judge (reader : Reader) (reading : Reading) :
    ∃ run rest text, reader.rest = run ++ rest ∧ LongestRun reading.accepts run rest ∧
      reading.Outcome run (reader.judge reading.accepts reading.verdict).1 text ∧
      reader.GoesOver text (reader.judge reading.accepts reading.verdict).2 := by
  have parts : reader.rest = reader.rest.takeWhile reading.accepts ++ reader.rest.dropWhile reading.accepts :=
    List.takeWhile_append_dropWhile.symm
  have longest := longestRun_takeWhile reading.accepts reader.rest
  rcases judged : reader.judge reading.accepts reading.verdict with ⟨result, after⟩
  cases result with
  | ok value =>
    obtain ⟨good, rfl⟩ := judge_eq_ok_iff.mp judged
    exact ⟨_, _, _, parts, longest, .passes (Reading.verdict_eq_ok_iff.mp good), ⟨rfl, parts⟩⟩
  | error reason =>
    obtain ⟨bad, rfl⟩ := judge_eq_error_iff.mp judged
    refine ⟨_, _, _, parts, longest, .stays ?_ reason, .refl after⟩
    intro value reads
    rw [Reading.verdict_eq_ok_iff.mpr reads] at bad
    cases bad

end Reader

/-- A passage tells what led a reader from one position to another. -/
structure Passage.Leads (passage : Passage) (before after : Reader) : Prop where
  start : passage.start = before.cursor
  stop : passage.stop = after.cursor
  goes : before.GoesOver passage.text after
  outcome : ∃ run rest, before.rest = run ++ rest ∧ LongestRun passage.reading.accepts run rest ∧
    passage.reading.Outcome run passage.result passage.text

/-- At a cursor where a reader stands a reading does not break off, and what it tells leads the reader. -/
theorem Passage.exists_leads (reader : Reader) (reading : Reading) :
    ∃ passage after, reader.toCursor.pass reading = some (passage, after.toCursor) ∧
      passage.reading = reading ∧ passage.Leads reader after := by
  obtain ⟨run, rest, text, parts, longest, outcome, goes⟩ := reader.goesOver_judge reading
  rcases judged : reader.judge reading.accepts reading.verdict with ⟨result, after⟩
  rw [judged] at outcome goes
  refine ⟨⟨reading, result, reader.cursor, after.cursor, text⟩, after, ?_, rfl, rfl, rfl, goes, run, rest,
    parts, longest, outcome⟩
  rw [Cursor.pass, Reader.perform_toCursor, judged]
  simp only [Reader.Step.toCursor, Option.bind_eq_bind, Option.bind_some, Reader.line_toCursor,
    Reader.offset_toCursor, goes.slice?]
  rfl

/-! ## Many steps -/

namespace Reader

/-- A reader follows passages, each from where the one before it has led. -/
inductive Follows : Reader → List Passage → Reader → Prop where
  | nil (reader : Reader) : Follows reader [] reader
  | cons {before between after : Reader} {passage : Passage} {passages : List Passage}
    (leads : passage.Leads before between) (follows : Follows between passages after) :
    Follows before (passage :: passages) after

/-- At a cursor where a reader stands no number of readings breaks off, there is a passage for each of them,
and the reader follows the passages. -/
theorem exists_follows (reader : Reader) (readings : List Reading) :
    ∃ passages last, reader.toCursor.passAll readings = some (passages, last.toCursor) ∧
      passages.map Passage.reading = readings ∧ reader.Follows passages last := by
  induction readings generalizing reader with
  | nil => exact ⟨[], reader, rfl, rfl, .nil reader⟩
  | cons reading readings ih =>
    obtain ⟨passage, after, passes, asked, leads⟩ := Passage.exists_leads reader reading
    obtain ⟨passages, last, passesAll, askedAll, follows⟩ := ih after
    refine ⟨passage :: passages, last, ?_, ?_, .cons leads follows⟩
    · simp only [Cursor.passAll, passes, Option.bind_eq_bind, Option.bind_some, passesAll]
      rfl
    · rw [List.map_cons, asked, askedAll]

namespace Follows

variable {before after : Reader} {passages : List Passage}

/-- One passage after the other, the reader goes over all their texts. -/
theorem goesOver (follows : before.Follows passages after) :
    before.GoesOver (passages.flatMap Passage.text) after := by
  induction follows with
  | nil reader => exact .refl reader
  | cons leads _ ih => exact leads.goes.trans ih

/-- Each passage starts where the one before it stops. -/
theorem joined (follows : before.Follows passages after) :
    passages.map Passage.start ++ [after.cursor] = before.cursor :: passages.map Passage.stop := by
  induction follows with
  | nil reader => rfl
  | cons leads _ ih =>
    rw [List.map_cons, List.map_cons, List.cons_append, ih, leads.start, leads.stop]

/-- Every passage leads from a place on the line to another. -/
theorem exists_leads (follows : before.Follows passages after) {passage : Passage}
    (member : passage ∈ passages) :
    ∃ first second, first.line = before.line ∧ passage.Leads first second := by
  induction follows with
  | nil reader => cases member
  | cons leads _ ih =>
    rcases List.mem_cons.mp member with rfl | member
    · exact ⟨_, _, rfl, leads⟩
    · obtain ⟨first, second, line, leads'⟩ := ih member
      exact ⟨first, second, line.trans leads.goes.line_eq, leads'⟩

/-- The offset never gets smaller. -/
theorem ascends (follows : before.Follows passages after) :
    (before.cursor :: passages.map Passage.stop).Pairwise (· ≤ ·) := by
  -- It is enough to compare neighbours, one passage at a time.
  rw [← List.isChain_iff_pairwise]
  induction follows with
  | nil reader => exact .singleton _
  | cons leads _ ih =>
    rw [List.map_cons, List.isChain_cons_cons, leads.stop]
    refine ⟨?_, ih⟩
    rw [leads.goes.cursor_eq]
    exact Nat.le_add_right _ _

/-- The offset always lies on a boundary. -/
theorem onBoundary (follows : before.Follows passages after) {offset : Nat}
    (listed : offset ∈ before.cursor :: passages.map Passage.stop) : OnBoundary before.line offset := by
  rw [← follows.joined] at listed
  rcases List.mem_append.mp listed with listed | listed
  · obtain ⟨passage, member, rfl⟩ := List.mem_map.mp listed
    obtain ⟨first, second, line, leads⟩ := follows.exists_leads member
    rw [← line, leads.start]
    exact ⟨first.passed, first.rest, rfl, rfl⟩
  · rw [List.mem_singleton.mp listed, ← follows.goesOver.line_eq]
    exact ⟨after.passed, after.rest, rfl, rfl⟩

end Follows

end Reader

/-- What a passage tells is what its reading does on the line: the longest run of its class at the place where
it starts decides, and this run or nothing is what stands between its two offsets. -/
structure Passage.Fits (line : List Char) (passage : Passage) : Prop where
  /-- The offsets are as far apart as the text is long, which is not at all where nothing is passed over. -/
  spans : Spans line passage.start passage.stop passage.text
  /-- The reading has judged the longest run at the place where it started. -/
  outcome : ∃ run rest, dropBytes? line passage.start = some (run ++ rest) ∧
    LongestRun passage.reading.accepts run rest ∧
    passage.reading.Outcome run passage.result passage.text
  /-- Where the rest is read, nothing is left. -/
  takesAll : passage.reading = .rest → passage.stop = byteLength line

/-- A reading of the rest leads to the end of the line. -/
theorem Passage.Leads.rest_eq_nil {passage : Passage} {before after : Reader}
    (leads : passage.Leads before after) (reading : passage.reading = .rest) : after.rest = [] := by
  obtain ⟨run, rest, parts, longest, outcome⟩ := leads.outcome
  rw [reading] at longest outcome
  have none_ : rest = [] := by
    cases rest with
    | nil => rfl
    | cons c rest =>
      have refused : true = false := longest.refused c rfl
      cases refused
  -- The rest always stands for a value, so that this reading does not fail.
  generalize passage.result = result at outcome
  generalize told : passage.text = text at outcome
  cases outcome with
  | passes reads =>
    have left := leads.goes.rest
    rw [parts, none_, told, List.append_nil] at left
    exact List.self_eq_append_right.mp left
  | stays none_ reason => exact absurd (.rest run) (none_ _)

/-- A passage that leads a reader tells what its reading does on the line. -/
theorem Passage.Leads.fits {passage : Passage} {before after : Reader}
    (leads : passage.Leads before after) : passage.Fits before.line where
  spans := by
    rw [leads.start, leads.stop]
    exact leads.goes.spans
  outcome := by
    obtain ⟨run, rest, parts, longest, outcome⟩ := leads.outcome
    refine ⟨run, rest, ?_, longest, outcome⟩
    rw [leads.start, ← parts]
    exact before.remaining?_toCursor
  takesAll := by
    intro reading
    rw [leads.stop, ← leads.goes.line_eq, Reader.line, leads.rest_eq_nil reading, List.append_nil]
    rfl

/-- What readings of an input come to, one after the other from a byte offset on. -/
structure Cursor.ReadsOn (input : String) (start : Nat) (readings : List Reading) (passages : List Passage)
    (last : Cursor) : Prop where
  /-- There is one passage for each reading. -/
  asked : passages.map Passage.reading = readings
  /-- The first passage starts at the offset, each other one where the one before it stops, and the cursor is
  left where the last one stops. -/
  joined : passages.map Passage.start ++ [last.offset] = start :: passages.map Passage.stop
  /-- The cursor is always on a boundary of the input. -/
  stands : ∀ offset ∈ start :: passages.map Passage.stop,
    (String.Pos.Raw.mk offset).IsValid input ∧ offset ≤ input.utf8ByteSize
  /-- The cursor never goes back. -/
  ascends : (start :: passages.map Passage.stop).Pairwise (· ≤ ·)
  /-- Each passage tells what its reading does. -/
  fits : ∀ passage ∈ passages, passage.Fits input.toList
  /-- The cursor stays on the input. -/
  line : last.line = input.toList
  /-- The texts that were passed over, and what is left behind them, are the input from the offset on. -/
  whole : ∃ rest, last.remaining? = some rest ∧
    dropBytes? input.toList start = some (passages.flatMap Passage.text ++ rest)

namespace Cursor

/-- From a boundary of the input on, whatever is read and whichever of the readings fail, reading does not
break off, nothing is lost and nothing is read twice. -/
theorem readings_lose_nothing {input : String} {start : Nat}
    (starts : (String.Pos.Raw.mk start).IsValid input) (readings : List Reading) :
    ∃ passages last, passAll ⟨input.toList, start⟩ readings = some (passages, last) ∧
      ReadsOn input start readings passages last := by
  obtain ⟨reader, stands⟩ := @exists_reader ⟨input.toList, start⟩ (onBoundary_iff_isValid.mpr starts)
  have whole : reader.line = input.toList := congrArg Cursor.line stands
  have from_ : reader.cursor = start := congrArg Cursor.offset stands
  obtain ⟨passages, last, passes, asked, follows⟩ := reader.exists_follows readings
  rw [stands] at passes
  refine ⟨passages, last.toCursor, passes, asked, ?_, ?_, ?_, ?_, ?_, last.rest, last.remaining?_toCursor, ?_⟩
  · rw [← from_]
    exact follows.joined
  · intro offset listed
    have valid : (String.Pos.Raw.mk offset).IsValid input := by
      rw [← from_] at listed
      rw [← onBoundary_iff_isValid, ← whole]
      exact follows.onBoundary listed
    exact ⟨valid, valid.le_rawEndPos⟩
  · rw [← from_]
    exact follows.ascends
  · intro passage member
    obtain ⟨first, second, same, leads⟩ := follows.exists_leads member
    rw [← whole, ← same]
    exact leads.fits
  · rw [← whole]
    exact follows.goesOver.line_eq
  · rw [← whole, ← from_, ← follows.goesOver.rest]
    exact reader.remaining?_toCursor

/-- Behind the first word, which is wider than its letters, a number is read, and then something that is none.
It is read as a word instead. What follows is no truth value, and is left for the reading of the rest. -/
theorem readings_lose_nothing_mixed :
    (String.Pos.Raw.mk 2).IsValid "à 12 1-2…fin" ∧
      ∃ passages last,
        passAll ⟨"à 12 1-2…fin".toList, 2⟩
            [.blanks, .integer, .blanks, .integer, .word, .boolean, .rest] = some (passages, last) ∧
          ReadsOn "à 12 1-2…fin" 2 [.blanks, .integer, .blanks, .integer, .word, .boolean, .rest]
            passages last ∧
          passages.map (fun passage => (passage.stop, String.ofList passage.text)) =
            [(3, " "), (5, "12"), (6, " "), (6, ""), (9, "1-2"), (9, ""), (15, "…fin")] := by
  have starts : (String.Pos.Raw.mk 2).IsValid "à 12 1-2…fin" :=
    onBoundary_iff_isValid.mp ⟨['à'], " 12 1-2…fin".toList, by decide, by decide⟩
  obtain ⟨passages, last, passes, reads⟩ := readings_lose_nothing starts
    [.blanks, .integer, .blanks, .integer, .word, .boolean, .rest]
  have told : (passAll ⟨"à 12 1-2…fin".toList, 2⟩
      [.blanks, .integer, .blanks, .integer, .word, .boolean, .rest]).map (fun result =>
        result.1.map fun passage => (passage.stop, String.ofList passage.text)) =
      some [(3, " "), (5, "12"), (6, " "), (6, ""), (9, "1-2"), (9, ""), (15, "…fin")] := by
    decide +kernel
  rw [passes] at told
  exact ⟨starts, passages, last, passes, reads, Option.some.inj told⟩

end Cursor

end CommandGrammar
