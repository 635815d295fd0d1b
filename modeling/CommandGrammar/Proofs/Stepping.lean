import CommandGrammar.Argument.Form
import CommandGrammar.Proofs.Accepting

/-!
# A cursor steps as a reader does

A reader stands between two characters because it is made that way, and it stays where it was when a step
fails because that is what judging a run means. A cursor has neither of this: it is an offset, which is added
to and put back.

Both come to the same. Where a reader stands, a cursor can stand as well (`Reader.toCursor`), and whatever is
asked for there, the cursor does not break off, gives what the reader gives, and ends up where the reader
does: for the runs (`Reader.takeRun_toCursor`), for the values (`Reader.readInt_toCursor` and the like) and
for every form of an argument (`Form.readAt_toCursor`). So what is proved of readers is proved of cursors that
start between two characters (`Cursor.exists_reader`).
-/

set_option autoImplicit false

namespace CommandGrammar

open Text

/-! ## Cutting a text at offsets -/

/-- The text before a boundary. -/
theorem Text.takeBytes?_append (before after : List Char) :
    takeBytes? (before ++ after) (byteLength before) = some before := by
  induction before with
  | nil =>
    rw [List.nil_append, byteLength_nil]
    cases after with
    | nil => rfl
    | cons c rest => rfl
  | cons c rest ih =>
    obtain ⟨width, size⟩ := Nat.exists_eq_succ_of_ne_zero (Nat.ne_of_gt c.utf8Size_pos)
    have length : byteLength (c :: rest) = width + byteLength rest + 1 := by
      rw [byteLength_cons, size]
      omega
    rw [List.cons_append, length, takeBytes?, if_pos (by omega),
      show width + byteLength rest + 1 - c.utf8Size = byteLength rest by omega, ih, Option.map_some]

/-- The text between two boundaries. -/
theorem Text.slice?_append (before text after : List Char) :
    slice? (before ++ (text ++ after)) (byteLength before) (byteLength before + byteLength text) =
      some text := by
  rw [slice?, if_pos (Nat.le_add_right _ _), dropBytes?_append, Option.bind_some,
    Nat.add_sub_cancel_left, takeBytes?_append]

/-- The first character outside of a class stands behind the longest run of the class. -/
theorem Text.find?_charOffsets (accepts : Char → Bool) (offset : Nat) (text : List Char) :
    (((charOffsets offset text).find? fun entry => !accepts entry.2).map Prod.fst).getD
        (offset + byteLength text) = offset + byteLength (text.takeWhile accepts) := by
  induction text generalizing offset with
  | nil => rfl
  | cons c rest ih =>
    rw [charOffsets, List.takeWhile_cons]
    cases accepted : accepts c with
    | true =>
      rw [List.find?_cons_of_neg (by simp [accepted]), byteLength_cons, ← Nat.add_assoc, ih, if_pos rfl,
        byteLength_cons, Nat.add_assoc]
    | false =>
      rw [List.find?_cons_of_pos (by simp [accepted])]
      rfl

/-! ## Steps -/

/-- What a step gives, with the cursor that stands where the reader does. -/
def Reader.Step.toCursor {α : Type} (step : Reader.Step α) : Cursor.Step α :=
  (step.1, step.2.toCursor)

namespace Reader

variable {α : Type} {accepts : Char → Bool} {verdict : List Char → Except ParseError α}

theorem remaining?_toCursor (reader : Reader) : reader.toCursor.remaining? = some reader.rest :=
  dropBytes?_append reader.passed reader.rest

/-- A cursor that is moved to between two characters is where the reader is that is moved there. -/
theorem moveTo_toCursor {reader : Reader} {offset : Nat} (stands : OnBoundary reader.line offset) :
    reader.toCursor.moveTo offset = (reader.moveTo offset).toCursor := by
  obtain ⟨before, rest, parts, rfl⟩ := stands
  have within : byteLength before ≤ byteLength reader.line := by
    rw [parts, byteLength_append]
    exact Nat.le_add_right _ _
  rw [Cursor.moveTo, Cursor.atOffset, line_toCursor, Nat.min_eq_left within, moveTo, parts,
    atOffset_append]
  rfl

/-- A reader that has gone on along its line can be moved back. -/
theorem moveTo_cursor {reader after : Reader} (same : after.line = reader.line) :
    after.moveTo reader.cursor = reader := by
  rw [moveTo, same]
  exact atOffset_append reader.passed reader.rest

/-- A cursor takes the run that a reader takes. -/
theorem takeRun_toCursor (accepts : Char → Bool) (reader : Reader) :
    reader.toCursor.takeRun accepts =
      some ((reader.takeRun accepts).1, (reader.takeRun accepts).2.toCursor) := by
  have parts : reader.line =
      reader.passed ++ (reader.rest.takeWhile accepts ++ reader.rest.dropWhile accepts) := by
    rw [List.takeWhile_append_dropWhile]
    rfl
  have ends : (((charOffsets 0 reader.rest).find? fun entry => !accepts entry.2).map Prod.fst).getD
      (byteLength reader.rest) = byteLength (reader.rest.takeWhile accepts) := by
    have found := find?_charOffsets accepts 0 reader.rest
    rwa [Nat.zero_add, Nat.zero_add] at found
  have after : (reader.takeRun accepts).2.toCursor =
      ⟨reader.line, reader.cursor + byteLength (reader.rest.takeWhile accepts)⟩ := by
    rw [toCursor, line_takeRun]
    exact congrArg _ (byteLength_append _ _)
  have cut : slice? reader.line reader.cursor
      (reader.cursor + byteLength (reader.rest.takeWhile accepts)) =
        some (reader.rest.takeWhile accepts) := by
    rw [parts]
    exact slice?_append _ _ _
  rw [Cursor.takeRun, remaining?_toCursor, after]
  simp only [Option.bind_eq_bind, Option.bind_some, ends, line_toCursor, offset_toCursor, cut]
  rfl

theorem takeWord_toCursor (reader : Reader) :
    reader.toCursor.takeWord = some (reader.takeWord.1, reader.takeWord.2.toCursor) :=
  takeRun_toCursor _ reader

theorem takeToken_toCursor (reader : Reader) :
    reader.toCursor.takeToken = some (reader.takeToken.1, reader.takeToken.2.toCursor) :=
  takeRun_toCursor _ reader

theorem skipBlanks_toCursor (reader : Reader) :
    reader.toCursor.skipBlanks = some reader.skipBlanks.toCursor := by
  rw [Cursor.skipBlanks, takeRun_toCursor]
  rfl

/-- Where every character is of the class, the run is all that is left. -/
theorem takeRun_all (reader : Reader) : reader.takeRun (fun _ => true) = reader.takeRest := by
  simp [takeRun, takeRest, line]

/-- A cursor takes all that is left, as a reader does. -/
theorem takeRest_toCursor (reader : Reader) :
    reader.toCursor.takeRest = some (reader.takeRest.1, reader.takeRest.2.toCursor) := by
  have after : reader.takeRest.2.toCursor = ⟨reader.line, byteLength reader.line⟩ := by
    show Cursor.mk (reader.line ++ []) (byteLength reader.line) = _
    rw [List.append_nil]
  rw [Cursor.takeRest, remaining?_toCursor, after]
  rfl

/-- A run that is judged well is passed over, as it is where the cursor stays behind it. -/
theorem judge_of_ok {reader : Reader} {value : α}
    (good : verdict (reader.takeRun accepts).1 = .ok value) :
    reader.judge accepts verdict = (.ok value, (reader.takeRun accepts).2) := by
  rw [judge]
  dsimp only
  rw [good]

/-- A run that is judged badly is not, as it is not where the cursor goes back. -/
theorem judge_of_error {reader : Reader} {reason : ParseError}
    (bad : verdict (reader.takeRun accepts).1 = .error reason) :
    reader.judge accepts verdict = (.error reason, reader) := by
  rw [judge]
  dsimp only
  rw [bad]

/-- Behind the run a cursor goes back to where it was. -/
theorem goBack_toCursor (accepts : Char → Bool) (reader : Reader) :
    { (reader.takeRun accepts).2.toCursor with offset := reader.toCursor.offset } = reader.toCursor := by
  dsimp only
  rw [line_toCursor, line_takeRun]
  rfl

/-- Where the run is empty there is no need to go back. -/
theorem toCursor_of_isEmpty {reader : Reader} (empty : (reader.takeRun accepts).1.isEmpty = true) :
    (reader.takeRun accepts).2.toCursor = reader.toCursor := by
  have none_ : reader.rest.takeWhile accepts = [] := List.isEmpty_iff.mp empty
  have stays : (reader.takeRun accepts).2.cursor = reader.cursor := by
    show byteLength (reader.passed ++ reader.rest.takeWhile accepts) = _
    rw [none_, List.append_nil]
    rfl
  rw [toCursor, line_takeRun, stays]
  rfl

/-- A cursor reads the number that a reader reads. -/
theorem readNumber_toCursor {number? : List Char → Option α} {expected : ParseError}
    {invalid : String → ParseError} (empty : verdict [] = .error expected)
    (some_ : ∀ run, run ≠ [] →
      verdict run = (number? run).elim (.error (invalid (String.ofList run))) .ok) (reader : Reader) :
    reader.toCursor.readNumber number? expected invalid =
      some (reader.judge isNumberChar verdict).toCursor := by
  rw [Cursor.readNumber, takeRun_toCursor]
  simp only [Option.bind_eq_bind, Option.bind_some]
  split
  next none_ =>
    have bad : verdict (reader.takeRun isNumberChar).1 = .error expected := by
      rw [List.isEmpty_iff.mp none_, empty]
    rw [judge_of_error bad, toCursor_of_isEmpty none_]
    rfl
  next read =>
    have judged := some_ (reader.takeRun isNumberChar).1 (by simpa using read)
    cases found : number? (reader.takeRun isNumberChar).1 with
    | some value =>
      rw [found] at judged
      rw [judge_of_ok judged]
      rfl
    | none =>
      rw [found] at judged
      rw [judge_of_error judged]
      dsimp only
      rw [goBack_toCursor]
      rfl

/-- An integer is read by its numeral, which must lie in the range. -/
theorem intOfRun_eq {run : List Char} (some_ : run ≠ []) :
    intOfRun run = (Cursor.int32? run).elim (.error (.invalidInteger (String.ofList run))) .ok := by
  rw [intOfRun, if_neg (by simpa using some_), Cursor.int32?]
  cases Decimal.readInteger? run with
  | none => rfl
  | some value =>
    simp only [Option.bind_eq_bind, Option.bind_some]
    split <;> rfl

theorem readInt_toCursor (reader : Reader) :
    reader.toCursor.readInt = some reader.readInt.toCursor :=
  readNumber_toCursor rfl (fun _ some_ => intOfRun_eq some_) reader

theorem readFloat_toCursor (reader : Reader) :
    reader.toCursor.readFloat = some reader.readFloat.toCursor := by
  refine readNumber_toCursor rfl (fun run some_ => ?_) reader
  rw [floatOfRun, if_neg (by simpa using some_)]
  cases Decimal.readFloat? run <;> rfl

/-- A cursor reads the truth value that a reader reads. -/
theorem readBool_toCursor (reader : Reader) :
    reader.toCursor.readBool = some reader.readBool.toCursor := by
  rw [Cursor.readBool, takeWord_toCursor, takeWord, readBool]
  simp only [Option.bind_eq_bind, Option.bind_some]
  generalize word : (reader.takeRun isWordChar).1 = run
  have judged : boolOfRun (reader.takeRun isWordChar).1 = boolOfRun run := by rw [word]
  unfold boolOfRun at judged
  split
  next none_ =>
    rw [if_pos none_] at judged
    rw [judge_of_error judged, toCursor_of_isEmpty (word ▸ none_)]
    rfl
  next some_ =>
    rw [if_neg some_] at judged
    split
    next yes =>
      rw [if_pos yes] at judged
      rw [judge_of_ok judged]
      rfl
    next notYes =>
      rw [if_neg notYes] at judged
      split
      next no =>
        rw [if_pos no] at judged
        rw [judge_of_ok judged]
        rfl
      next notNo =>
        rw [if_neg notNo] at judged
        rw [judge_of_error judged, goBack_toCursor]
        rfl

end Reader

/-- A cursor that lies between two characters is where some reader stands. -/
theorem Cursor.exists_reader {cursor : Cursor} (stands : OnBoundary cursor.line cursor.offset) :
    ∃ reader : Reader, reader.toCursor = cursor := by
  obtain ⟨line, offset⟩ := cursor
  obtain ⟨before, rest, rfl, rfl⟩ := stands
  exact ⟨⟨before, rest⟩, rfl⟩

/-! ## Forms -/

namespace Form

variable {reader : Reader}

/-- A text that is read at a cursor is the text that a reader judges. -/
theorem ofTaken_toCursor (accepts : Char → Bool) (reader : Reader) :
    ofTaken (reader.toCursor.takeRun accepts) = some (reader.judge accepts textOfRun).toCursor := by
  rw [Reader.takeRun_toCursor, ofTaken]
  simp only [Option.bind_eq_bind, Option.bind_some]
  rw [textOfRun]
  split
  next none_ =>
    have bad : textOfRun (reader.takeRun accepts).1 = .error .expectedValue := if_pos none_
    rw [Reader.judge_of_error bad, Reader.toCursor_of_isEmpty none_]
    rfl
  next some_ =>
    rw [Reader.judge_of_ok (if_neg some_)]
    rfl

/-- A number that is read at a cursor and then compared with its bounds is one that a reader judges with its
bounds: where it is refused, it has been passed over, and the cursor goes back. -/
theorem boundedAt_toCursor {α : Type} [LT α] [DecidableRel fun first second : α => first < second]
    {read : Cursor → Option (Cursor.Step α)} {accepts : Char → Bool}
    {verdict : List Char → Except ParseError α} {bounded : List Char → Except ParseError Raw}
    {low high : α} {tooLow tooHigh : α → α → ParseError} {raw : α → Raw}
    (reads : ∀ reader : Reader, read reader.toCursor = some (reader.judge accepts verdict).toCursor)
    (refuses : ∀ run error, verdict run = .error error → bounded run = .error error)
    (compares : ∀ run value, verdict run = .ok value → bounded run =
      if value < low then .error (tooLow value low)
      else if high < value then .error (tooHigh value high)
      else .ok (raw value)) (reader : Reader) :
    boundedAt read low high tooLow tooHigh raw reader.toCursor =
      some (reader.judge accepts bounded).toCursor := by
  have same : (reader.takeRun accepts).2.line = reader.line := reader.line_takeRun accepts
  have back : (reader.takeRun accepts).2.toCursor.moveTo reader.toCursor.offset = reader.toCursor := by
    rw [Reader.moveTo_toCursor (same ▸ ⟨reader.passed, reader.rest, rfl, rfl⟩)]
    exact congrArg Reader.toCursor (Reader.moveTo_cursor same)
  rw [boundedAt, reads]
  cases read_ : verdict (reader.takeRun accepts).1 with
  | error reason =>
    rw [Reader.judge_of_error read_, Reader.judge_of_error (refuses _ _ read_)]
    rfl
  | ok value =>
    have judged := compares _ _ read_
    rw [Reader.judge_of_ok read_]
    simp only [Reader.Step.toCursor, Option.bind_eq_bind, Option.bind_some, back]
    split
    next tooLow_ =>
      rw [if_pos tooLow_] at judged
      rw [Reader.judge_of_error judged]
      rfl
    next fine =>
      rw [if_neg fine] at judged
      split
      next tooHigh_ =>
        rw [if_pos tooHigh_] at judged
        rw [Reader.judge_of_error judged]
        rfl
      next inside =>
        rw [if_neg inside] at judged
        rw [Reader.judge_of_ok judged]
        rfl

/-- A cursor reads the truth value that a reader judges. -/
theorem boolean_toCursor (reader : Reader) :
    readAt .boolean reader.toCursor = some (read .boolean reader).toCursor := by
  rw [readAt, Reader.readBool_toCursor, Reader.readBool]
  simp only [Option.bind_eq_bind, Option.bind_some, Reader.Step.toCursor]
  show some _ = some (Reader.Step.toCursor (reader.judge Reader.isWordChar fun run =>
    (Reader.boolOfRun run).map Raw.bool))
  cases judged : Reader.boolOfRun (reader.takeRun Reader.isWordChar).1 with
  | error reason =>
    have wrapped : (Reader.boolOfRun (reader.takeRun Reader.isWordChar).1).map Raw.bool =
        .error reason := by rw [judged]; rfl
    rw [Reader.judge_of_error judged, Reader.judge_of_error wrapped]
    rfl
  | ok truth =>
    have wrapped : (Reader.boolOfRun (reader.takeRun Reader.isWordChar).1).map Raw.bool =
        .ok (.bool truth) := by rw [judged]; rfl
    rw [Reader.judge_of_ok judged, Reader.judge_of_ok wrapped]
    rfl

/-- At a cursor every form reads what it reads where a reader stands, and leaves the cursor where it leaves
the reader. -/
theorem readAt_toCursor (form : Form) (reader : Reader) :
    form.readAt reader.toCursor = some (form.read reader).toCursor := by
  cases form with
  | word => exact ofTaken_toCursor Reader.isWordChar reader
  | selector => exact ofTaken_toCursor (fun c => !isBlank c) reader
  | greedy =>
    rw [readAt, Reader.takeRest_toCursor, ← Reader.takeRun_all, ← Reader.takeRun_toCursor]
    exact ofTaken_toCursor (fun _ => true) reader
  | integer low high =>
    rw [readAt, read]
    refine boundedAt_toCursor Reader.readInt_toCursor ?_ ?_ reader
    · intro run error refused
      rw [boundedInt, refused]
    · intro run value found
      rw [boundedInt, found]
  | float low high =>
    rw [readAt, read]
    refine boundedAt_toCursor Reader.readFloat_toCursor ?_ ?_ reader
    · intro run error refused
      rw [boundedFloat, refused]
    · intro run value found
      rw [boundedFloat, found]
  | boolean => exact boolean_toCursor reader
  | foreign description read =>
    have same : Reader.atOffset reader.toCursor.line reader.toCursor.offset = reader :=
      Reader.atOffset_append reader.passed reader.rest
    rw [readAt, same]
    rfl

end Form

end CommandGrammar
