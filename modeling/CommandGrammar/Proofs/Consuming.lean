import CommandGrammar.Proofs.Promising
import CommandGrammar.Proofs.Stepping

/-!
# What a form takes off a line

Whoever reads an argument goes on from where the cursor then stands: a search that was refused tries the
next node at the same place, and one that was not moves behind the space. Both count on the form. One
that fails must leave the cursor where it was, one that reads must move it forward, between two
characters of the line and not over a space, and what it reads must not depend on the text behind the
space, which is read by somebody else (`Form.Consumes`).

Every form of the library keeps this, whatever its bounds are, although each puts the cursor back at points
of its own: after a text that is no value, after a number outside of its bounds, and not at all where nothing
was read. What comes of it is what a reader does that takes the longest run of one class of characters, judges
it, and passes over the run only when the judgement is good (`Form.readAt_toCursor`). The judgement refuses
the empty run, so that no form reads nothing, and only the class of the greedy form has the space
(`Form.exists_strict_judge_of_isNative`).
-/

set_option autoImplicit false

namespace CommandGrammar

open Text

/-! ## Runs that are judged -/

/-- The run of a class that is judged badly is not passed over. -/
theorem Reader.judge_eq_error_iff {α : Type} {accepts : Char → Bool}
    {verdict : List Char → Except ParseError α} {reader after : Reader} {reason : ParseError} :
    reader.judge accepts verdict = (.error reason, after) ↔
      verdict (reader.rest.takeWhile accepts) = .error reason ∧ after = reader := by
  unfold Reader.judge
  dsimp only [Reader.takeRun]
  cases verdict (reader.rest.takeWhile accepts) with
  | error found =>
    constructor
    · rintro ⟨⟩
      exact ⟨rfl, rfl⟩
    · rintro ⟨⟨⟩, rfl⟩
      rfl
  | ok value => exact ⟨nofun, nofun⟩

/-! ## What a form takes -/

/-- What reading a form at an offset of a line does to the cursor, whatever it comes to. -/
structure Form.Consumes (form : Form) (line : List Char) (start : Nat) : Prop where
  /-- Reading does not break off. -/
  returns : ∃ result after, form.readAt ⟨line, start⟩ = some (result, after)
  /-- A form that fails leaves the cursor where it was. -/
  stays : ∀ reason after, form.readAt ⟨line, start⟩ = some (.error reason, after) →
    after = ⟨line, start⟩
  /-- A form that reads a value moves the cursor forward on the line, to between two characters or to the
  end, and over no space unless it is the greedy one. -/
  moves : ∀ value after, form.readAt ⟨line, start⟩ = some (.ok value, after) →
    after.line = line ∧ start < after.offset ∧ after.offset ≤ byteLength line ∧
      OnBoundary line after.offset ∧
      ∃ text, slice? line start after.offset = some text ∧ (form ≠ .greedy → ' ' ∉ text)
  /-- A form that reads a value and stops before a space reads the same value in every other line that is
  the same up to and including the space, and stops there. -/
  keeps : ∀ value after before text,
    form.readAt ⟨line, start⟩ = some (.ok value, after) →
    line = before ++ ' ' :: text → after.offset = byteLength before →
    ∀ text', form.readAt ⟨before ++ ' ' :: text', start⟩ =
      some (.ok value, ⟨before ++ ' ' :: text', after.offset⟩)

namespace Form

variable {form : Form} {line : List Char} {start : Nat}

/-- What is read at a cursor is what is read where the reader stands. -/
theorem readAt_eq_some_iff {before rest : List Char} {result : Except ParseError Raw} {after : Cursor} :
    form.readAt ⟨before ++ rest, byteLength before⟩ = some (result, after) ↔
      ∃ left, form.read ⟨before, rest⟩ = (result, left) ∧ after = left.toCursor := by
  have stands : (⟨before ++ rest, byteLength before⟩ : Cursor) = Reader.toCursor ⟨before, rest⟩ := rfl
  rw [stands, readAt_toCursor]
  rcases form.read ⟨before, rest⟩ with ⟨result', left⟩
  constructor
  · rintro ⟨⟩
    exact ⟨left, rfl, rfl⟩
  · rintro ⟨_, ⟨⟩, rfl⟩
    rfl

/-- What a form of the library has read is a run behind the reader, not empty, and without a space unless
it is the greedy form. -/
theorem run_of_read {before rest : List Char} {value : Raw} {after : Reader}
    (native : form.isNative = true) (reads : form.read ⟨before, rest⟩ = (.ok value, after)) :
    ∃ run left, rest = run ++ left ∧ after = ⟨before ++ run, left⟩ ∧ run ≠ [] ∧
      (form ≠ .greedy → ' ' ∉ run) := by
  obtain ⟨accepts, verdict, judges, ⟨reason, refuses⟩, apart⟩ :=
    form.exists_strict_judge_of_isNative native
  rw [judges] at reads
  obtain ⟨accepted, rfl⟩ := Reader.judge_eq_ok_iff.mp reads
  refine ⟨_, _, List.takeWhile_append_dropWhile.symm, rfl, ?_, ?_⟩
  · intro empty
    rw [empty, refuses] at accepted
    cases accepted
  · intro other space
    have taken : accepts ' ' = true := List.mem_takeWhile_imp space
    rw [apart other] at taken
    cases taken

/-- What a form of the library reads before a space does not depend on what stands behind the space. -/
theorem read_retold {before rest text : List Char} {value : Raw} {after : Reader}
    (native : form.isNative = true) (reads : form.read ⟨before, rest⟩ = (.ok value, after))
    (behind : after.rest = ' ' :: text) (text' : List Char) :
    ∃ run, rest = run ++ ' ' :: text ∧ after.passed = before ++ run ∧
      form.read ⟨before, run ++ ' ' :: text'⟩ = (.ok value, ⟨before ++ run, ' ' :: text'⟩) := by
  obtain ⟨accepts, verdict, judges⟩ := form.exists_judge_of_isNative native
  rw [judges] at reads
  obtain ⟨run, parts, passed, retold⟩ := Reader.judge_retold reads behind
  exact ⟨run, parts, passed, judges ▸ retold text'⟩

/-- A form of the library leaves the cursor where it was, or takes a token of the line that does not
depend on what stands behind the space after it. -/
theorem consumes_of_isNative (native : form.isNative = true) (starts : OnBoundary line start) :
    form.Consumes line start := by
  obtain ⟨before, rest, rfl, rfl⟩ := starts
  refine ⟨⟨_, _, readAt_toCursor form ⟨before, rest⟩⟩, ?_, ?_, ?_⟩
  · intro reason after fails
    obtain ⟨left, read, rfl⟩ := readAt_eq_some_iff.mp fails
    obtain ⟨accepts, verdict, judges⟩ := form.exists_judge_of_isNative native
    rw [judges] at read
    obtain ⟨-, rfl⟩ := Reader.judge_eq_error_iff.mp read
    rfl
  · intro value after reads
    obtain ⟨left, read, rfl⟩ := readAt_eq_some_iff.mp reads
    obtain ⟨run, behind, rfl, rfl, some_, apart⟩ := run_of_read native read
    have whole : before ++ (run ++ behind) = before ++ run ++ behind := (List.append_assoc _ _ _).symm
    have stop : (Reader.toCursor ⟨before ++ run, behind⟩).offset = byteLength before + byteLength run :=
      byteLength_append before run
    have further := byteLength_pos some_
    refine ⟨whole.symm, ?_, ?_, ⟨before ++ run, behind, whole, rfl⟩, run, ?_, apart⟩
    · omega
    · rw [stop, byteLength_append, byteLength_append]
      omega
    · rw [stop]
      exact slice?_append before run behind
  · intro value after front text reads line_ stops text'
    obtain ⟨left, read, rfl⟩ := readAt_eq_some_iff.mp reads
    have onLine : left.line = front ++ ' ' :: text := by
      have same := form.keepsLine_of_isNative native ⟨before, rest⟩
      rw [read] at same
      exact same.trans line_
    -- The cursor stops where the space stands, so that the line is cut there.
    obtain ⟨passed, behind⟩ := append_inj_of_byteLength onLine stops
    obtain ⟨run, rfl, passed', retold⟩ := read_retold native read behind text'
    obtain rfl : front = before ++ run := passed.symm.trans passed'
    rw [List.append_assoc]
    refine readAt_eq_some_iff.mpr ⟨_, retold, ?_⟩
    rw [stops, ← List.append_assoc]
    rfl

/-- The number that is given is read where it stands, up to the space. Above the bound it is refused after it
was read, and the cursor goes back. -/
theorem consumes_of_isNative_bounded :
    (Form.integer 0 9).isNative = true ∧ OnBoundary "give 7 ann".toList 5 ∧
      (Form.integer 0 9).Consumes "give 7 ann".toList 5 ∧
      ((Form.integer 0 9).readAt ⟨"give 7 ann".toList, 5⟩).map (fun step => step.2.offset) = some 6 ∧
      ((Form.integer 0 6).readAt ⟨"give 7 ann".toList, 5⟩).map (fun step => step.2.offset) = some 5 :=
  have starts : OnBoundary "give 7 ann".toList 5 := ⟨"give ".toList, "7 ann".toList, by decide, by decide⟩
  ⟨rfl, starts, consumes_of_isNative rfl starts, by decide, by decide⟩

end Form

end CommandGrammar
