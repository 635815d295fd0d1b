import CommandGrammar.Proofs.Paths
import CommandGrammar.Proofs.Usable

/-!
# Tokens end within their line

A form that leaves its reader somewhere on the line it was given takes no token that ends beyond the
end of the line, and a fixed word never does. The forms of the library leave the reader on its line;
of a foreign form this is the least that its host can promise.

Such tokens end between two characters, and what follows is a space or nothing. The next token starts
behind the space, so that all of them start between two characters (`Tried.onBoundary`).
-/

set_option autoImplicit false

namespace CommandGrammar

open Text

variable {m : Type → Type} {κ ε : Type}

/-- The text behind an offset is as long as what the offset leaves of the line. -/
theorem Text.byteLength_of_dropBytes? {line rest : List Char} {offset : Nat}
    (dropped : dropBytes? line offset = some rest) :
    offset + byteLength rest = byteLength line := by
  induction line generalizing offset with
  | nil =>
    cases offset with
    | zero =>
      cases dropped
      rfl
    | succ offset => cases dropped
  | cons c text ih =>
    cases offset with
    | zero =>
      cases dropped
      exact Nat.zero_add _
    | succ offset =>
      rw [dropBytes?] at dropped
      split at dropped
      next fits =>
        have behind := ih dropped
        rw [byteLength_cons]
        omega
      next => cases dropped

/-- A reader at an offset reads the whole line. -/
theorem Reader.line_atOffset (line : List Char) (offset : Nat) :
    (Reader.atOffset line offset).line = line :=
  splitAtByte_append offset line

/-- Taking a run off the rest keeps the line. -/
theorem Reader.line_takeRun (accepts : Char → Bool) (reader : Reader) :
    (reader.takeRun accepts).2.line = reader.line := by
  show reader.passed ++ reader.rest.takeWhile accepts ++ reader.rest.dropWhile accepts = _
  rw [List.append_assoc, List.takeWhile_append_dropWhile]
  rfl

/-- A run that is judged is passed over or not; the line stays. -/
theorem Reader.line_judge {α : Type} (accepts : Char → Bool)
    (verdict : List Char → Except ParseError α) (reader : Reader) :
    (reader.judge accepts verdict).2.line = reader.line := by
  unfold Reader.judge
  dsimp only
  split
  · exact reader.line_takeRun accepts
  · rfl

/-- The form leaves the reader somewhere on the line it was given. -/
def Form.KeepsLine (form : Form) : Prop :=
  ∀ reader : Reader, (form.read reader).2.line = reader.line

/-- The forms of the library keep the line. -/
theorem Form.keepsLine_of_isNative {form : Form} (native : form.isNative = true) :
    form.KeepsLine := by
  intro reader
  cases form with
  | foreign description read => cases native
  | word => exact reader.line_judge _ _
  | greedy => exact reader.line_judge _ _
  | integer low high => exact reader.line_judge _ _
  | float low high => exact reader.line_judge _ _
  | boolean => exact reader.line_judge _ _
  | selector => exact reader.line_judge _ _

/-- The pattern is a fixed word, or its form keeps the line. -/
def Pattern.KeepsLine : Pattern → Prop
  | .literal _ => True
  | .argument _ form => form.KeepsLine

/-- An argument that is taken ends between two characters, and a space or the end of the line follows.
-/
theorem Pattern.boundary_of_argument {name : String} {form : Form} {line : List Char}
    {start stop : Nat} {parsed : Option Binding} (keeps : form.KeepsLine)
    (takes : (Pattern.argument name form).consume line start = .ok (stop, parsed)) :
    ∃ before after, line = before ++ after ∧ byteLength before = stop ∧ atBoundary after = true := by
  rw [Pattern.consume] at takes
  have line_ := keeps (Reader.atOffset line start)
  rw [Reader.line_atOffset] at line_
  split at takes
  next => cases takes
  next value after read =>
    rw [read] at line_
    split at takes
    · cases takes
    · split at takes
      next ends =>
        cases takes
        exact ⟨after.passed, after.rest, line_.symm, rfl, ends⟩
      next => cases takes

/-- A token that starts on the line ends on the line. -/
theorem Pattern.stop_le {pattern : Pattern} {line : List Char} {start stop : Nat}
    {parsed : Option Binding} (keeps : pattern.KeepsLine) (within : start ≤ byteLength line)
    (takes : pattern.consume line start = .ok (stop, parsed)) : stop ≤ byteLength line := by
  cases pattern with
  | literal name =>
    rw [Pattern.consume] at takes
    split at takes
    next after found =>
      split at takes
      · cases takes
        have split_ := dropStart?_eq_some_iff.mp found
        cases rest : dropBytes? line start with
        | none =>
          rw [rest] at split_
          have empty : name.toList = [] := (List.append_eq_nil_iff.mp split_.symm).1
          rw [empty]
          exact within
        | some text =>
          rw [rest] at split_
          have whole := byteLength_of_dropBytes? rest
          have length : byteLength text = byteLength name.toList + byteLength after := by
            rw [show text = name.toList ++ after from split_, byteLength_append]
          omega
      · cases takes
    next => cases takes
  | argument name form =>
    obtain ⟨before, after, rfl, rfl, _⟩ := Pattern.boundary_of_argument keeps takes
    rw [byteLength_append]
    exact Nat.le_add_right _ _

/-- The last node of a path belongs to the forest. -/
theorem Tried.clause_mem {line : List Char} {usable : Clause m κ ε → Bool} {nodes : List (Node m κ ε)}
    {start : Nat} {path : Path m κ ε} (tried : Tried line usable nodes start path) :
    path.last.node.clause ∈ Node.allClauses nodes := by
  induction tried with
  | here at_ _ => exact Node.clause_mem_allClauses (List.mem_of_getElem? at_)
  | deeper at_ _ _ _ _ ih =>
    exact Node.allClauses_children_subset (List.mem_of_getElem? at_) ih

/-- The tokens of a path start on the line. -/
theorem Tried.start_le {line : List Char} {usable : Clause m κ ε → Bool} {nodes : List (Node m κ ε)}
    {start : Nat} {path : Path m κ ε} (tried : Tried line usable nodes start path)
    (within : start ≤ byteLength line) : path.last.start ≤ byteLength line := by
  induction tried with
  | here _ _ => exact within
  | deeper _ _ _ inside _ ih => exact ih inside

/-- A last token that takes the line to its end stops at the end, not behind it. -/
theorem Tried.stop_eq {line : List Char} {usable : Clause m κ ε → Bool} {nodes : List (Node m κ ε)}
    {path : Path m κ ε} (tried : Tried line usable nodes 0 path)
    (ends : path.endsLine line = true) (keeps : path.last.node.clause.pattern.KeepsLine) :
    ∃ parsed, path.last.outcome = .ok (byteLength line, parsed) := by
  obtain ⟨stop, parsed, matched, last⟩ := Attempt.endsLine_eq_true_iff.mp ends
  have before : stop ≤ byteLength line :=
    Pattern.stop_le keeps (tried.start_le (Nat.zero_le _)) (tried.outcome_last ▸ matched)
  exact ⟨parsed, by rw [matched, Nat.le_antisymm before last]⟩

/-! ## Tokens start between two characters -/

/-- The offset lies between two characters of the line, or at one of its ends. -/
def OnBoundary (line : List Char) (offset : Nat) : Prop :=
  ∃ before after, line = before ++ after ∧ byteLength before = offset

/-- The text behind a boundary. -/
theorem Text.dropBytes?_append (before after : List Char) :
    dropBytes? (before ++ after) (byteLength before) = some after := by
  induction before with
  | nil =>
    rw [List.nil_append, byteLength_nil]
    cases after with
    | nil => rfl
    | cons c rest => rfl
  | cons c rest ih =>
    obtain ⟨width, size⟩ := Nat.exists_eq_succ_of_ne_zero (Nat.ne_of_gt c.utf8Size_pos)
    have offset : byteLength (c :: rest) = width + byteLength rest + 1 := by
      rw [byteLength_cons, size]
      omega
    rw [List.cons_append, offset, dropBytes?, if_pos (by omega),
      show width + byteLength rest + 1 - c.utf8Size = byteLength rest by omega, ih]

/-- A token that starts on a boundary ends on one, and a space or the end of the line follows. -/
theorem Pattern.boundary_of_consume {pattern : Pattern} {line : List Char} {start stop : Nat}
    {parsed : Option Binding} (keeps : pattern.KeepsLine) (starts : OnBoundary line start)
    (takes : pattern.consume line start = .ok (stop, parsed)) :
    ∃ before after, line = before ++ after ∧ byteLength before = stop ∧ atBoundary after = true := by
  cases pattern with
  | literal name =>
    obtain ⟨before, text, rfl, rfl⟩ := starts
    rw [Pattern.consume, dropBytes?_append, Option.getD_some] at takes
    split at takes
    next after found =>
      split at takes
      next ends =>
        cases takes
        refine ⟨before ++ name.toList, after, ?_, byteLength_append _ _, ends⟩
        rw [dropStart?_eq_some_iff.mp found, List.append_assoc]
      next => cases takes
    next => cases takes
  | argument name form => exact Pattern.boundary_of_argument keeps takes

/-- The offset lies directly behind a space of the line. -/
def BehindSpace (line : List Char) (offset : Nat) : Prop :=
  ∃ before after, line = before ++ ' ' :: after ∧ byteLength before + 1 = offset

/-- Behind a token that ends before the line does, the next one starts behind a space. -/
theorem Pattern.behindSpace_next {pattern : Pattern} {line : List Char} {start stop : Nat}
    {parsed : Option Binding} (keeps : pattern.KeepsLine) (starts : OnBoundary line start)
    (takes : pattern.consume line start = .ok (stop, parsed)) (inside : stop < byteLength line) :
    BehindSpace line (stop + 1) := by
  obtain ⟨before, after, rfl, rfl, ends⟩ := Pattern.boundary_of_consume keeps starts takes
  cases after with
  | nil =>
    rw [List.append_nil] at inside
    exact absurd inside (Nat.lt_irrefl _)
  | cons c rest =>
    obtain rfl : c = ' ' := of_decide_eq_true ends
    exact ⟨before, rest, rfl, rfl⟩

/-- Behind a space there is a boundary. -/
theorem BehindSpace.onBoundary {line : List Char} {offset : Nat} (behind : BehindSpace line offset) :
    OnBoundary line offset := by
  obtain ⟨before, after, rfl, rfl⟩ := behind
  refine ⟨before ++ [' '], after, by rw [List.append_assoc]; rfl, ?_⟩
  rw [byteLength_append]
  rfl

/-- The tokens of a path start on boundaries, when the patterns of the forest keep the line. -/
theorem Tried.onBoundary {line : List Char} {usable : Clause m κ ε → Bool} {nodes : List (Node m κ ε)}
    {start : Nat} {path : Path m κ ε} (tried : Tried line usable nodes start path)
    (keeps : ∀ clause ∈ Node.allClauses nodes, clause.pattern.KeepsLine)
    (starts : OnBoundary line start) : OnBoundary line path.last.start := by
  induction tried with
  | here _ _ => exact starts
  | deeper at_ _ takes inside _ ih =>
    have member := List.mem_of_getElem? at_
    have next := Pattern.behindSpace_next (keeps _ (Node.clause_mem_allClauses member)) starts takes
      inside
    exact ih (fun clause below => keeps clause (Node.allClauses_children_subset member below))
      next.onBoundary

end CommandGrammar
