import CommandGrammar.Proofs.Accepting

/-!
# A line behind another text

When a text is put before a line, everything that was tried on the line is tried again, as far behind as
the text is long, and comes to the same: `tries_moved`. This takes forms that look at nothing but the text
from the reader on (`Form.Local`), and the forms of the library are such. Everything else goes by what is
left of the line at an offset (`Text.dropBytes?_moved`, `Text.splitAtByte_moved`), and that is the same at
the offset behind the text.
-/

set_option autoImplicit false

namespace CommandGrammar

open Text

variable {m : Type → Type} {κ ε : Type}

/-! ## Texts -/

/-- What is left of a line at an offset is left of it behind another text. -/
theorem Text.dropBytes?_moved (before line : List Char) (offset : Nat) :
    dropBytes? (before ++ line) (byteLength before + offset) = dropBytes? line offset := by
  induction before with
  | nil => rw [List.nil_append, byteLength_nil, Nat.zero_add]
  | cons c rest ih =>
    obtain ⟨width, size⟩ := Nat.exists_eq_succ_of_ne_zero (Nat.ne_of_gt c.utf8Size_pos)
    have whole : byteLength (c :: rest) + offset = width + byteLength rest + offset + 1 := by
      rw [byteLength_cons, size]
      omega
    rw [List.cons_append, whole, dropBytes?, if_pos (by omega),
      show width + byteLength rest + offset + 1 - c.utf8Size = byteLength rest + offset by omega, ih]

/-- A line is cut behind another text where it is cut by itself. -/
theorem Text.splitAtByte_moved (before line : List Char) (offset : Nat) :
    splitAtByte (byteLength before + offset) (before ++ line) =
      (before ++ (splitAtByte offset line).1, (splitAtByte offset line).2) := by
  induction before with
  | nil => rw [List.nil_append, byteLength_nil, Nat.zero_add, List.nil_append]
  | cons c rest ih =>
    have fits : c.utf8Size ≤ byteLength (c :: rest) + offset := by
      rw [byteLength_cons]
      omega
    have left : byteLength (c :: rest) + offset - c.utf8Size = byteLength rest + offset := by
      rw [byteLength_cons]
      omega
    rw [List.cons_append, splitAtByte, if_pos fits, left, ih]
    rfl

/-! ## Forms that look at the text from the reader on -/

/-- What reading comes to, that it fails, or the value, the text that is taken and the text that is left,
depends on nothing but the text from the reader on. -/
def Form.Local (form : Form) : Prop :=
  ∀ rest,
    (∃ reason, ∀ passed, (form.read ⟨passed, rest⟩).1 = .error reason) ∨
      ∃ value taken left, ∀ passed, form.read ⟨passed, rest⟩ = (.ok value, ⟨passed ++ taken, left⟩)

/-- The forms of the library look at the text from the reader on. -/
theorem Form.local_of_isNative {form : Form} (native : form.isNative = true) : form.Local := by
  intro rest
  obtain ⟨accepts, verdict, judges⟩ := form.exists_judge_of_isNative native
  rw [judges]
  cases outcome : verdict (rest.takeWhile accepts) with
  | error reason =>
    refine .inl ⟨reason, fun passed => ?_⟩
    unfold Reader.judge
    dsimp only [Reader.takeRun]
    rw [outcome]
  | ok value =>
    refine .inr ⟨value, rest.takeWhile accepts, rest.dropWhile accepts, fun passed => ?_⟩
    unfold Reader.judge
    dsimp only [Reader.takeRun]
    rw [outcome]

/-- The pattern is a fixed word, or its form looks at the text from the reader on. -/
def Pattern.Local : Pattern → Prop
  | .literal _ => True
  | .argument _ form => form.Local

theorem Pattern.local_of_isNative {pattern : Pattern} (native : pattern.isNative = true) :
    pattern.Local := by
  cases pattern with
  | literal name => trivial
  | argument name form => exact form.local_of_isNative native

/-! ## What is tried -/

/-- An argument that many bytes further on. -/
def Binding.moved (distance : Nat) (binding : Binding) : Binding :=
  { binding with start := distance + binding.start, stop := distance + binding.stop }

/-- A failure that many bytes further on. -/
def Failure.moved (distance : Nat) (failure : Failure) : Failure :=
  { failure with position := distance + failure.position }

/-- What matching gives, that many bytes further on. -/
def Attempt.outcomeMoved (distance : Nat) (outcome : Except ParseError (Nat × Option Binding)) :
    Except ParseError (Nat × Option Binding) :=
  outcome.map fun token => (distance + token.1, token.2.map (Binding.moved distance))

/-- An attempt that many bytes further on. -/
def Attempt.moved (distance : Nat) (attempt : Attempt m κ ε) : Attempt m κ ε :=
  { attempt with
    start := distance + attempt.start
    outcome := outcomeMoved distance attempt.outcome }

/-- A path that many bytes further on. -/
def Path.moved (distance : Nat) (path : Path m κ ε) : Path m κ ε :=
  { path with
    above := path.above.map (Attempt.moved distance)
    last := path.last.moved distance }

/-- An argument that cannot be read is not matched. -/
theorem Pattern.consume_of_fails {name : String} {form : Form} {line : List Char} {start : Nat}
    {reason : ParseError} (fails : (form.read (Reader.atOffset line start)).1 = .error reason) :
    (Pattern.argument name form).consume line start = .error reason := by
  rw [consume]
  generalize form.read (Reader.atOffset line start) = step at fails
  obtain ⟨outcome, after⟩ := step
  cases fails
  rfl

/-- An argument that is read is matched if it takes something and ends well. -/
theorem Pattern.consume_of_reads {name : String} {form : Form} {line : List Char} {start : Nat}
    {value : Raw} {after : Reader} (reads : form.read (Reader.atOffset line start) = (.ok value, after)) :
    (Pattern.argument name form).consume line start =
      if after.cursor = start then .error .expectedValue
      else if atBoundary after.rest then .ok (after.cursor, some ⟨start, after.cursor, value⟩)
      else .error .expectedSeparator := by
  rw [consume, reads]

/-- A token is matched behind another text as it is by itself. -/
theorem Pattern.consume_moved {pattern : Pattern} (local_ : pattern.Local) (before line : List Char)
    (start : Nat) :
    pattern.consume (before ++ line) (byteLength before + start) =
      Attempt.outcomeMoved (byteLength before) (pattern.consume line start) := by
  cases pattern with
  | literal name =>
    rw [consume, consume, dropBytes?_moved]
    cases dropStart? name.toList ((dropBytes? line start).getD []) with
    | none => rfl
    | some after =>
      dsimp only
      split
      · rw [Nat.add_assoc]
        rfl
      · rfl
  | argument name form =>
    have reader : Reader.atOffset (before ++ line) (byteLength before + start) =
        ⟨before ++ (splitAtByte start line).1, (splitAtByte start line).2⟩ := by
      rw [Reader.atOffset, splitAtByte_moved]
    rcases local_ (splitAtByte start line).2 with ⟨reason, fails⟩ | ⟨value, taken, left, reads⟩
    · rw [consume_of_fails (fails (splitAtByte start line).1),
        consume_of_fails (by rw [reader]; exact fails _)]
      rfl
    · rw [consume_of_reads (reads (splitAtByte start line).1),
        consume_of_reads (by rw [reader]; exact reads _)]
      -- The reader has come as far on both lines, the text in front of them aside.
      have cursor : Reader.cursor ⟨before ++ (splitAtByte start line).1 ++ taken, left⟩ =
          byteLength before + Reader.cursor ⟨(splitAtByte start line).1 ++ taken, left⟩ := by
        rw [Reader.cursor, Reader.cursor, List.append_assoc, byteLength_append]
      rw [cursor]
      by_cases none_ : Reader.cursor ⟨(splitAtByte start line).1 ++ taken, left⟩ = start
      · rw [if_pos none_, if_pos (congrArg _ none_)]
        rfl
      · rw [if_neg none_, if_neg fun same => none_ (Nat.add_left_cancel same)]
        by_cases ends : atBoundary left = true
        · rw [if_pos ends, if_pos ends]
          rfl
        · rw [if_neg ends, if_neg ends]
          rfl

/-! ## The paths of a line behind another text -/

section Moved

variable {before line : List Char} {usable : Clause m κ ε → Bool}

/-- A node is tried behind another text as it is by itself. -/
theorem Attempt.make_moved {node : Node m κ ε} (local_ : node.clause.pattern.Local)
    (before line : List Char) (start : Nat) :
    make (before ++ line) node (byteLength before + start) =
      (make line node start).moved (byteLength before) := by
  rw [make, Pattern.consume_moved local_]
  rfl

/-- An attempt ends the line behind another text when it ends the line by itself. -/
theorem Attempt.endsLine_moved (before line : List Char) (attempt : Attempt m κ ε) :
    (attempt.moved (byteLength before)).endsLine (before ++ line) = attempt.endsLine line := by
  obtain ⟨node, start, outcome⟩ := attempt
  cases outcome with
  | error reason => rfl
  | ok token =>
    show decide (byteLength (before ++ line) ≤ byteLength before + token.1) = _
    rw [byteLength_append]
    exact decide_eq_decide.mpr (Nat.add_le_add_iff_left)

/-- The children's tokens start as far behind the text as they do by themselves. -/
theorem Attempt.next?_moved (before line : List Char) (attempt : Attempt m κ ε) :
    (attempt.moved (byteLength before)).next? (before ++ line) =
      (attempt.next? line).map (byteLength before + ·) := by
  obtain ⟨node, start, outcome⟩ := attempt
  cases outcome with
  | error reason => rfl
  | ok token =>
    show (if byteLength before + token.1 < byteLength (before ++ line) then
      some (byteLength before + token.1 + 1) else none) =
        (if token.1 < byteLength line then some (token.1 + 1) else none).map _
    rw [byteLength_append]
    by_cases inside : token.1 < byteLength line
    · rw [if_pos inside, if_pos (Nat.add_lt_add_left inside _)]
      rfl
    · rw [if_neg inside, if_neg fun less => inside (Nat.lt_of_add_lt_add_left less)]
      rfl

mutual

/-- The tries through a node behind another text are those of the line by itself. -/
theorem triesThrough_moved : ∀ (node : Node m κ ε) (start : Nat),
    (∀ clause ∈ node.clauses, clause.pattern.Local) →
    triesThrough (before ++ line) usable node (byteLength before + start) =
      (triesThrough line usable node start).map (Path.moved (byteLength before))
  | .mk clause children, start, local_ => by
    rw [Node.clauses] at local_
    have own : (Node.mk clause children).clause.pattern.Local := local_ clause List.mem_cons_self
    have below := fun next => tries_moved children next fun other member =>
      local_ other (List.mem_cons_of_mem _ member)
    have here := Attempt.make_moved own before line start
    have leads := Attempt.next?_moved before line (Attempt.make line (.mk clause children) start)
    rw [← here] at leads
    cases use : usable clause with
    | false => rw [triesThrough_of_unusable use, triesThrough_of_unusable use, List.map_nil]
    | true =>
      cases next_ : (Attempt.make line (.mk clause children) start).next? line with
      | none =>
        rw [next_] at leads
        rw [triesThrough_of_last use leads, triesThrough_of_last use next_, here]
        rfl
      | some next =>
        rw [next_] at leads
        rw [triesThrough_of_inside use leads, triesThrough_of_inside use next_, here,
          show Node.children (.mk clause children) = children from rfl, below, List.map_map,
          List.map_cons, List.map_map]
        rfl

/-- The tries of a line behind another text are those of the line by itself. -/
theorem tries_moved : ∀ (nodes : List (Node m κ ε)) (start : Nat),
    (∀ clause ∈ Node.allClauses nodes, clause.pattern.Local) →
    tries (before ++ line) usable nodes (byteLength before + start) =
      (tries line usable nodes start).map (Path.moved (byteLength before))
  | [], _, _ => rfl
  | node :: rest, start, local_ => by
    rw [Node.allClauses] at local_
    rw [tries, tries, List.map_append, List.map_map,
      triesThrough_moved node start fun clause member => local_ clause (List.mem_append_left _ member),
      tries_moved rest start fun clause member => local_ clause (List.mem_append_right _ member),
      List.map_map]
    rfl

end

/-! ## What is read off them -/

theorem Path.endsLine_moved (before line : List Char) (path : Path m κ ε) :
    (path.moved (byteLength before)).endsLine (before ++ line) = path.endsLine line :=
  path.last.endsLine_moved before line

/-- The same text is left for the last node of a path. -/
theorem Path.remaining_moved (before line : List Char) (path : Path m κ ε) :
    Offers.remaining (before ++ line) (path.moved (byteLength before)).last.start =
      Offers.remaining line path.last.start :=
  congrArg (Option.getD · []) (dropBytes?_moved before line path.last.start)

/-- A path is asked behind another text when it is asked by itself. -/
theorem Path.isAsked_moved (before line : List Char) (path : Path m κ ε) :
    (path.moved (byteLength before)).isAsked (before ++ line) = path.isAsked line := by
  have remaining := path.remaining_moved before line
  obtain ⟨address, above, node, start, outcome⟩ := path
  cases outcome with
  | error reason => exact congrArg (fun text : List Char => !text.contains ' ') remaining
  | ok token => exact Attempt.endsLine_moved before line ⟨node, start, .ok token⟩

theorem Attempt.failure?_moved (distance : Nat) (attempt : Attempt m κ ε) :
    (attempt.moved distance).failure? = attempt.failure?.map (Failure.moved distance) := by
  obtain ⟨node, start, outcome⟩ := attempt
  cases outcome <;> rfl

theorem Attempt.parsed_moved (distance : Nat) (attempt : Attempt m κ ε) :
    (attempt.moved distance).parsed = attempt.parsed.map (Binding.moved distance) := by
  obtain ⟨node, start, outcome⟩ := attempt
  cases outcome <;> rfl

/-- The values that attempts bind are bound as far behind the text. -/
theorem Attempt.deepest?_moved (distance : Nat) (attempts : List (Attempt m κ ε)) (name : String) :
    deepest? (attempts.map (moved distance)) name =
      (deepest? attempts name).map (Binding.moved distance) := by
  induction attempts with
  | nil => rfl
  | cons first rest ih =>
    rw [List.map_cons, deepest?_cons, deepest?_cons, ih, parsed_moved, Option.map_or]
    congr 1
    by_cases same : first.node.name = name
    · rw [if_pos same, if_pos (show (first.moved distance).node.name = name from same)]
    · rw [if_neg same, if_neg (show ¬ (first.moved distance).node.name = name from same)]
      rfl

/-- The deepest failure lies as far behind the text. -/
theorem Failure.foldl_deeper_moved (distance : Nat) (failures : List Failure)
    (deepest : Option Failure) :
    (failures.map (moved distance)).foldl deeper (deepest.map (moved distance)) =
      (failures.foldl deeper deepest).map (moved distance) := by
  induction failures generalizing deepest with
  | nil => rfl
  | cons failure rest ih =>
    rw [List.map_cons, List.foldl_cons, List.foldl_cons, ← ih]
    congr 1
    cases deepest with
    | none => rfl
    | some earlier =>
      show (if distance + earlier.position < distance + failure.position then _ else _) = _
      rw [deeper]
      by_cases deep : earlier.position < failure.position
      · rw [if_pos deep, if_pos (Nat.add_lt_add_left deep _)]
        rfl
      · rw [if_neg deep, if_neg fun less => deep (Nat.lt_of_add_lt_add_left less)]
        rfl

end Moved

end CommandGrammar
