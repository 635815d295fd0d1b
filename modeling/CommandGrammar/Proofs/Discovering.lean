import CommandGrammar.Proofs.Placing

/-!
# A command that can be run can be discovered

Somebody who types a line from left to right comes past every token of it with nothing typed yet in its
place. Completing the line there asks, among others, the very node that the whole line is matched by from
there on, about the arguments that come before it: no node of a command that can be run stays hidden from
a person who is being shown what can be typed next.

The beginning of a path is a path (`Tried.upTo`), and a token that is not the last one is read the same
when the line ends right behind the space after it (`Tried.retold`). So the cut line has the beginning of
the path, and its last node, which finds nothing to read, is asked (`isAsked_of_end`): it does not
match a text without a space, or it is an empty word and matches.
-/

set_option autoImplicit false

namespace CommandGrammar

open Text

variable {m : Type → Type} {κ ε : Type}

/-- At its end nothing is left of a line. -/
theorem Text.dropBytes?_end (line : List Char) : dropBytes? line (byteLength line) = some [] := by
  simpa using dropBytes?_append line []

/-- The path that ends where another one has a number of its attempts behind it. -/
def Path.upTo (path : Path m κ ε) (above : List (Attempt m κ ε)) (attempt : Attempt m κ ε) :
    Path m κ ε :=
  ⟨path.address.take (above.length + 1), above, attempt⟩

/-- The beginning of a path is a path. -/
theorem Tried.upTo {line : List Char} {usable : Clause m κ ε → Bool} {nodes : List (Node m κ ε)}
    {start : Nat} {path : Path m κ ε} (tried : Tried line usable nodes start path)
    {above below : List (Attempt m κ ε)} {attempt : Attempt m κ ε}
    (split_ : path.attempts = above ++ attempt :: below) :
    Tried line usable nodes start (path.upTo above attempt) := by
  induction tried generalizing above with
  | here at_ use =>
    cases above with
    | nil =>
      obtain rfl := (List.cons.inj split_).1
      exact .here at_ use
    | cons first rest => cases (List.append_eq_nil_iff.mp (List.cons.inj split_).2.symm).2
  | deeper at_ use takes inside _ ih =>
    cases above with
    | nil =>
      obtain rfl := (List.cons.inj split_).1
      exact .here at_ use
    | cons first rest =>
      obtain ⟨rfl, behind⟩ := List.cons.inj split_
      exact .deeper at_ use takes inside (ih behind)

/-- Where the line ends, a node that is tried could take the last token. -/
theorem isAsked_of_end {line : List Char} {path : Path m κ ε} {node : Node m κ ε}
    (advances : node.clause.pattern.Advances) (last : path.last = .make line node (byteLength line)) :
    path.isAsked line = true := by
  have ends : OnBoundary line (byteLength line) := ⟨line, [], (List.append_nil line).symm, rfl⟩
  rw [Path.isAsked_iff, last]
  cases outcome : node.clause.pattern.consume line (byteLength line) with
  | ok token =>
    obtain ⟨stop, parsed⟩ := token
    exact .inl ⟨stop, parsed, outcome, Pattern.start_le_of_consume advances ends outcome⟩
  | error reason =>
    refine .inr ⟨⟨reason, outcome⟩, ?_⟩
    show ' ' ∉ (dropBytes? line (byteLength line)).getD []
    rw [Text.dropBytes?_end]
    exact List.not_mem_nil

namespace Grammar

variable [Monad m] [LawfulMonad m] {grammar : Grammar m κ ε} {sender : Sender m κ}
  {usable : Clause m κ ε → Bool}

/-- Completing a text asks a node at its end, about the arguments of the attempts that lead to the node.
-/
structure AsksNext (grammar : Grammar m κ ε) (typed : List Char) (sender : Sender m κ)
    (usable : Clause m κ ε → Bool) (asked : List (Path m κ ε)) (address : List Nat)
    (above : List (Attempt m κ ε)) (node : Node m κ ε) : Prop where
  asks : Asks grammar (String.ofList typed) sender usable asked
  node? : grammar.node? address = some node
  next : ∃ path ∈ asked, path.address = address ∧ path.above = above ∧ path.last.node = node ∧
    (path.query typed sender []).start = byteLength typed ∧
    (path.query typed sender []).remaining = "" ∧
    ∀ name, (path.query typed sender []).invocation.arguments.lookup name =
      Attempt.deepest? above name

/-- What a line selects, and that every node on the way there is asked for completions when the line is
cut where its token starts. -/
structure DiscoversSelected (grammar : Grammar m κ ε) (input : String) (sender : Sender m κ)
    (usable : Clause m κ ε → Bool) (selection : Search m κ ε) : Prop where
  selects : grammar.select input.toList sender = pure selection
  discovers : ∀ node arguments, selection = .found node arguments →
    ∃ path, IsFirst (FullPath input.toList usable grammar.roots) path ∧ path.last.node = node ∧
      (∀ name, arguments.lookup name = Attempt.deepest? path.attempts.tail name) ∧
      ∀ above attempt below, path.attempts = above ++ attempt :: below →
        ∃ typed rest asked, input.toList = typed ++ rest ∧ byteLength typed = attempt.start ∧
          grammar.AsksNext typed sender usable asked (path.address.take (above.length + 1)) above
            attempt.node

/-- Cutting a line where a token of one of its paths starts asks the node of that token. -/
theorem asksNext_of_tried (decided : Decided sender usable grammar.roots)
    (native : ∀ clause ∈ Node.allClauses grammar.roots, clause.pattern.isNative = true)
    {line : List Char} {path : Path m κ ε} (tried : Tried line usable grammar.roots 0 path) :
    ∃ typed rest asked, line = typed ++ rest ∧ byteLength typed = path.last.start ∧
      grammar.AsksNext typed sender usable asked path.address path.above path.last.node := by
  have whole : Tried ([] ++ line) usable grammar.roots (byteLength []) path := tried
  obtain ⟨typed, rest, line_, starts, retold⟩ := whole.retold native
  obtain ⟨cut, again, address, above, last⟩ := retold []
  rw [List.nil_append, List.append_nil] at again last
  rw [List.nil_append] at starts
  rw [starts] at last
  have advances := Pattern.advances_of_isNative (native _ again.clause_mem)
  have node_ : cut.last.node = path.last.node := by
    rw [last]
    rfl
  rw [node_] at advances
  have isAsked : cut.isAsked typed = true := isAsked_of_end advances last
  have toList : (String.ofList typed).toList = typed := String.toList_ofList
  have asks : Asks grammar (String.ofList typed) sender usable _ := asks_tries decided
  rw [toList] at asks
  refine ⟨typed, rest, _, line_, starts.symm, asks, tried.node?_eq, cut,
    List.mem_filter.mpr ⟨mem_tries.mpr again, isAsked⟩, address, above, node_, ?_, ?_, fun name => ?_⟩
  · show cut.last.start = byteLength typed
    rw [last]
    rfl
  · show String.ofList ((dropBytes? typed cut.last.start).getD []) = ""
    rw [last]
    show String.ofList ((dropBytes? typed (byteLength typed)).getD []) = ""
    rw [Text.dropBytes?_end]
    rfl
  · show (Attempt.bindAll cut.above []).lookup name = _
    rw [Attempt.lookup_bindAll, above]
    exact Option.or_none

/-- Whatever a line selects can be found by completing it word after word: with nothing typed in the place
of a token, the node that takes the token is asked, about the arguments before it. -/
theorem selected_nodes_are_asked (decided : Decided sender usable grammar.roots)
    (native : ∀ clause ∈ Node.allClauses grammar.roots, clause.pattern.isNative = true)
    (input : String) :
    ∃ selection, grammar.DiscoversSelected input sender usable selection := by
  refine ⟨_, select_eq_ofTries decided, fun node arguments found => ?_⟩
  obtain ⟨path, first, rfl, rfl⟩ := Search.isFirst_of_ofTries found
  refine ⟨path, first, rfl, fun name => ?_, fun above attempt below split_ => ?_⟩
  · rw [Attempt.lookup_bindAll]
    exact Option.or_none
  · exact asksNext_of_tried decided native (first.has.tried.upTo split_)

/-- A guest's line runs the chain of a note that takes the rest of it, and so the note is asked for when
nothing of it is typed. -/
theorem selected_nodes_are_asked_note :
    Decided Sample.guest Sample.usable Sample.grammar.roots ∧
      (∀ clause ∈ Node.allClauses Sample.grammar.roots, clause.pattern.isNative = true) ∧
      (∃ selection,
        Sample.grammar.DiscoversSelected "give ann 5x" Sample.guest Sample.usable selection) ∧
      ((Sample.grammar.execute "give ann 5x" Sample.guest).run []).2 = ["note"] :=
  ⟨Sample.decided, Sample.native, selected_nodes_are_asked Sample.decided Sample.native _, rfl⟩

end Grammar

end CommandGrammar
