import CommandGrammar.Proofs.Arguments
import CommandGrammar.Proofs.Usable

/-!
# A search follows the list of tries

The search below a root works on one trail: it binds what a token holds, notes what fails, and takes
bindings back where a branch ends in nothing. `Trail.follow` does the same to a plain list of tried
paths, without any of that: it goes through the list up to the first path that takes the line to its
end, keeps the failures it has passed, and binds the arguments of that one path.

The two agree (`below_eq_follow`, `among_eq_follow`) by induction on the forest. What carries the
induction is that a branch that ends in nothing gives the arguments back as it was given them
(`Trail.unbind_of_missed`), so that the siblings behind it start from the arguments above it.
-/

set_option autoImplicit false

namespace CommandGrammar

open Text

variable {m : Type → Type} {κ ε : Type}

namespace Trail

/-- Notes the failure of an attempt that does not match. -/
def note (trail : Trail) (attempt : Attempt m κ ε) : Trail :=
  match attempt.failure? with
  | some failure => trail.fail failure
  | none => trail

/-- Goes through tried paths up to the first that takes the line to its end, noting the failures on
the way. Only that path binds arguments. -/
def follow (line : List Char) (trail : Trail) :
    List (Path m κ ε) → Option (Node m κ ε) × Trail
  | [] => (none, trail)
  | path :: rest =>
    if path.endsLine line then
      (some path.last.node,
        { trail with arguments := Attempt.bindAll path.attempts trail.arguments })
    else (trail.note path.last).follow line rest

variable {line : List Char}

/-- A path that takes the line to its end is where following stops. -/
theorem follow_cons_of_ends {path : Path m κ ε} (ends : path.endsLine line = true)
    (trail : Trail) (rest : List (Path m κ ε)) :
    trail.follow line (path :: rest) =
      (some path.last.node,
        { trail with arguments := Attempt.bindAll path.attempts trail.arguments }) := by
  rw [follow, if_pos ends]

/-- Any other path leaves at most its failure. -/
theorem follow_cons_of_not_ends {path : Path m κ ε} (goes : ¬ path.endsLine line = true)
    (trail : Trail) (rest : List (Path m κ ε)) :
    trail.follow line (path :: rest) = (trail.note path.last).follow line rest := by
  rw [follow, if_neg goes]

/-- Where the paths stand among their siblings does not matter. -/
theorem follow_map_later (trail : Trail) (paths : List (Path m κ ε)) :
    trail.follow line (paths.map .later) = trail.follow line paths := by
  induction paths generalizing trail with
  | nil => rfl
  | cons path rest ih =>
    simp only [List.map_cons, follow, ih, Path.endsLine_later, Path.last_later, Path.attempts_later]

/-- Noting a failure and binding a token are independent of each other. -/
theorem note_bind (trail : Trail) (attempt : Attempt m κ ε) (pattern : Pattern)
    (parsed : Option Binding) :
    (trail.note attempt).bind pattern parsed = (trail.bind pattern parsed).note attempt := by
  unfold note
  split <;> rfl

/-- A failure binds nothing. -/
theorem note_arguments (trail : Trail) (attempt : Attempt m κ ε) :
    (trail.note attempt).arguments = trail.arguments := by
  unfold note
  split <;> rfl

/-- Following the paths of a node's children, seen from its siblings, is following them with the
node's value bound. When none of them is taken, what follows starts from the arguments above. -/
theorem follow_map_under (trail : Trail) (attempt : Attempt m κ ε)
    (paths others : List (Path m κ ε)) :
    trail.follow line (paths.map (.under 0 attempt) ++ others) =
      match (trail.bind attempt.node.clause.pattern attempt.parsed).follow line paths with
      | (some node, inner) => (some node, inner)
      | (none, inner) => { inner with arguments := trail.arguments }.follow line others := by
  induction paths generalizing trail with
  | nil => rfl
  | cons path rest ih =>
    rw [List.map_cons, List.cons_append]
    by_cases ends : path.endsLine line = true
    · rw [follow_cons_of_ends ends, follow_cons_of_ends (by exact ends)]
      rfl
    · rw [follow_cons_of_not_ends ends, follow_cons_of_not_ends (by exact ends), Path.last_under,
        ih, note_bind, note_arguments]

/-- When no path is taken, the arguments are what they were. -/
theorem follow_arguments_of_none {trail : Trail} {paths : List (Path m κ ε)}
    (missed : (trail.follow line paths).1 = none) :
    (trail.follow line paths).2.arguments = trail.arguments := by
  induction paths generalizing trail with
  | nil => rfl
  | cons path rest ih =>
    by_cases ends : path.endsLine line = true
    · rw [follow_cons_of_ends ends] at missed
      cases missed
    · rw [follow_cons_of_not_ends ends] at missed ⊢
      rw [ih missed, note_arguments]

/-- A node whose branch ends in nothing takes its binding back. -/
theorem unbind_of_missed {trail inner : Trail} {pattern : Pattern} {parsed : Option Binding}
    {paths : List (Path m κ ε)}
    (missed : (trail.bind pattern parsed).follow line paths = (none, inner)) :
    inner.unbind pattern parsed (trail.arguments.lookup pattern.name) =
      { inner with arguments := trail.arguments } := by
  have same : ((trail.bind pattern parsed).follow line paths).2.arguments =
      (trail.bind pattern parsed).arguments := follow_arguments_of_none (by rw [missed])
  rw [missed] at same
  have bound : inner.arguments = pattern.bind parsed trail.arguments := same
  rw [unbind, bound, Pattern.unbind_bind]

/-! ## Following the tries through one node -/

section Through

variable {usable : Clause m κ ε → Bool} {node : Node m κ ε} {start stop : Nat}
  {parsed : Option Binding} {reason : ParseError} {trail : Trail} {others : List (Path m κ ε)}

/-- A node that does not match leaves its failure. -/
theorem follow_through_of_error (use : usable node.clause = true)
    (outcome : node.clause.pattern.consume line start = .error reason) :
    trail.follow line (triesThrough line usable node start ++ others) =
      (trail.fail ⟨start, reason⟩).follow line others := by
  rw [triesThrough_of_last use (by rw [Attempt.make_of_error outcome]; rfl),
    Attempt.make_of_error outcome, List.cons_append, follow_cons_of_not_ends Path.not_endsLine_single]
  rfl

/-- A node that takes the line to its end is where following stops. -/
theorem follow_through_of_last (use : usable node.clause = true)
    (outcome : node.clause.pattern.consume line start = .ok (stop, parsed))
    (last : byteLength line ≤ stop) :
    trail.follow line (triesThrough line usable node start ++ others) =
      (some node, trail.bind node.clause.pattern parsed) := by
  rw [triesThrough_of_last use (by rw [Attempt.make_of_ok outcome, Attempt.next?_of_le last]),
    Attempt.make_of_ok outcome, List.cons_append,
    follow_cons_of_ends (Path.endsLine_single_iff.mpr last)]
  rfl

/-- A node that matches a part of the line binds its value for the paths below it. When none of them
is taken, what follows starts from the arguments above the node. -/
theorem follow_through_of_inside (use : usable node.clause = true)
    (outcome : node.clause.pattern.consume line start = .ok (stop, parsed))
    (inside : stop < byteLength line) :
    trail.follow line (triesThrough line usable node start ++ others) =
      match (trail.bind node.clause.pattern parsed).follow line
        (tries line usable node.children (stop + 1)) with
      | (some last, inner) => (some last, inner)
      | (none, inner) => { inner with arguments := trail.arguments }.follow line others := by
  rw [triesThrough_of_inside use (by rw [Attempt.make_of_ok outcome, Attempt.next?_of_lt inside]),
    Attempt.make_of_ok outcome, List.cons_append,
    follow_cons_of_not_ends (mt Path.endsLine_single_iff.mp (Nat.not_le.mpr inside)),
    follow_map_under]
  rfl

end Through

end Trail

/-! ## One step of a search -/

namespace Search

variable [Monad m] {line : List Char} {sender : Sender m κ} {node : Node m κ ε}
  {rest : List (Node m κ ε)} {start : Nat} {trail : Trail}

/-- What a search does at a node, said of the node and not of its parts. -/
theorem among_cons :
    among line sender (node :: rest) start trail = (do
      if ← node.clause.allows sender then
        match node.clause.pattern.consume line start with
        | .ok (stop, parsed) =>
          match ← below line sender node stop (trail.bind node.clause.pattern parsed) with
          | (some last, inner) => pure (some last, inner)
          | (none, inner) =>
            among line sender rest start
              (inner.unbind node.clause.pattern parsed
                (trail.arguments.lookup node.clause.pattern.name))
        | .error reason => among line sender rest start (trail.fail ⟨start, reason⟩)
      else among line sender rest start trail) := by
  obtain ⟨clause, children⟩ := node
  rw [among]
  rfl

variable [LawfulMonad m]

/-- A node that may not be used is passed over. -/
theorem among_cons_of_hidden (answer : node.clause.allows sender = pure false) :
    among line sender (node :: rest) start trail = among line sender rest start trail := by
  rw [among_cons, answer, pure_bind]
  rfl

/-- A node that does not match leaves its failure. -/
theorem among_cons_of_error {reason : ParseError} (answer : node.clause.allows sender = pure true)
    (fails : node.clause.pattern.consume line start = .error reason) :
    among line sender (node :: rest) start trail =
      among line sender rest start (trail.fail ⟨start, reason⟩) := by
  rw [among_cons, answer, pure_bind, fails]
  rfl

/-- A node that matches binds its value and is searched below; when that ends in nothing, the search
goes on behind it. -/
theorem among_cons_of_ok {stop : Nat} {parsed : Option Binding}
    (answer : node.clause.allows sender = pure true)
    (takes : node.clause.pattern.consume line start = .ok (stop, parsed)) :
    among line sender (node :: rest) start trail = (do
      match ← below line sender node stop (trail.bind node.clause.pattern parsed) with
      | (some last, inner) => pure (some last, inner)
      | (none, inner) =>
        among line sender rest start
          (inner.unbind node.clause.pattern parsed
            (trail.arguments.lookup node.clause.pattern.name))) := by
  rw [among_cons, answer, pure_bind, takes]
  rfl

end Search

/-! ## The whole search -/

variable [Monad m] {line : List Char} {usable : Clause m κ ε → Bool} {sender : Sender m κ}

mutual

/-- Below a node that ends before the line does, the search follows the tries of its children. -/
theorem below_eq_follow [LawfulMonad m] : ∀ (node : Node m κ ε) (stop : Nat) (trail : Trail),
    Decided sender usable node.children →
    Search.below line sender node stop trail =
      pure (if byteLength line ≤ stop then (some node, trail)
        else trail.follow line (tries line usable node.children (stop + 1)))
  | .mk clause children, stop, trail, decided => by
    unfold Search.below
    split
    · rfl
    · exact among_eq_follow children (stop + 1) trail decided

/-- Among some nodes, the search follows the list of the tries. -/
theorem among_eq_follow [LawfulMonad m] : ∀ (nodes : List (Node m κ ε)) (start : Nat) (trail : Trail),
    Decided sender usable nodes →
    Search.among line sender nodes start trail =
      pure (trail.follow line (tries line usable nodes start))
  | [], _, _, _ => rfl
  | node :: rest, start, trail, decided => by
    have through := fun stop trail => below_eq_follow node stop trail decided.children
    have behind := fun trail => among_eq_follow rest start trail decided.tail
    have answer := decided.head
    rw [tries]
    cases use : usable node.clause with
    | false =>
      rw [use] at answer
      rw [Search.among_cons_of_hidden answer, triesThrough_of_unusable use, List.nil_append,
        Trail.follow_map_later, behind]
    | true =>
      rw [use] at answer
      cases outcome : node.clause.pattern.consume line start with
      | error reason =>
        rw [Search.among_cons_of_error answer outcome, behind,
          Trail.follow_through_of_error use outcome, Trail.follow_map_later]
      | ok token =>
        obtain ⟨stop, parsed⟩ := token
        rw [Search.among_cons_of_ok answer outcome, through, pure_bind]
        rcases Nat.lt_or_ge stop (byteLength line) with inside | last
        · rw [if_neg (Nat.not_le.mpr inside), Trail.follow_through_of_inside use outcome inside]
          cases result : (trail.bind node.clause.pattern parsed).follow line
              (tries line usable node.children (stop + 1)) with
          | mk taken inner =>
            cases taken with
            | some last => rfl
            | none =>
              -- The branch has ended in nothing: what it bound is taken back before the siblings.
              dsimp only
              rw [Trail.unbind_of_missed result, behind, Trail.follow_map_later]
        · rw [if_pos last, Trail.follow_through_of_last use outcome last]

end

end CommandGrammar
