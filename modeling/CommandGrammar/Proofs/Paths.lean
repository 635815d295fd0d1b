import CommandGrammar.Grammar
import Mathlib.Data.List.Basic

/-!
# Paths of a line through a forest

What a search and a walk have in common is the nodes they try. An **attempt** is a node that is tried
at an offset of the line, with what matching it there gives; a **path** is an attempt together with
the attempts that lead down to it and the address of its node, which counts positions among siblings.

`Tried` says which paths a line has, with no order of search in it: the nodes of the path are usable,
the first of them stands among the given nodes and starts at the given offset, and each node above
the last one matches with a token that ends before the line does, so that the next token starts one
byte behind it. Nothing is said of what the last attempt gives: it may fail, match up to the end of
the line, or match a part of it.

`tries` lists these paths depth first, in the order of declaration. That this list holds exactly the
tried paths (`mem_tries`), each of them once and in the lexicographic order of their addresses
(`pairwise_tries`), makes it the one thing that the theorems about searching and completing look at.
-/

set_option autoImplicit false

namespace CommandGrammar

open Text

/-- A node that is tried at an offset of the line, and what matching it there gives. -/
structure Attempt (m : Type → Type) (κ ε : Type) where
  node : Node m κ ε
  start : Nat
  outcome : Except ParseError (Nat × Option Binding)

/-- An attempt, the attempts above it, and the address of its node. -/
structure Path (m : Type → Type) (κ ε : Type) where
  address : List Nat
  above : List (Attempt m κ ε)
  last : Attempt m κ ε

variable {m : Type → Type} {κ ε : Type}

namespace Attempt

/-- Tries a node at an offset of a line. -/
def make (line : List Char) (node : Node m κ ε) (start : Nat) : Attempt m κ ε :=
  ⟨node, start, node.clause.pattern.consume line start⟩

/-- Where the tokens of the children start, if the token ends before the line does. -/
def next? (line : List Char) (attempt : Attempt m κ ε) : Option Nat :=
  match attempt.outcome with
  | .ok (stop, _) => if stop < byteLength line then some (stop + 1) else none
  | .error _ => none

/-- Whether the token takes the line up to its end. -/
def endsLine (line : List Char) (attempt : Attempt m κ ε) : Bool :=
  match attempt.outcome with
  | .ok (stop, _) => byteLength line ≤ stop
  | .error _ => false

/-- The failure of an attempt that does not match. -/
def failure? (attempt : Attempt m κ ε) : Option Failure :=
  match attempt.outcome with
  | .ok _ => none
  | .error reason => some ⟨attempt.start, reason⟩

/-- The value of an attempt that matches, where there is one. -/
def parsed (attempt : Attempt m κ ε) : Option Binding :=
  match attempt.outcome with
  | .ok (_, parsed) => parsed
  | .error _ => none

/-- Binds the value of an attempt. -/
def bind (arguments : Bindings) (attempt : Attempt m κ ε) : Bindings :=
  attempt.node.clause.pattern.bind attempt.parsed arguments

/-- Binds the values of attempts, one after the other. -/
def bindAll (attempts : List (Attempt m κ ε)) (arguments : Bindings) : Bindings :=
  attempts.foldl bind arguments

/-- What a name is bound to by attempts that lead down a tree: the value of the deepest of them that
has the name and a value. -/
def deepest? (attempts : List (Attempt m κ ε)) (name : String) : Option Binding :=
  attempts.reverse.findSome? fun attempt =>
    if attempt.node.name = name then attempt.parsed else none

end Attempt

namespace Path

/-- The path of a node that is tried first. -/
def single (position : Nat) (attempt : Attempt m κ ε) : Path m κ ε :=
  ⟨[position], [], attempt⟩

/-- A path of a node's children, seen from the siblings of the node. -/
def under (position : Nat) (attempt : Attempt m κ ε) (path : Path m κ ε) : Path m κ ε :=
  ⟨position :: path.address, attempt :: path.above, path.last⟩

/-- A path among siblings when another sibling is put before them. -/
def later (path : Path m κ ε) : Path m κ ε :=
  { path with
    address :=
      match path.address with
      | [] => []
      | position :: rest => (position + 1) :: rest }

/-- The attempts of a path, the last one included. -/
def attempts (path : Path m κ ε) : List (Attempt m κ ε) :=
  path.above ++ [path.last]

/-- Whether the path takes the line up to its end. -/
def endsLine (line : List Char) (path : Path m κ ε) : Bool :=
  path.last.endsLine line

@[simp] theorem last_under (position : Nat) (attempt : Attempt m κ ε) (path : Path m κ ε) :
    (path.under position attempt).last = path.last := rfl

@[simp] theorem last_later (path : Path m κ ε) : path.later.last = path.last := rfl

@[simp] theorem endsLine_later (line : List Char) (path : Path m κ ε) :
    path.later.endsLine line = path.endsLine line := rfl

@[simp] theorem attempts_later (path : Path m κ ε) : path.later.attempts = path.attempts := rfl

end Path

/-! ## The paths that a line has -/

variable (line : List Char) (usable : Clause m κ ε → Bool)

/-- The path leads down usable nodes, the first of them among the given ones and with a token that
starts at the given offset. Every node above the last matches with a token that ends before the line
does, and the token of its child starts one byte behind. -/
inductive Tried : List (Node m κ ε) → (start : Nat) → Path m κ ε → Prop
  | here {nodes : List (Node m κ ε)} {start position : Nat} {node : Node m κ ε} :
      nodes[position]? = some node → usable node.clause = true →
      Tried nodes start (.single position (.make line node start))
  | deeper {nodes : List (Node m κ ε)} {start position stop : Nat} {node : Node m κ ε}
      {parsed : Option Binding} {path : Path m κ ε} :
      nodes[position]? = some node → usable node.clause = true →
      node.clause.pattern.consume line start = .ok (stop, parsed) → stop < byteLength line →
      Tried node.children (stop + 1) path →
      Tried nodes start (path.under position (.make line node start))

mutual

/-- The tried paths that lead through a node whose token starts at `start`. -/
def triesThrough : Node m κ ε → (start : Nat) → List (Path m κ ε)
  | .mk clause children, start =>
    let here := Attempt.make line (.mk clause children) start
    if usable clause then
      .single 0 here ::
        match here.next? line with
        | some next => (tries children next).map (.under 0 here)
        | none => []
    else []

/-- The tried paths through nodes whose tokens start at `start`, depth first, in the order of
declaration. -/
def tries : List (Node m κ ε) → (start : Nat) → List (Path m κ ε)
  | [], _ => []
  | node :: rest, start => triesThrough node start ++ (tries rest start).map .later

end

variable {line usable}

namespace Attempt

variable {node : Node m κ ε} {start stop : Nat} {parsed : Option Binding} {reason : ParseError}

/-- An attempt that does not match. -/
theorem make_of_error (fails : node.clause.pattern.consume line start = .error reason) :
    make line node start = ⟨node, start, .error reason⟩ := by
  rw [make, fails]

/-- An attempt that matches. -/
theorem make_of_ok (takes : node.clause.pattern.consume line start = .ok (stop, parsed)) :
    make line node start = ⟨node, start, .ok (stop, parsed)⟩ := by
  rw [make, takes]

/-- A token that ends before the line does is followed by the tokens of the children. -/
theorem next?_of_lt (inside : stop < byteLength line) :
    next? line (⟨node, start, .ok (stop, parsed)⟩ : Attempt m κ ε) = some (stop + 1) :=
  if_pos inside

/-- A token that takes the line to its end is followed by nothing. -/
theorem next?_of_le (last : byteLength line ≤ stop) :
    next? line (⟨node, start, .ok (stop, parsed)⟩ : Attempt m κ ε) = none :=
  if_neg (Nat.not_lt.mpr last)

/-- A token ends the line or not, by where it stops. -/
theorem endsLine_iff :
    endsLine line (⟨node, start, .ok (stop, parsed)⟩ : Attempt m κ ε) = true ↔
      byteLength line ≤ stop :=
  decide_eq_true_iff

/-- An attempt takes the line to its end exactly when it matches and its token stops there. -/
theorem endsLine_eq_true_iff {attempt : Attempt m κ ε} :
    attempt.endsLine line = true ↔
      ∃ stop parsed, attempt.outcome = .ok (stop, parsed) ∧ byteLength line ≤ stop := by
  obtain ⟨node, start, outcome⟩ := attempt
  cases outcome with
  | error reason =>
    constructor
    · intro ends
      cases ends
    · rintro ⟨_, _, same, _⟩
      cases same
  | ok token =>
    obtain ⟨stop, parsed⟩ := token
    constructor
    · intro ends
      exact ⟨stop, parsed, rfl, endsLine_iff.mp ends⟩
    · rintro ⟨_, _, same, last⟩
      cases same
      exact endsLine_iff.mpr last

/-- An attempt fails for a reason at its start. -/
theorem failure?_eq_some_iff {attempt : Attempt m κ ε} {failure : Failure} :
    attempt.failure? = some failure ↔
      attempt.start = failure.position ∧ attempt.outcome = .error failure.reason := by
  obtain ⟨node, start, outcome⟩ := attempt
  obtain ⟨position, reason⟩ := failure
  cases outcome with
  | ok token => simp [failure?]
  | error found => simp [failure?]

/-- The children's tokens start somewhere exactly when the node matches a part of the line. -/
theorem next?_make {next : Nat} :
    (make line node start).next? line = some next ↔
      ∃ stop parsed, node.clause.pattern.consume line start = .ok (stop, parsed) ∧
        stop < byteLength line ∧ next = stop + 1 := by
  cases outcome : node.clause.pattern.consume line start with
  | error reason =>
    rw [make_of_error outcome]
    constructor
    · intro none_
      cases none_
    · rintro ⟨_, _, same, _⟩
      cases same
  | ok token =>
    obtain ⟨stop, parsed⟩ := token
    rw [make_of_ok outcome]
    constructor
    · intro leads
      by_cases inside : stop < byteLength line
      · rw [next?_of_lt inside] at leads
        exact ⟨stop, parsed, rfl, inside, (Option.some.inj leads).symm⟩
      · rw [next?_of_le (Nat.not_lt.mp inside)] at leads
        cases leads
    · rintro ⟨_, _, same, inside, rfl⟩
      cases same
      exact next?_of_lt inside

end Attempt

/-- A path whose last token matches ends the line or not, by where that token stops. -/
theorem Path.endsLine_single_iff {position start stop : Nat} {node : Node m κ ε}
    {parsed : Option Binding} :
    (single position ⟨node, start, .ok (stop, parsed)⟩).endsLine line = true ↔
      byteLength line ≤ stop :=
  Attempt.endsLine_iff

/-- A path that ends in a failure does not end the line. -/
theorem Path.not_endsLine_single {position start : Nat} {node : Node m κ ε} {reason : ParseError} :
    ¬ (single position ⟨node, start, .error reason⟩).endsLine line = true :=
  Bool.false_ne_true

/-- A node that may not be used leads nowhere. -/
theorem triesThrough_of_unusable {node : Node m κ ε} {start : Nat}
    (hidden : usable node.clause = false) : triesThrough line usable node start = [] := by
  obtain ⟨clause, children⟩ := node
  have hidden' : usable clause = false := hidden
  simp [triesThrough, hidden']

/-- Below a node that does not match a part of the line nothing is tried. -/
theorem triesThrough_of_last {node : Node m κ ε} {start : Nat} (use : usable node.clause = true)
    (last : (Attempt.make line node start).next? line = none) :
    triesThrough line usable node start = [.single 0 (.make line node start)] := by
  obtain ⟨clause, children⟩ := node
  have use' : usable clause = true := use
  simp [triesThrough, use', last]

/-- Below a node that matches a part of the line its children are tried. -/
theorem triesThrough_of_inside {node : Node m κ ε} {start next : Nat}
    (use : usable node.clause = true)
    (inside : (Attempt.make line node start).next? line = some next) :
    triesThrough line usable node start =
      .single 0 (.make line node start) ::
        (tries line usable node.children next).map (.under 0 (.make line node start)) := by
  obtain ⟨clause, children⟩ := node
  have use' : usable clause = true := use
  simp [triesThrough, use', inside, Node.children]

/-- A path through a node that comes first among its siblings is the node's own attempt, or one of
its children's paths under it. -/
theorem mem_triesThrough {node : Node m κ ε} {start : Nat} {path : Path m κ ε} :
    path ∈ triesThrough line usable node start ↔
      usable node.clause = true ∧
        (path = .single 0 (.make line node start) ∨
          ∃ next, (Attempt.make line node start).next? line = some next ∧
            ∃ inner ∈ tries line usable node.children next,
              path = inner.under 0 (.make line node start)) := by
  cases use : usable node.clause with
  | false => simp [triesThrough_of_unusable use]
  | true =>
    cases inside : (Attempt.make line node start).next? line with
    | none => simp [triesThrough_of_last use inside]
    | some next => simp [triesThrough_of_inside use inside, eq_comm]

/-! ## The list holds the tried paths -/

/-- A path through nodes stays a path when another node is put before them. -/
theorem Tried.later {node : Node m κ ε} {rest : List (Node m κ ε)} {start : Nat}
    {path : Path m κ ε} (tried : Tried line usable rest start path) :
    Tried line usable (node :: rest) start path.later := by
  cases tried with
  | @here _ _ position found at_ use =>
    show Tried line usable (node :: rest) start (.single (position + 1) (.make line found start))
    exact .here (by simpa using at_) use
  | @deeper _ _ position stop found parsed inner at_ use taken inside tried =>
    show Tried line usable (node :: rest) start
      (inner.under (position + 1) (.make line found start))
    exact .deeper (by simpa using at_) use taken inside tried

mutual

/-- Every listed path through a node is tried. -/
theorem tried_of_mem_triesThrough : ∀ (node : Node m κ ε) (rest : List (Node m κ ε)) (start : Nat)
    {path : Path m κ ε}, path ∈ triesThrough line usable node start →
      Tried line usable (node :: rest) start path
  | .mk clause children, rest, start, path, listed => by
    obtain ⟨use, rfl | ⟨next, leads, inner, within, rfl⟩⟩ := mem_triesThrough.mp listed
    · exact .here rfl use
    · obtain ⟨stop, parsed, taken, inside, rfl⟩ := Attempt.next?_make.mp leads
      exact .deeper rfl use taken inside (tried_of_mem_tries children (stop + 1) within)

/-- Every listed path is tried. -/
theorem tried_of_mem_tries : ∀ (nodes : List (Node m κ ε)) (start : Nat) {path : Path m κ ε},
    path ∈ tries line usable nodes start → Tried line usable nodes start path
  | [], _, _, listed => by simp [tries] at listed
  | node :: rest, start, path, listed => by
    rw [tries, List.mem_append, List.mem_map] at listed
    rcases listed with first | ⟨other, behind, rfl⟩
    · exact tried_of_mem_triesThrough node rest start first
    · exact (tried_of_mem_tries rest start behind).later

end

/-- Every tried path through nodes, the first of which is put aside, is a path through that node or
one through the others. -/
theorem Tried.cons {node : Node m κ ε} {rest : List (Node m κ ε)} {start : Nat} {path : Path m κ ε}
    (tried : Tried line usable (node :: rest) start path) :
    (usable node.clause = true ∧
        (path = .single 0 (.make line node start) ∨
          ∃ next, (Attempt.make line node start).next? line = some next ∧
            ∃ inner, Tried line usable node.children next inner ∧
              path = inner.under 0 (.make line node start))) ∨
      ∃ other, Tried line usable rest start other ∧ path = other.later := by
  cases tried with
  | @here _ _ position found at_ use =>
    cases position with
    | zero =>
      obtain rfl : node = found := by simpa using at_
      exact .inl ⟨use, .inl rfl⟩
    | succ position => exact .inr ⟨_, .here (by simpa using at_) use, rfl⟩
  | @deeper _ _ position stop found parsed inner at_ use taken inside tried =>
    cases position with
    | zero =>
      obtain rfl : node = found := by simpa using at_
      exact .inl ⟨use, .inr ⟨_, Attempt.next?_make.mpr ⟨stop, parsed, taken, inside, rfl⟩,
        inner, tried, rfl⟩⟩
    | succ position => exact .inr ⟨_, .deeper (by simpa using at_) use taken inside tried, rfl⟩

mutual

/-- Every tried path of a node's children is listed. -/
theorem mem_tries_children_of_tried : ∀ (node : Node m κ ε) (start : Nat) {path : Path m κ ε},
    Tried line usable node.children start path → path ∈ tries line usable node.children start
  | .mk _ children, start, _, tried => mem_tries_of_tried children start tried

/-- Every tried path is listed. -/
theorem mem_tries_of_tried : ∀ (nodes : List (Node m κ ε)) (start : Nat) {path : Path m κ ε},
    Tried line usable nodes start path → path ∈ tries line usable nodes start
  | [], _, _, tried => by cases tried with
    | here at_ _ => simp at at_
    | deeper at_ _ _ _ _ => simp at at_
  | node :: rest, start, path, tried => by
    rw [tries, List.mem_append, List.mem_map, mem_triesThrough]
    rcases tried.cons with ⟨use, rfl | ⟨next, leads, inner, within, rfl⟩⟩ | ⟨other, behind, rfl⟩
    · exact .inl ⟨use, .inl rfl⟩
    · exact .inl ⟨use, .inr ⟨next, leads, inner,
        mem_tries_children_of_tried node next within, rfl⟩⟩
    · exact .inr ⟨other, mem_tries_of_tried rest start behind, rfl⟩

end

/-- The list of the tries holds exactly the tried paths. -/
theorem mem_tries {nodes : List (Node m κ ε)} {start : Nat} {path : Path m κ ε} :
    path ∈ tries line usable nodes start ↔ Tried line usable nodes start path :=
  ⟨tried_of_mem_tries nodes start, mem_tries_of_tried nodes start⟩

/-! ## The list is in the order of the addresses -/

/-- What the last attempt of a path gives is what matching its node there gives. -/
theorem Tried.outcome_last {nodes : List (Node m κ ε)} {start : Nat} {path : Path m κ ε}
    (tried : Tried line usable nodes start path) :
    path.last.outcome = path.last.node.clause.pattern.consume line path.last.start := by
  induction tried with
  | here _ _ => rfl
  | deeper _ _ _ _ _ ih => exact ih

/-- A tried path begins with the attempt of one of the nodes. -/
theorem Tried.attempts_eq {nodes : List (Node m κ ε)} {start : Nat} {path : Path m κ ε}
    (tried : Tried line usable nodes start path) :
    ∃ node ∈ nodes, ∃ rest, path.attempts = .make line node start :: rest := by
  cases tried with
  | here at_ _ => exact ⟨_, List.mem_of_getElem? at_, [], rfl⟩
  | @deeper _ _ _ _ _ _ inner at_ _ _ _ _ =>
    exact ⟨_, List.mem_of_getElem? at_, inner.attempts, rfl⟩

/-- A tried path has an address. -/
theorem Tried.address_ne_nil {nodes : List (Node m κ ε)} {start : Nat} {path : Path m κ ε}
    (tried : Tried line usable nodes start path) : path.address ≠ [] := by
  cases tried with
  | here _ _ => exact List.cons_ne_nil _ _
  | deeper _ _ _ _ _ => exact List.cons_ne_nil _ _

/-- The last node of a path stands at the address of the path. -/
theorem Tried.descendant?_eq {nodes : List (Node m κ ε)} {start : Nat} {path : Path m κ ε}
    (tried : Tried line usable nodes start path) :
    ∃ position rest, path.address = position :: rest ∧
      (nodes[position]?).bind (Node.descendant? · rest) = some path.last.node := by
  induction tried with
  | @here _ _ position _ at_ _ =>
    refine ⟨position, [], rfl, ?_⟩
    rw [at_]
    rfl
  | @deeper _ _ position _ node _ path at_ _ _ _ _ ih =>
    obtain ⟨child, rest, address, stands⟩ := ih
    refine ⟨position, path.address, rfl, ?_⟩
    rw [at_, Option.bind_some, address, Node.descendant?]
    exact stands

/-- The last node of a path through the roots of a grammar stands at the address of the path. -/
theorem Tried.node?_eq {grammar : Grammar m κ ε} {start : Nat} {path : Path m κ ε}
    (tried : Tried line usable grammar.roots start path) :
    grammar.node? path.address = some path.last.node := by
  obtain ⟨position, rest, address, stands⟩ := tried.descendant?_eq
  rw [address, Grammar.node?]
  exact stands

/-- Putting a sibling before two paths does not change their order. -/
theorem Path.later_lt_later {first second : Path m κ ε} (before : first.address < second.address)
    (some_ : first.address ≠ []) : first.later.address < second.later.address := by
  unfold Path.later
  cases atFirst : first.address with
  | nil => exact absurd atFirst some_
  | cons position rest =>
    cases atSecond : second.address with
    | nil => simp [atFirst, atSecond] at before
    | cons position' rest' =>
      rw [atFirst, atSecond, List.cons_lt_cons_iff] at before
      show (position + 1) :: rest < (position' + 1) :: rest'
      rcases before with less | ⟨rfl, less⟩
      · exact List.cons_lt_cons_iff.mpr (.inl (Nat.succ_lt_succ less))
      · exact List.cons_lt_cons_iff.mpr (.inr ⟨rfl, less⟩)

/-- Paths through the first of some nodes have addresses that begin with zero. -/
theorem address_of_mem_triesThrough {node : Node m κ ε} {start : Nat} {path : Path m κ ε}
    (listed : path ∈ triesThrough line usable node start) : ∃ rest, path.address = 0 :: rest := by
  obtain ⟨_, rfl | ⟨_, _, inner, _, rfl⟩⟩ := mem_triesThrough.mp listed
  · exact ⟨[], rfl⟩
  · exact ⟨inner.address, rfl⟩

/-- Paths through later siblings have addresses that begin with a greater number. -/
theorem Path.address_later {path : Path m κ ε} (some_ : path.address ≠ []) :
    ∃ position rest, path.later.address = (position + 1) :: rest := by
  unfold Path.later
  cases atPath : path.address with
  | nil => exact absurd atPath some_
  | cons position rest => exact ⟨position, rest, rfl⟩

mutual

/-- The paths through one node are listed in the order of their addresses. -/
theorem pairwise_triesThrough : ∀ (node : Node m κ ε) (start : Nat),
    (triesThrough line usable node start).Pairwise fun first second =>
      first.address < second.address
  | .mk clause children, start => by
    unfold triesThrough
    split
    · refine List.pairwise_cons.mpr ⟨?_, ?_⟩
      · intro path listed
        split at listed
        · obtain ⟨inner, within, rfl⟩ := List.mem_map.mp listed
          refine List.cons_lt_cons_iff.mpr (.inr ⟨rfl, ?_⟩)
          cases atInner : inner.address with
          | nil => exact absurd atInner (mem_tries.mp within).address_ne_nil
          | cons position rest => exact List.nil_lt_cons position rest
        · exact absurd listed List.not_mem_nil
      · split
        · refine List.pairwise_map.mpr ((pairwise_tries children _).imp ?_)
          intro first second before
          exact List.cons_lt_cons_iff.mpr (.inr ⟨rfl, before⟩)
        · exact .nil
    · exact .nil

/-- The tried paths are listed in the lexicographic order of their addresses, each of them once. -/
theorem pairwise_tries : ∀ (nodes : List (Node m κ ε)) (start : Nat),
    (tries line usable nodes start).Pairwise fun first second => first.address < second.address
  | [], _ => .nil
  | node :: rest, start => by
    rw [tries, List.pairwise_append, List.pairwise_map]
    refine ⟨pairwise_triesThrough node start, ?_, ?_⟩
    · refine (pairwise_tries rest start).imp_of_mem ?_
      intro first second listed _ before
      exact Path.later_lt_later before (mem_tries.mp listed).address_ne_nil
    · intro first through second listed
      obtain ⟨other, behind, rfl⟩ := List.mem_map.mp listed
      obtain ⟨deeper, atFirst⟩ := address_of_mem_triesThrough through
      obtain ⟨position, after, atOther⟩ :=
        Path.address_later (mem_tries.mp behind).address_ne_nil
      rw [atFirst, atOther]
      exact List.cons_lt_cons_iff.mpr (.inl (Nat.succ_pos position))

end

end CommandGrammar
