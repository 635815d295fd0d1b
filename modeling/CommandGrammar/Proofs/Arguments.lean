import CommandGrammar.Proofs.Paths

/-!
# The arguments of a path

The arguments of a path are the values that its tokens bind on the way down. `lookup_bindAll` reads
them back: a name has the value of the deepest attempt that binds it, and where no attempt of the
path binds it, the value it had before the path. Taking a binding back (`Pattern.unbind_bind`) leaves
the arguments as they were before it, entry by entry, whether or not the name was bound further up.
-/

set_option autoImplicit false

namespace CommandGrammar

variable {m : Type → Type} {κ ε : Type}

/-- A token's binding that is taken back leaves no trace, and brings back what it shadowed. -/
theorem Pattern.unbind_bind (pattern : Pattern) (parsed : Option Binding) (arguments : Bindings) :
    pattern.unbind parsed (arguments.lookup pattern.name) (pattern.bind parsed arguments) =
      arguments := by
  cases parsed with
  | none => rfl
  | some binding =>
    cases before : arguments.lookup pattern.name with
    | none => exact Assoc.erase_put before
    | some shadowed => exact Assoc.put_put before

/-- A token binds its own name, if it has a value, and no other name. -/
theorem Pattern.lookup_bind (pattern : Pattern) (parsed : Option Binding) (arguments : Bindings)
    (name : String) :
    (pattern.bind parsed arguments).lookup name =
      (if pattern.name = name then parsed else none).or (arguments.lookup name) := by
  cases parsed with
  | none => simp [Pattern.bind]
  | some binding =>
    rw [Pattern.bind, Assoc.lookup_put]
    by_cases same : pattern.name = name
    · simp [same]
    · simp [same, Ne.symm same]

namespace Attempt

/-- The attempts of a path are bound from the first one down. -/
theorem bindAll_cons (first : Attempt m κ ε) (rest : List (Attempt m κ ε)) (arguments : Bindings) :
    bindAll (first :: rest) arguments = bindAll rest (first.bind arguments) :=
  rfl

/-- An attempt counts for a name only where nothing deeper binds it. -/
theorem deepest?_cons (first : Attempt m κ ε) (rest : List (Attempt m κ ε)) (name : String) :
    deepest? (first :: rest) name =
      (deepest? rest name).or (if first.node.name = name then first.parsed else none) := by
  unfold deepest?
  rw [List.reverse_cons, List.findSome?_append]
  simp

/-- After a path, a name has the value of the deepest attempt that binds it; a name that the path does
not bind has the value it had before. -/
theorem lookup_bindAll (attempts : List (Attempt m κ ε)) (arguments : Bindings) (name : String) :
    (bindAll attempts arguments).lookup name =
      (deepest? attempts name).or (arguments.lookup name) := by
  induction attempts generalizing arguments with
  | nil => rfl
  | cons first rest ih =>
    have own : (first.bind arguments).lookup name =
        (if first.node.name = name then first.parsed else none).or (arguments.lookup name) :=
      Pattern.lookup_bind _ _ _ _
    rw [bindAll_cons, ih, own, deepest?_cons, Option.or_assoc]

/-- A fixed word has no value. -/
theorem parsed_make_of_isLiteral {node : Node m κ ε} (literal : node.clause.pattern.isLiteral = true)
    (line : List Char) (start : Nat) : (make line node start).parsed = none := by
  unfold make parsed
  cases atNode : node.clause.pattern with
  | argument name form => rw [atNode] at literal; cases literal
  | literal name =>
    simp only [Pattern.consume]
    split
    next taken =>
      split at taken
      · split at taken <;> cases taken
        rfl
      · cases taken
    next => rfl

end Attempt

end CommandGrammar
