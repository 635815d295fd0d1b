import CommandGrammar.Text.LetterCase

/-!
# Candidates that continue a text

A candidate is offered for a typed text when it starts with the text, both in full lower case.
-/

set_option autoImplicit false

namespace CommandGrammar.Completion

/-- Whether a candidate starts with the typed text, without regard to case. -/
def continues (typed candidate : String) : Bool :=
  (Text.lowercase typed.toList).isPrefixOf (Text.lowercase candidate.toList)

/-- The candidates that start with the typed text, in their order. -/
def matching (candidates : List String) (typed : String) : List String :=
  candidates.filter (continues typed)

end CommandGrammar.Completion
