import CommandGrammar.Settings.FieldPattern.Reader

/-!
# Patterns for field values

A log filter may compare the value of a field with a regular expression. What is decided here is
only whether a text is such an expression, and whether it can be matched: it must not nest too deep,
must not need tables that are not at hand, and must not ask for the edges of words by the characters
of Unicode. The last is found only if nothing else is wrong.
-/

set_option autoImplicit false

namespace CommandGrammar.FieldPattern

/-- What can be wrong with a pattern. -/
inductive Fault where
  /-- It is no pattern, or one that cannot be matched. -/
  | unusable
  /-- It asks for the edges of words by the characters of Unicode. -/
  | wordEdge

/-- What is said about a fault. -/
def Fault.message : Fault → String
  | .unusable => "error building NFA"
  | .wordEdge =>
    "unsupported regex feature for DFAs: cannot build DFAs for regexes with Unicode word "
      ++ "boundaries; switch to ASCII word boundaries, or heuristically enable Unicode word "
      ++ "boundaries or use a different regex engine"

/-- How deep a pattern may nest. -/
def heightLimit : Nat :=
  250

/-- What is known in front of a pattern. -/
def Survey.start : Survey :=
  ⟨⟨false, true⟩, false⟩

/-- Checks a pattern. -/
def check (text : List Char) : Except Fault Unit :=
  match expression? text with
  | none => .error .unusable
  | some expression =>
    if heightLimit < expression.height then .error .unusable
    else
      match expression.survey? .start with
      | none => .error .unusable
      | some survey => if survey.metWordEdge then .error .wordEdge else .ok ()

end CommandGrammar.FieldPattern
