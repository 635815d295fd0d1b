import CommandGrammar.Settings.FieldPattern.CharSet
import CommandGrammar.Settings.FieldPattern.Modes

/-!
# Expressions

The form of a pattern, its height, and whether it can be matched. Modes change in the order of the
text, also from one alternative to the next, and so an expression is gone through from left to
right.
-/

set_option autoImplicit false

namespace CommandGrammar.FieldPattern

/-- A pattern as it is written. -/
inductive Expression where
  | empty
  /-- A change of modes for the rest of the group. -/
  | modes (change : ModeChange)
  | literal (literal : Literal)
  | anyChar
  /-- The beginning or the end of a line or of the text. -/
  | edge
  /-- A place between a word and what is no word. -/
  | wordEdge
  | set (set : CharSet)
  | repetition (item : Expression)
  | group (change : ModeChange) (body : Expression)
  | sequence (items : List Expression)
  | alternatives (items : List Expression)

/-- Expressions one after the other; a single one stands for itself. -/
def Expression.sequenceOf : List Expression → Expression
  | [] => .empty
  | [item] => item
  | items => .sequence items

/-- Expressions beside each other; a single one stands for itself. -/
def Expression.alternativesOf : List Expression → Expression
  | [] => .empty
  | [item] => item
  | items => .alternatives items

mutual

/-- How deep an expression nests. -/
def Expression.height : Expression → Nat
  | .set set => set.height
  | .repetition item => item.height + 1
  | .group _ body => body.height + 1
  | .sequence items => heightOfAll items + 1
  | .alternatives items => heightOfAll items + 1
  | _ => 0

/-- The greatest height among expressions. -/
def heightOfAll : List Expression → Nat
  | [] => 0
  | item :: items => max item.height (heightOfAll items)

end

/-- What is known behind a part of an expression: the modes there, and whether the edge of a word by
the characters of Unicode has been met. -/
structure Survey where
  modes : Modes
  metWordEdge : Bool

/-- Whether a literal can be matched. By bytes, one that means a byte must be ASCII. -/
def Modes.accepts (modes : Modes) (literal : Literal) : Bool :=
  if modes.byCharacter then !modes.ignoresCase else !literal.isByte || literal.isAscii

/-- Whether a set can be matched. -/
def Modes.acceptsSet (modes : Modes) (set : CharSet) : Bool :=
  if modes.byCharacter then set.isTextual modes.ignoresCase else set.isBytewise

mutual

/-- Goes through an expression; nothing comes out if a part of it cannot be matched. -/
def Expression.survey? : Expression → Survey → Option Survey
  | .empty, survey => some survey
  | .modes change, survey => some { survey with modes := survey.modes.change change }
  | .literal literal, survey => if survey.modes.accepts literal then some survey else none
  | .anyChar, survey => if survey.modes.byCharacter then some survey else none
  | .edge, survey => some survey
  | .wordEdge, survey =>
    some { survey with metWordEdge := survey.metWordEdge || survey.modes.byCharacter }
  | .set set, survey => if survey.modes.acceptsSet set then some survey else none
  | .repetition item, survey => item.survey? survey
  | .group change body, survey =>
    match body.survey? { survey with modes := survey.modes.change change } with
    | some inner => some { survey with metWordEdge := inner.metWordEdge }
    | none => none
  | .sequence items, survey => surveyAll? items survey
  | .alternatives items, survey => surveyAll? items survey

/-- Goes through expressions one after the other. -/
def surveyAll? : List Expression → Survey → Option Survey
  | [], survey => some survey
  | item :: items, survey =>
    match item.survey? survey with
    | some survey => surveyAll? items survey
    | none => none

end

end CommandGrammar.FieldPattern
