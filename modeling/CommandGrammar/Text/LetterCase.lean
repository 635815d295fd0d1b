import CommandGrammar.Text.LetterCase.Table
import CommandGrammar.Text.Ranges

/-!
# Lower case

Full Unicode lower-casing of a text. A character goes to its lower-case form, which is one character
for all but U+0130, and a capital sigma goes to the final form `ς` when a letter stands before it
and none after it, case-ignorable characters aside, and to `σ` otherwise.
-/

set_option autoImplicit false

namespace CommandGrammar.Text

/-- The lower-case form that the run gives to a code point, if it covers it. -/
def CaseRun.lower? (run : CaseRun) (code : Nat) : Option Nat :=
  if run.first ≤ code && code ≤ run.last && (code - run.first) % run.step == 0 then
    some (run.lower + (code - run.first))
  else none

/-- The lower-case form of a character, without regard to its neighbours. -/
def lowerChar (c : Char) : List Char :=
  if c.toNat < 0x80 then [c.toLower]
  else if c.toNat = 0x130 then ['i', '\u0307']
  else
    match lowerRuns.findSome? fun run => run.lower? c.toNat with
    | some code => [Char.ofNat code]
    | none => [c]

/-- Whether the nearest character that is not case-ignorable has a case. -/
def nextIsCased (text : List Char) : Bool :=
  match text.dropWhile (inRanges caseIgnorableRanges) with
  | [] => false
  | c :: _ => inRanges casedRanges c

/-- Lower-cases a text that stands after `before`, given in reverse. -/
def lowerAfter (before : List Char) : List Char → List Char
  | [] => []
  | c :: rest =>
    let lowered :=
      if c = 'Σ' then
        if nextIsCased before && !nextIsCased rest then ['ς'] else ['σ']
      else lowerChar c
    lowered ++ lowerAfter (c :: before) rest

/-- The text in lower case. -/
def lowercase (text : List Char) : List Char :=
  lowerAfter [] text

/-- The text in lower case. -/
def lowercased (text : String) : String :=
  String.ofList (lowercase text.toList)

/-- Whether two texts differ at most in the case of their ASCII letters. -/
def equalIgnoringAsciiCase (first second : String) : Bool :=
  first.toList.map Char.toLower == second.toList.map Char.toLower

end CommandGrammar.Text
