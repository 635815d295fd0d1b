/-!
# Modes of patterns

Letters behind a question mark at the start of a group switch modes on, and behind a dash off. They
hold for the group, or, if the group consists of nothing else, for the rest of the group around it.
Three modes decide whether a pattern can be used: whether the case of letters is ignored, whether
the pattern is matched by characters, and whether gaps in the pattern are skipped.
-/

set_option autoImplicit false

namespace CommandGrammar.FieldPattern

/-- The modes that letters switch on, and those that they switch off. -/
structure ModeChange where
  on : List Char
  off : List Char

/-- The change that changes nothing. -/
def ModeChange.none : ModeChange :=
  ⟨[], []⟩

/-- A mode after a change of modes. -/
def ModeChange.apply (change : ModeChange) (letter : Char) (mode : Bool) : Bool :=
  change.on.contains letter || mode && !change.off.contains letter

/-- The modes that decide how a pattern is matched. -/
structure Modes where
  ignoresCase : Bool
  byCharacter : Bool

/-- The modes after a change. -/
def Modes.change (modes : Modes) (change : ModeChange) : Modes :=
  ⟨change.apply 'i' modes.ignoresCase, change.apply 'u' modes.byCharacter⟩

/-- Whether gaps are skipped after a change. -/
def ModeChange.skipsAfter (change : ModeChange) (skips : Bool) : Bool :=
  change.apply 'x' skips

/-- The letters of the modes. -/
def modeLetters : List Char :=
  ['i', 'm', 's', 'U', 'u', 'R', 'x']

/-- Reads the letters of a change of modes up to the colon or the parenthesis behind them; tells the
letters, and whether a parenthesis ends them. No letter stands twice, at most one dash stands
between them, and none at the end. -/
def modeLetters? (seen : List Char) : List Char → Option (List Char × Bool × List Char)
  | [] => none
  | c :: rest =>
    if c = ':' || c = ')' then
      if seen.head? = some '-' then none else some (seen.reverse, c = ')', rest)
    else if (c = '-' || modeLetters.contains c) && !seen.contains c then
      modeLetters? (c :: seen) rest
    else none

/-- The change that letters with a dash between them say. -/
def ModeChange.ofLetters (letters : List Char) : ModeChange :=
  ⟨letters.takeWhile (· != '-'), (letters.dropWhile (· != '-')).drop 1⟩

end CommandGrammar.FieldPattern
