import CommandGrammar.Settings.FieldPattern.CharSet
import CommandGrammar.Text.Blank
import CommandGrammar.Text.Hexadecimal

/-!
# Gaps and escapes in patterns

A pattern may be told to skip gaps, which are blanks and comments from a number sign to the end of
the line. Each reader is told whether it does. An escape is what follows a backslash.
-/

set_option autoImplicit false

namespace CommandGrammar.FieldPattern

open Text (isBlank hexValue? codeLength?)

/-- The text behind the gap it starts with; tells whether it starts in a comment. -/
def dropGap : Bool → List Char → List Char
  | _, [] => []
  | true, c :: rest => dropGap (c != '\n') rest
  | false, c :: rest =>
    if isBlank c then dropGap false rest
    else if c = '#' then dropGap true rest
    else c :: rest

/-- The text behind a gap, where gaps are skipped. -/
def afterGap (skips : Bool) (text : List Char) : List Char :=
  if skips then dropGap false text else text

/-- What an escape stands for. -/
inductive Escape where
  | literal (literal : Literal)
  | set (set : CharSet)
  /-- The beginning or the end of the text. -/
  | edge
  /-- A place between a word and what is no word. -/
  | wordEdge

/-- Reads hexadecimal digits, so many of them, behind those with the given value. -/
def code? (skips : Bool) : Nat → Nat → List Char → Option (Nat × List Char)
  | 0, value, text => some (value, text)
  | missing + 1, value, text =>
    match afterGap skips text with
    | [] => none
    | c :: rest =>
      match hexValue? c with
      | some digit => code? skips missing (16 * value + digit) rest
      | none => none

/-- The control character that a letter stands for. -/
def controlChar? (c : Char) : Option Char :=
  if c = 'a' then some '\x07'
  else if c = 'f' then some '\x0c'
  else if c = 'n' then some '\n'
  else if c = 'r' then some '\r'
  else if c = 't' then some '\t'
  else if c = 'v' then some '\x0b'
  else none

/-- What a single character behind a backslash stands for. An ASCII character that is neither a
letter nor a digit stands for itself, but for the two signs that mark the edges of words. -/
def simpleEscape? (c : Char) : Option Escape :=
  if ['d', 's', 'w'].contains c then some (.set (.kind false))
  else if ['D', 'S', 'W'].contains c then some (.set (.kind true))
  else if c = 'A' || c = 'z' then some .edge
  else if ['b', 'B', '<', '>'].contains c then some .wordEdge
  else if c.toNat < 0x80 && !c.isAlphanum then some (.literal (.plain c))
  else (controlChar? c).map fun control => .literal (.plain control)

/-- Reads an escape behind its backslash. -/
def escape? (skips : Bool) : List Char → Option (Escape × List Char)
  | [] => none
  | c :: rest =>
    match codeLength? c with
    | some length => do
      let (value, rest) ← code? skips length 0 rest
      if value.isValidChar then return (.literal ⟨Char.ofNat value, c = 'x'⟩, rest) else none
    | none => (simpleEscape? c).map fun escape => (escape, rest)

end CommandGrammar.FieldPattern
