import CommandGrammar.Line.Cursor

/-!
# Reading on along a line

A form of a host's own reads with several steps: a word, the blanks behind it, a number, whatever is left.
Each of them starts where the one before it has left the cursor. A passage records what came of one of
them: the byte offsets between which it moved the cursor, and the text of the line between the two.
-/

set_option autoImplicit false

namespace CommandGrammar

open Text

/-- What may be asked for at a cursor. -/
inductive Reading where
  | word
  | token
  | blanks
  | rest
  | integer
  | float
  | boolean
  deriving Repr, DecidableEq

/-- What came of one reading. -/
structure Passage where
  reading : Reading
  /-- The value that was read, or why there is none. Blanks have no value. -/
  result : Except ParseError (Option Raw)
  /-- The byte offset before the reading. -/
  start : Nat
  /-- The byte offset after the reading. -/
  stop : Nat
  /-- What stands on the line between the two. -/
  text : List Char

namespace Cursor

/-- A run that was taken, as a step that does not fail. -/
def ofTaken (taken : Option (List Char × Cursor)) : Option (Step (Option Raw)) := do
  let (text, after) ← taken
  return (.ok (some (.text (String.ofList text))), after)

/-- A step with its value as a raw one. -/
def wrapped {α : Type} (wrap : α → Raw) (step : Option (Step α)) : Option (Step (Option Raw)) := do
  let (result, after) ← step
  return (result.map fun value => some (wrap value), after)

/-- Reads what is asked for. -/
def perform (cursor : Cursor) : Reading → Option (Step (Option Raw))
  | .word => ofTaken cursor.takeWord
  | .token => ofTaken cursor.takeToken
  | .blanks => do return (.ok none, ← cursor.skipBlanks)
  | .rest => ofTaken cursor.takeRest
  | .integer => wrapped .int cursor.readInt
  | .float => wrapped .float cursor.readFloat
  | .boolean => wrapped .bool cursor.readBool

/-- Reads one thing, and tells what came of it. -/
def pass (cursor : Cursor) (reading : Reading) : Option (Passage × Cursor) := do
  let (result, after) ← cursor.perform reading
  let text ← slice? cursor.line cursor.offset after.offset
  return (⟨reading, result, cursor.offset, after.offset, text⟩, after)

/-- Reads one thing after the other, and tells what came of each. -/
def passAll (cursor : Cursor) : List Reading → Option (List Passage × Cursor)
  | [] => some ([], cursor)
  | reading :: readings => do
    let (passage, after) ← cursor.pass reading
    let (passages, last) ← after.passAll readings
    return (passage :: passages, last)

end Cursor

end CommandGrammar
