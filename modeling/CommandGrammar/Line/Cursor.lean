import CommandGrammar.Line.Reader

/-!
# Byte offsets of a line

A cursor is a byte offset of a line. Nothing keeps it from lying inside a character, and whoever reads
there breaks off, since the line cannot be cut there: a step that breaks off has no result at all.

A step that fails is another matter. It has a result, an error, and leaves the cursor somewhere; nothing
puts the cursor back unless the step does it. A number that is none goes back to where it started, a run
that is empty has not moved, and a number outside of its bounds has been read by the time it is refused.
-/

set_option autoImplicit false

namespace CommandGrammar

open Text

/-- A byte offset of a line. -/
structure Cursor where
  line : List Char
  offset : Nat
  deriving DecidableEq

namespace Cursor

/-- What a step at a cursor gives, unless it breaks off: the value or an error, and the cursor after it. -/
abbrev Step (α : Type) : Type :=
  Except ParseError α × Cursor

/-- The cursor at an offset of a line; an offset beyond the end means the end. -/
def atOffset (line : List Char) (offset : Nat) : Cursor :=
  ⟨line, min offset (byteLength line)⟩

/-- The cursor at another offset of the same line. -/
def moveTo (cursor : Cursor) (offset : Nat) : Cursor :=
  atOffset cursor.line offset

/-- Whether anything is left. -/
def canRead (cursor : Cursor) : Bool :=
  cursor.offset < byteLength cursor.line

/-- What is left of the line. -/
def remaining? (cursor : Cursor) : Option (List Char) :=
  dropBytes? cursor.line cursor.offset

/-- The character at the cursor, if there is one. -/
def peek? (cursor : Cursor) : Option (Option Char) :=
  cursor.remaining?.map List.head?

/-- Takes the longest run of characters of a class: up to the first character outside of it, whose offset
is counted from the cursor on, or up to the end. -/
def takeRun (accepts : Char → Bool) (cursor : Cursor) : Option (List Char × Cursor) := do
  let rest ← cursor.remaining?
  let ends := ((charOffsets 0 rest).find? fun entry => !accepts entry.2).map Prod.fst
  let stop := cursor.offset + ends.getD (byteLength rest)
  return (← slice? cursor.line cursor.offset stop, ⟨cursor.line, stop⟩)

/-- Reads a run of word characters; it may be empty. -/
def takeWord (cursor : Cursor) : Option (List Char × Cursor) :=
  cursor.takeRun Reader.isWordChar

/-- Reads up to the next blank. -/
def takeToken (cursor : Cursor) : Option (List Char × Cursor) :=
  cursor.takeRun fun c => !isBlank c

/-- Reads everything that is left. -/
def takeRest (cursor : Cursor) : Option (List Char × Cursor) := do
  return (← cursor.remaining?, ⟨cursor.line, byteLength cursor.line⟩)

/-- Moves behind the blanks at the cursor. -/
def skipBlanks (cursor : Cursor) : Option Cursor := do
  let (_, after) ← cursor.takeRun isBlank
  return after

/-- Reads a number. Where nothing is read, nothing was passed over; a text that is no number was, and the
cursor goes back. -/
def readNumber {α : Type} (number? : List Char → Option α) (expected : ParseError)
    (invalid : String → ParseError) (cursor : Cursor) : Option (Step α) := do
  let (text, after) ← cursor.takeRun Reader.isNumberChar
  if text.isEmpty then return (.error expected, after)
  match number? text with
  | some value => return (.ok value, after)
  | none => return (.error (invalid (String.ofList text)), { after with offset := cursor.offset })

/-- The 32-bit integer that a text stands for. -/
def int32? (text : List Char) : Option Int32 := do
  let value ← Decimal.readInteger? text
  if Int32.minValue.toInt ≤ value && value ≤ Int32.maxValue.toInt then return Int32.ofInt value
  else none

/-- Reads a 32-bit integer. -/
def readInt : Cursor → Option (Step Int32) :=
  readNumber int32? .expectedInteger .invalidInteger

/-- Reads a float. -/
def readFloat : Cursor → Option (Step Float) :=
  readNumber Decimal.readFloat? .expectedFloat .invalidFloat

/-- Reads `true` or `false`. From any other word the cursor goes back. -/
def readBool (cursor : Cursor) : Option (Step Bool) := do
  let (word, after) ← cursor.takeWord
  if word.isEmpty then return (.error .expectedBool, after)
  else if word = "true".toList then return (.ok true, after)
  else if word = "false".toList then return (.ok false, after)
  else return (.error (.invalidBool (String.ofList word)), { after with offset := cursor.offset })

end Cursor

/-- Where a reader stands. -/
def Reader.toCursor (reader : Reader) : Cursor :=
  ⟨reader.line, reader.cursor⟩

@[simp] theorem Reader.line_toCursor (reader : Reader) : reader.toCursor.line = reader.line := rfl

@[simp] theorem Reader.offset_toCursor (reader : Reader) : reader.toCursor.offset = reader.cursor := rfl

end CommandGrammar
