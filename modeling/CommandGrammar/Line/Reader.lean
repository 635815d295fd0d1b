import CommandGrammar.Argument.Raw
import CommandGrammar.Text.Bytes
import CommandGrammar.Text.Pieces

/-!
# Reading a line

A reader stands between two characters of a line: `passed` is the text before it and `rest` the text
after it, so the position is a character boundary by construction, and its byte offset is the length
of `passed`. Every step takes the longest run of its class off `rest` and moves it over to `passed`;
a step that fails leaves the reader where it stood.
-/

set_option autoImplicit false

namespace CommandGrammar

open Text

/-- A position in a line. -/
structure Reader where
  passed : List Char
  rest : List Char

namespace Reader

/-- The reader at the start of a line. -/
def ofLine (line : List Char) : Reader :=
  ⟨[], line⟩

/-- The reader at a byte offset of a line; an offset beyond the end means the end. -/
def atOffset (line : List Char) (offset : Nat) : Reader :=
  let (passed, rest) := splitAtByte offset line
  ⟨passed, rest⟩

/-- The whole line. -/
def line (reader : Reader) : List Char :=
  reader.passed ++ reader.rest

/-- The byte offset of the position. -/
def cursor (reader : Reader) : Nat :=
  byteLength reader.passed

/-- The reader at another byte offset of the same line. -/
def moveTo (reader : Reader) (offset : Nat) : Reader :=
  Reader.atOffset reader.line offset

/-- Takes the longest run of characters of a class. -/
def takeRun (accepts : Char → Bool) (reader : Reader) : List Char × Reader :=
  let run := reader.rest.takeWhile accepts
  (run, ⟨reader.passed ++ run, reader.rest.dropWhile accepts⟩)

/-- The characters of an unquoted word: `0-9 A-Z a-z _ - . +`. -/
def isWordChar (c : Char) : Bool :=
  c.isAlphanum || c == '_' || c == '-' || c == '.' || c == '+'

/-- The characters of a number: digits, the minus sign and the point. -/
def isNumberChar (c : Char) : Bool :=
  c.isDigit || c == '-' || c == '.'

/-- Reads a run of word characters; it may be empty. -/
def takeWord (reader : Reader) : List Char × Reader :=
  reader.takeRun isWordChar

/-- Reads up to the next blank. -/
def takeToken (reader : Reader) : List Char × Reader :=
  reader.takeRun fun c => !isBlank c

/-- Reads everything that is left. -/
def takeRest (reader : Reader) : List Char × Reader :=
  (reader.rest, ⟨reader.line, []⟩)

/-- Moves behind the blanks at the position. -/
def skipBlanks (reader : Reader) : Reader :=
  (reader.takeRun isBlank).2

/-- What reading a value gives: the value or an error, and where the reader then stands. -/
abbrev Step (α : Type) : Type :=
  Except ParseError α × Reader

/-- Judges the run of a class: an accepted run is passed over, a refused one is not. -/
def judge {α : Type} (accepts : Char → Bool) (verdict : List Char → Except ParseError α)
    (reader : Reader) : Step α :=
  let (run, after) := reader.takeRun accepts
  match verdict run with
  | .ok value => (.ok value, after)
  | .error error => (.error error, reader)

/-- The 32-bit integer that a run of number characters stands for. -/
def intOfRun (run : List Char) : Except ParseError Int32 :=
  if run.isEmpty then .error .expectedInteger
  else
    match Decimal.readInteger? run with
    | some value =>
      if Int32.minValue.toInt ≤ value && value ≤ Int32.maxValue.toInt then
        .ok (Int32.ofInt value)
      else .error (.invalidInteger (String.ofList run))
    | none => .error (.invalidInteger (String.ofList run))

/-- The float that a run of number characters stands for. -/
def floatOfRun (run : List Char) : Except ParseError Float :=
  if run.isEmpty then .error .expectedFloat
  else
    match Decimal.readFloat? run with
    | some value => .ok value
    | none => .error (.invalidFloat (String.ofList run))

/-- The truth value that a word stands for. -/
def boolOfRun (run : List Char) : Except ParseError Bool :=
  if run.isEmpty then .error .expectedBool
  else if run = "true".toList then .ok true
  else if run = "false".toList then .ok false
  else .error (.invalidBool (String.ofList run))

/-- Reads a 32-bit integer. -/
def readInt (reader : Reader) : Step Int32 :=
  reader.judge isNumberChar intOfRun

/-- Reads a float. -/
def readFloat (reader : Reader) : Step Float :=
  reader.judge isNumberChar floatOfRun

/-- Reads `true` or `false`. -/
def readBool (reader : Reader) : Step Bool :=
  reader.judge isWordChar boolOfRun

end Reader

end CommandGrammar
