import CommandGrammar.Line.Cursor

/-!
# Forms of arguments

A form says what the text of an argument looks like and reads a raw value out of it. The six forms
of the library leave the reader where it stood when they fail; a `foreign` form is whatever a host
supplies, and nothing is promised of it. A form does not ask for anything about the text behind the
value it has read: that is the business of the node that holds the form.

`Form.read` says what a form makes of a run of characters. `Form.readAt` says how it goes about it at a byte
offset: which step reads, what is asked of the value then, and from which refusals the cursor goes back.
-/

set_option autoImplicit false

namespace CommandGrammar

/-- What the text of an argument looks like. -/
inductive Form where
  /-- One unquoted word. -/
  | word
  /-- The rest of the line. -/
  | greedy
  /-- A 32-bit integer between two bounds, both included. -/
  | integer (low high : Int32)
  /-- A float between two bounds, both included. -/
  | float (low high : Float)
  /-- `true` or `false`. -/
  | boolean
  /-- A token up to the next blank, kept as a text for a mapper to resolve. -/
  | selector
  /-- A form of the host's own, with its description. -/
  | foreign (description : String) (read : Reader → Reader.Step Raw)

namespace Form

/-- Any 32-bit integer. -/
def anyInteger : Form :=
  .integer Int32.minValue Int32.maxValue

/-- Any 32-bit integer from a bound on. -/
def integerFrom (low : Int32) : Form :=
  .integer low Int32.maxValue

/-- Any finite float. -/
def anyFloat : Form :=
  .float (-Decimal.largestFloat) Decimal.largestFloat

/-- Any finite float from a bound on. -/
def floatFrom (low : Float) : Form :=
  .float low Decimal.largestFloat

/-- Whether the form is one of the library's own. -/
def isNative : Form → Bool
  | .foreign .. => false
  | _ => true

/-- A short description of the values of the form. -/
def describe : Form → String
  | .word => "word"
  | .greedy => "greedy string"
  | .integer .. => "integer"
  | .float .. => "float"
  | .boolean => "boolean"
  | .selector => "selector"
  | .foreign description _ => description

/-- The text of a run, which must not be empty. -/
def textOfRun (run : List Char) : Except ParseError Raw :=
  if run.isEmpty then .error .expectedValue else .ok (.text (String.ofList run))

/-- The integer of a run, which must lie between the bounds. -/
def boundedInt (low high : Int32) (run : List Char) : Except ParseError Raw :=
  match Reader.intOfRun run with
  | .error error => .error error
  | .ok value =>
    if value < low then .error (.integerTooLow value low)
    else if high < value then .error (.integerTooHigh value high)
    else .ok (.int value)

/-- The float of a run, which must lie between the bounds. -/
def boundedFloat (low high : Float) (run : List Char) : Except ParseError Raw :=
  match Reader.floatOfRun run with
  | .error error => .error error
  | .ok value =>
    if value < low then .error (.floatTooLow value low)
    else if high < value then .error (.floatTooHigh value high)
    else .ok (.float value)

/-- Reads a value of the form at the position of the reader. -/
def read : Form → Reader → Reader.Step Raw
  | .word => Reader.judge Reader.isWordChar textOfRun
  | .greedy => Reader.judge (fun _ => true) textOfRun
  | .integer low high => Reader.judge Reader.isNumberChar (boundedInt low high)
  | .float low high => Reader.judge Reader.isNumberChar (boundedFloat low high)
  | .boolean => Reader.judge Reader.isWordChar fun run => (Reader.boolOfRun run).map .bool
  | .selector => Reader.judge (fun c => !Text.isBlank c) textOfRun
  | .foreign _ read => read

/-- What was taken is the value, which must not be empty. -/
def ofTaken (taken : Option (List Char × Cursor)) : Option (Cursor.Step Raw) := do
  let (text, after) ← taken
  return (textOfRun text, after)

/-- A number that was read must lie between the bounds. It has been passed over by then, and the cursor goes
back to where it was if the number is refused. -/
def boundedAt {α : Type} [LT α] [DecidableRel fun first second : α => first < second]
    (read : Cursor → Option (Cursor.Step α)) (low high : α) (tooLow tooHigh : α → α → ParseError)
    (raw : α → Raw) (cursor : Cursor) : Option (Cursor.Step Raw) := do
  let (result, after) ← read cursor
  match result with
  | .error error => return (.error error, after)
  | .ok value =>
    if value < low then return (.error (tooLow value low), after.moveTo cursor.offset)
    else if high < value then return (.error (tooHigh value high), after.moveTo cursor.offset)
    else return (.ok (raw value), after)

/-- Reads a value of the form at a cursor. -/
def readAt : Form → Cursor → Option (Cursor.Step Raw)
  | .word, cursor => ofTaken cursor.takeWord
  | .greedy, cursor => ofTaken cursor.takeRest
  | .integer low high, cursor =>
    boundedAt Cursor.readInt low high .integerTooLow .integerTooHigh .int cursor
  | .float low high, cursor =>
    boundedAt Cursor.readFloat low high .floatTooLow .floatTooHigh .float cursor
  | .boolean, cursor => do
    let (result, after) ← cursor.readBool
    return (result.map .bool, after)
  | .selector, cursor => ofTaken cursor.takeToken
  | .foreign _ read, cursor =>
    let (result, after) := read (Reader.atOffset cursor.line cursor.offset)
    some (result, after.toCursor)

/-- Reads a value from the start of a text of its own. The value may end before the text does. -/
def readToken (form : Form) (token : List Char) : Except ParseError Raw :=
  (form.read (Reader.ofLine token)).1

end Form

end CommandGrammar
