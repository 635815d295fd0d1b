import CommandGrammar.Decimal.Binary64
import CommandGrammar.Settings.FieldPattern
import CommandGrammar.Text.Blank
import CommandGrammar.Text.Bytes
import CommandGrammar.Text.LetterCase
import CommandGrammar.Text.Pieces

/-!
# Log filters

A log filter is a list of directives between commas. A directive names a level, or a target, a span
with fields, or both, and a level for them: `target[span{field=value}]=level`. What is decided here
is whether a filter can be used, and the first thing that is wrong with it.

Blanks around a directive do not count for its form. The places of its parts, however, are counted
without the blanks in front of it and looked up in the text that has them, so that a directive with
blanks in front can be used only if the parts that are found in this way can be.
-/

set_option autoImplicit false

namespace CommandGrammar.LogFilter

open Text

/-- What can be wrong with a directive. -/
inductive Fault where
  /-- It does not have the form of a directive. -/
  | form
  /-- Its level is none. -/
  | level
  /-- The value of a field is neither a scalar nor a pattern that can be used. -/
  | fieldValue (fault : FieldPattern.Fault)

/-- What is said about a fault. -/
def Fault.message : Fault → String
  | .form => "invalid filter directive"
  | .level =>
    "error parsing level filter: expected one of \"off\", \"error\", \"warn\", \"info\", "
      ++ "\"debug\", \"trace\", or a number 0-5"
  | .fieldValue fault => "invalid field filter: " ++ fault.message

/-- The names of the levels. -/
def levelNames : List String :=
  ["off", "error", "warn", "info", "debug", "trace"]

/-- The number that digits stand for, behind an optional plus sign. -/
def levelNumber? (text : List Char) : Option Nat :=
  let digits := if text.head? = some '+' then text.tail else text
  if digits.isEmpty || !digits.all Char.isDigit then none else some (Decimal.ofDigits digits)

/-- Whether a text is a level: nothing at all, a number up to five, or the name of one. -/
def isLevel (text : List Char) : Bool :=
  match levelNumber? text with
  | some number => number ≤ 5
  | none =>
    text.isEmpty || levelNames.any fun name => equalIgnoringAsciiCase name (String.ofList text)

/-- Checks a field, with or without a value. A value that is a number is not taken as a pattern. -/
def checkField (text : List Char) : Except Fault Unit :=
  match cutAt? '=' text with
  | none => .ok ()
  | some (_, rest) =>
    let value := rest.takeWhile (· != '=')
    if (Decimal.readFloat? value).isSome then .ok ()
    else (FieldPattern.check value).mapError .fieldValue

/-- Where the scan of a directive stands. The numbers are the places of parts. -/
inductive Place where
  | start
  | levelOrTarget
  | span
  | field (start : Nat)
  | fields
  | target
  | level (start : Nat)

/-- The part of a text between two places. -/
def part (text : List Char) (start stop : Nat) : List Char :=
  (splitAtByte (stop - start) (splitAtByte start text).2).1

/-- Goes on with the character at a place of a directive. -/
def step (written : List Char) (position : Nat) (c : Char) : Place → Except Fault Place
  | .start =>
    if c = '[' then .ok .span
    else if c = '-' || c = ':' || c = '_' || isAlphanumeric c then .ok .levelOrTarget
    else .error .form
  | .levelOrTarget =>
    if c = '=' then .ok (.level (position + 1))
    else if c = '[' then .ok .span
    else .ok .levelOrTarget
  | .span =>
    if c = ']' then .ok .target
    else if c = '{' then .ok (.field (position + 1))
    else .ok .span
  | .field start =>
    if c = '}' then
      let field := part written start position
      if field.isEmpty then .error .form else (checkField field).map fun _ => .fields
    else .ok (.field start)
  | .fields => if c = ']' then .ok .target else .error .form
  | .target => if c = '=' then .ok (.level (position + 1)) else .error .form
  | .level start => .ok (.level start)

/-- Ends a directive. -/
def finish (written : List Char) : Place → Except Fault Unit
  | .levelOrTarget | .target => .ok ()
  | .level start => if isLevel (splitAtByte start written).2 then .ok () else .error .level
  | .start | .span | .field _ | .fields => .error .form

/-- Goes through the rest of a directive. -/
def scan (written : List Char) : Nat → Place → List Char → Except Fault Unit
  | _, place, [] => finish written place
  | position, place, c :: rest => do
    scan written (position + c.utf8Size) (← step written position c place) rest

/-- Checks a directive. -/
def checkDirective (written : List Char) : Except Fault Unit :=
  scan written 0 .start (trim written)

/-- Checks a filter; empty pieces between commas do not count. -/
def check (filter : List Char) : Except Fault Unit :=
  ((splitOn (· = ',') filter).filter fun piece => !piece.isEmpty).forM checkDirective

end CommandGrammar.LogFilter
