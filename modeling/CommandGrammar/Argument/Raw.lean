import CommandGrammar.Decimal.Shortest

/-!
# Raw values and the errors of reading them

A raw value is what a form reads out of a command line. `ParseError` lists the ways in which no
value can be read at a position, each with the facts its message tells.
-/

set_option autoImplicit false

namespace CommandGrammar

/-- A value as it was read from the line. -/
inductive Raw where
  | int (value : Int32)
  | float (value : Float)
  | bool (value : Bool)
  | text (value : String)

namespace Raw

/-- The integer, if the value is one. -/
def int? : Raw → Option Int32
  | .int value => some value
  | _ => none

/-- The float, if the value is one. -/
def float? : Raw → Option Float
  | .float value => some value
  | _ => none

/-- The truth value, if the value is one. -/
def bool? : Raw → Option Bool
  | .bool value => some value
  | _ => none

/-- The text, if the value is one. -/
def text? : Raw → Option String
  | .text value => some value
  | _ => none

end Raw

/-- Why no value could be read at a position. -/
inductive ParseError where
  | expectedValue
  | expectedLiteral (literal : String)
  | expectedSeparator
  | expectedInteger
  | invalidInteger (found : String)
  | integerTooLow (found bound : Int32)
  | integerTooHigh (found bound : Int32)
  | expectedFloat
  | invalidFloat (found : String)
  | floatTooLow (found bound : Float)
  | floatTooHigh (found bound : Float)
  | expectedBool
  | invalidBool (found : String)

/-- The text of a 32-bit integer. -/
def showInt (value : Int32) : String :=
  Decimal.showInteger value.toInt

/-- What the error says to the person who typed the line. -/
def ParseError.message : ParseError → String
  | .expectedValue => "Expected a value"
  | .expectedLiteral literal => "Expected literal '" ++ literal ++ "'"
  | .expectedSeparator => "Expected whitespace to end one argument, but found trailing data"
  | .expectedInteger => "Expected integer"
  | .invalidInteger found => "Invalid integer '" ++ found ++ "'"
  | .integerTooLow found bound =>
    "Integer must not be less than " ++ showInt bound ++ ", found " ++ showInt found
  | .integerTooHigh found bound =>
    "Integer must not be more than " ++ showInt bound ++ ", found " ++ showInt found
  | .expectedFloat => "Expected float"
  | .invalidFloat found => "Invalid float '" ++ found ++ "'"
  | .floatTooLow found bound =>
    "Float must not be less than " ++ Decimal.showFloat bound ++ ", found "
      ++ Decimal.showFloat found
  | .floatTooHigh found bound =>
    "Float must not be more than " ++ Decimal.showFloat bound ++ ", found "
      ++ Decimal.showFloat found
  | .expectedBool => "Expected boolean"
  | .invalidBool found =>
    "Invalid boolean, expected 'true' or 'false' but found '" ++ found ++ "'"

end CommandGrammar
