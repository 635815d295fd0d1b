import CommandGrammar.Session.World

/-!
# The text of a value

A value written as a JSON object with one member that names the kind of the value, without a space.
A float is written as a text, and the members of named arguments stand in ascending order.
-/

set_option autoImplicit false

namespace CommandGrammar.Session

/-- Four hexadecimal digits. -/
def hexDigits (code : Nat) : List Char :=
  let digits := Nat.toDigits 16 code
  List.replicate (4 - digits.length) '0' ++ digits

/-- How a character is spelled inside a JSON text. -/
def escapeChar (c : Char) : List Char :=
  if c = '"' || c = '\\' then ['\\', c]
  else if c = '\n' then ['\\', 'n']
  else if c = '\r' then ['\\', 'r']
  else if c = '\t' then ['\\', 't']
  else if c = '\x08' then ['\\', 'b']
  else if c = '\x0c' then ['\\', 'f']
  else if c.toNat < 0x20 then ['\\', 'u'] ++ hexDigits c.toNat
  else [c]

/-- A JSON text. -/
def jsonText (text : String) : String :=
  String.ofList (['"'] ++ text.toList.flatMap escapeChar ++ ['"'])

/-- A JSON list. -/
def jsonList (items : List String) : String :=
  "[" ++ ",".intercalate items ++ "]"

/-- A JSON object. -/
def jsonObject (members : List (String × String)) : String :=
  "\x7b" ++ ",".intercalate (members.map fun entry => jsonText entry.1 ++ ":" ++ entry.2) ++ "\x7d"

/-- The text of a raw value. -/
def rawText : Raw → String
  | .int value => jsonObject [("i32", showInt value)]
  | .float value => jsonObject [("f64", jsonText (Decimal.showFloat value))]
  | .bool value => jsonObject [("bool", if value then "true" else "false")]
  | .text value => jsonObject [("string", jsonText value)]

/-- The entries of a keyed list, their keys in ascending order. -/
def sortedEntries {α : Type} (entries : List (String × α)) : List (String × α) :=
  (Ascending.ofList (Assoc.names entries)).filterMap fun name =>
    (entries.lookup name).map fun value => (name, value)

/-- The text of a value. -/
def valueText : Value Extra → String
  | .raw value => rawText value
  | .flags found => jsonObject [("flags", jsonList ((Ascending.ofList found).map jsonText))]
  | .named found =>
    jsonObject
      [("named", jsonObject ((sortedEntries found).map fun entry => (entry.1, rawText entry.2)))]
  | .host (.candidate candidate) =>
    jsonObject [("candidate", jsonList [jsonText candidate.id, jsonText candidate.label])]
  | .host (.entity member) => jsonObject [("entity", jsonText member.name)]

/-- The text of a value that may be absent. -/
def optionText : Option (Value Extra) → String
  | some value => valueText value
  | none => "none"

end CommandGrammar.Session
