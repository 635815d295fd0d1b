import CommandGrammar.Text.Printable

/-!
# Quoted texts

A text between double quotes, in which everything that would not be seen is spelled out: a quote and
a backslash behind a backslash, tab, line feed, carriage return and NUL by their letter, and any
other character that cannot be printed, or that would attach to the one before it, by its code
point.
-/

set_option autoImplicit false

namespace CommandGrammar.Text

/-- The code point of a character in hexadecimal digits. -/
def hexCode (c : Char) : List Char :=
  Nat.toDigits 16 c.toNat

/-- How a character is spelled inside a quoted text. -/
def quoteChar (c : Char) : List Char :=
  if c = '\x00' then ['\\', '0']
  else if c = '\t' then ['\\', 't']
  else if c = '\r' then ['\\', 'r']
  else if c = '\n' then ['\\', 'n']
  else if c = '"' || c = '\\' then ['\\', c]
  else if isGraphemeExtend c || !isPrintable c then
    ['\\', 'u', '\x7b'] ++ hexCode c ++ ['\x7d']
  else [c]

/-- The text between double quotes. -/
def quoted (text : String) : String :=
  String.ofList (['"'] ++ text.toList.flatMap quoteChar ++ ['"'])

end CommandGrammar.Text
