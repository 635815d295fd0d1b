/-!
# Input lines

The input of the program is a sequence of bytes. A line feed ends a line, a carriage return in front
of it belongs to the end of the line, and what follows the last line feed is a line if there is
anything. A line has to be the UTF-8 encoding of a text.
-/

set_option autoImplicit false

namespace CommandGrammar.Program

/-- The byte that ends a line. -/
def lineFeed : UInt8 := 10

/-- The byte that may stand in front of it. -/
def carriageReturn : UInt8 := 13

/-- The bytes of each line, with those of its end. -/
def rawLines : List UInt8 → List (List UInt8)
  | [] => []
  | byte :: rest =>
    if byte = lineFeed then [byte] :: rawLines rest
    else
      match rawLines rest with
      | [] => [[byte]]
      | line :: others => (byte :: line) :: others

/-- The bytes of a line without those of its end. -/
def withoutEnd (line : List UInt8) : List UInt8 :=
  if line.getLast? = some lineFeed then
    let line := line.dropLast
    if line.getLast? = some carriageReturn then line.dropLast else line
  else line

/-- The text of a line. -/
def lineText? (line : List UInt8) : Option String :=
  String.fromUTF8? ⟨(withoutEnd line).toArray⟩

/-- The texts of the lines. -/
def inputLines (input : List UInt8) : List (Option String) :=
  (rawLines input).map lineText?

end CommandGrammar.Program
