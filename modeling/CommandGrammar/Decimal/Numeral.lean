/-!
# Decimal numerals

Reading the digits that stand for a number. `readInteger?` takes an optional minus sign and digits;
`Numeral.read?` takes the general form with a sign, a point and an exponent. Both are all or
nothing: a text with anything left over is not a numeral.
-/

set_option autoImplicit false

namespace CommandGrammar.Decimal

/-- The value of a digit character. -/
def digitValue (c : Char) : Nat :=
  c.toNat - '0'.toNat

/-- The number that a run of digits stands for. -/
def ofDigits (digits : List Char) : Nat :=
  digits.foldl (fun value c => 10 * value + digitValue c) 0

/-- The digits of a number, most significant first. -/
def toDigits (value : Nat) : List Char :=
  (Nat.repr value).toList

/-- The number of a nonempty run of digits. -/
def readNat? (text : List Char) : Option Nat :=
  if !text.isEmpty && text.all Char.isDigit then some (ofDigits text) else none

/-- The number of an optional minus sign followed by digits. -/
def readInteger? : List Char → Option Int
  | '-' :: digits => (readNat? digits).map fun value => -(value : Int)
  | digits => (readNat? digits).map Int.ofNat

/-- The decimal text of an integer. -/
def showInteger (value : Int) : String :=
  toString value

/-- A decimal number `± digits · 10 ^ exponent`. -/
structure Numeral where
  negative : Bool
  digits : Nat
  exponent : Int
  deriving Repr, DecidableEq

/-- Takes an optional sign off a text; the flag says whether it was a minus. -/
def takeSign : List Char → Bool × List Char
  | '-' :: rest => (true, rest)
  | '+' :: rest => (false, rest)
  | rest => (false, rest)

/-- Reads an exponent mark, a sign and digits up to the end of the text; nothing counts as zero. -/
def readExponent? : List Char → Option Int
  | [] => some 0
  | mark :: rest =>
    if mark = 'e' || mark = 'E' then
      let (negative, digits) := takeSign rest
      (readNat? digits).map fun value => if negative then -(value : Int) else value
    else none

/-- Reads digits, an optional point with more digits, and an optional exponent. At least one digit
stands before or after the point. -/
def Numeral.readUnsigned? (negative : Bool) (text : List Char) : Option Numeral :=
  let whole := text.takeWhile Char.isDigit
  let (fraction, rest) :=
    match text.dropWhile Char.isDigit with
    | '.' :: rest => (rest.takeWhile Char.isDigit, rest.dropWhile Char.isDigit)
    | rest => ([], rest)
  if whole.isEmpty && fraction.isEmpty then none
  else
    (readExponent? rest).map fun exponent =>
      ⟨negative, ofDigits (whole ++ fraction), exponent - (fraction.length : Int)⟩

/-- Reads a decimal number with an optional sign. -/
def Numeral.read? (text : List Char) : Option Numeral :=
  let (negative, unsigned) := takeSign text
  Numeral.readUnsigned? negative unsigned

end CommandGrammar.Decimal
