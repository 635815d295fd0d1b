import CommandGrammar.Decimal.Numeral

/-!
# Binary floating point

The bridge between exact numbers and 64-bit binary floating point. `roundRatio` gives the bits of
the float nearest to a ratio of natural numbers, a tie going to the even neighbour;
`Magnitude.ofFloat` gives back the exact value `mantissa · 2 ^ exponent` of a finite float. All
arithmetic between the two is on natural numbers.
-/

set_option autoImplicit false

namespace CommandGrammar.Decimal

/-- The whole number nearest to a ratio; of two equally near ones the even one. -/
def roundHalfEven (num den : Nat) : Nat :=
  let quotient := num / den
  let remainder := num % den
  if 2 * remainder < den then quotient
  else if den < 2 * remainder then quotient + 1
  else if quotient % 2 = 0 then quotient else quotient + 1

/-- Whether `base ^ exponent ≤ num / den`. -/
def powerLe (base : Nat) (exponent : Int) (num den : Nat) : Bool :=
  if 0 ≤ exponent then Nat.pow base exponent.toNat * den ≤ num
  else den ≤ num * Nat.pow base (-exponent).toNat

/-- The largest power of two that is at most the ratio of two positive numbers. -/
def binaryOrder (num den : Nat) : Int :=
  let estimate : Int := (Nat.log2 num : Int) - (Nat.log2 den : Int)
  if powerLe 2 estimate num den then estimate else estimate - 1

/-- The largest power of ten that is at most the ratio of two positive numbers. -/
def decimalOrder (num den : Nat) : Int :=
  let estimate := Int.fdiv (binaryOrder num den * 30103) 100000
  if powerLe 10 (estimate + 1) num den then estimate + 1
  else if powerLe 10 estimate num den then estimate else estimate - 1

/-- The bits of positive infinity. -/
def infinityBits : Nat :=
  0x7FF0000000000000

/-- The bits of the float nearest to a ratio. -/
def roundRatio (num den : Nat) : Nat :=
  if num = 0 then 0
  else
    let exponent := max (binaryOrder num den - 52) (-1074)
    let mantissa :=
      if 0 ≤ exponent then roundHalfEven num (den * Nat.pow 2 exponent.toNat)
      else roundHalfEven (num * Nat.pow 2 (-exponent).toNat) den
    min ((exponent + 1074).toNat * Nat.pow 2 52 + mantissa) infinityBits

/-- The bits of the float nearest to `digits · 10 ^ exponent`. An order far beyond the largest float
is infinite and one far below the smallest is zero, so that no huge power is ever formed. -/
def Numeral.magnitudeBits (numeral : Numeral) : Nat :=
  let order := numeral.exponent + ((toDigits numeral.digits).length : Int)
  if numeral.digits = 0 || order < -400 then 0
  else if 400 < order then infinityBits
  else if 0 ≤ numeral.exponent then roundRatio (numeral.digits * Nat.pow 10 numeral.exponent.toNat) 1
  else roundRatio numeral.digits (Nat.pow 10 (-numeral.exponent).toNat)

/-- The float with the given sign and magnitude bits. -/
def floatOfBits (negative : Bool) (magnitude : Nat) : Float :=
  Float.ofBits (UInt64.ofNat (if negative then magnitude + Nat.pow 2 63 else magnitude))

/-- The float nearest to a decimal number. -/
def Numeral.toFloat (numeral : Numeral) : Float :=
  floatOfBits numeral.negative numeral.magnitudeBits

/-- Reads a float: a decimal number, or one of the words `inf`, `infinity` and `nan` in any ASCII
case behind an optional sign. -/
def readFloat? (text : List Char) : Option Float :=
  let (negative, unsigned) := takeSign text
  match String.ofList (unsigned.map Char.toLower) with
  | "inf" | "infinity" => some (floatOfBits negative infinityBits)
  | "nan" => some (floatOfBits negative (infinityBits + Nat.pow 2 51))
  | _ => (Numeral.readUnsigned? negative unsigned).map Numeral.toFloat

/-- The absolute value `mantissa · 2 ^ exponent` of a float. `atPower` marks a value whose lower
neighbour is half as far away as its upper one. -/
structure Magnitude where
  mantissa : Nat
  exponent : Int
  atPower : Bool

/-- The largest finite float. -/
def largestFloat : Float :=
  Float.ofBits 0x7FEFFFFFFFFFFFFF

/-- Whether the sign bit of a float is set. -/
def isNegative (x : Float) : Bool :=
  Nat.pow 2 63 ≤ x.toBits.toNat

/-- The exact absolute value of a finite float. -/
def Magnitude.ofFloat (x : Float) : Magnitude :=
  let bits : Nat := x.toBits.toNat % Nat.pow 2 63
  let fraction : Nat := bits % Nat.pow 2 52
  let biased : Nat := bits / Nat.pow 2 52
  if biased = 0 then ⟨fraction, -1074, false⟩
  else ⟨fraction + Nat.pow 2 52, (biased : Int) - 1075, fraction = 0 && 1 < biased⟩

/-- The magnitude as a ratio of natural numbers. -/
def Magnitude.ratio (magnitude : Magnitude) : Nat × Nat :=
  if 0 ≤ magnitude.exponent then (magnitude.mantissa * Nat.pow 2 magnitude.exponent.toNat, 1)
  else (magnitude.mantissa, Nat.pow 2 (-magnitude.exponent).toNat)

end CommandGrammar.Decimal
