import CommandGrammar.Decimal.Binary64
import CommandGrammar.Text.Blank

/-!
# Shortest decimal text

A finite float is written with the fewest digits that read back as the same float, and of those with
the ones nearest to its exact value; of two equally near ones with the greater. `Interval` is the
set of numbers that round to the float: it reaches half way to each neighbour and holds its ends
exactly when the mantissa is even. `shortestDigits` tests the two grid points around the value for
one digit, then for two, and so on; a grid that meets the interval at all meets it in one of those
two points.

The text is positional: an exponent is never written, whole numbers carry no point, and a negative
zero keeps its sign.
-/

set_option autoImplicit false

namespace CommandGrammar.Decimal

/-- Numbers over one denominator: a value, and the ends of the interval that rounds to it. -/
structure Interval where
  low : Nat
  value : Nat
  high : Nat
  den : Nat
  closed : Bool

/-- The interval of the numbers that round to a magnitude. -/
def Interval.ofMagnitude (magnitude : Magnitude) : Interval :=
  let scale := Nat.pow 2 magnitude.exponent.toNat
  let quarters := 4 * magnitude.mantissa
  { low := (quarters - (if magnitude.atPower then 1 else 2)) * scale
    value := quarters * scale
    high := (quarters + 2) * scale
    den := 4 * Nat.pow 2 (-magnitude.exponent).toNat
    closed := magnitude.mantissa % 2 = 0 }

/-- Rescales an interval by a power of ten, so that the grid of that power becomes the whole
numbers. -/
def Interval.scaled (interval : Interval) (power : Int) : Interval :=
  if 0 ≤ power then { interval with den := interval.den * Nat.pow 10 power.toNat }
  else
    let factor := Nat.pow 10 (-power).toNat
    { interval with
      low := interval.low * factor
      value := interval.value * factor
      high := interval.high * factor }

/-- Whether a whole number lies in the interval. -/
def Interval.holds (interval : Interval) (n : Nat) : Bool :=
  if interval.closed then interval.low ≤ n * interval.den && n * interval.den ≤ interval.high
  else interval.low < n * interval.den && n * interval.den < interval.high

/-- The whole number of the interval that is nearest to its value, if it holds a neighbour of it. A
half goes up. -/
def Interval.nearest? (interval : Interval) : Option Nat :=
  let below := interval.value / interval.den
  match interval.holds below, interval.holds (below + 1) with
  | true, false => some below
  | false, true => some (below + 1)
  | false, false => none
  | true, true => if 2 * (interval.value % interval.den) < interval.den then some below
    else some (below + 1)

/-- The digits and the power of ten of the shortest decimal that rounds to a positive magnitude.
Seventeen digits always suffice. -/
def shortestDigits (magnitude : Magnitude) : Nat × Int :=
  let interval := Interval.ofMagnitude magnitude
  let order := decimalOrder interval.value interval.den
  let found := (List.range 17).findSome? fun (extra : Nat) =>
    let power := order - (extra : Int)
    (interval.scaled power).nearest?.map fun digits => (digits, power)
  found.getD (0, 0)

/-- Writes `digits · 10 ^ power` without an exponent. -/
def positional (digits : Nat) (power : Int) : List Char :=
  let all := toDigits digits
  let kept := Text.dropEndWhile (· == '0') all
  let power := power + ((all.length - kept.length : Nat) : Int)
  let whole := (kept.length : Int) + power
  if 0 ≤ power then kept ++ List.replicate power.toNat '0'
  else if 0 < whole then kept.take whole.toNat ++ '.' :: kept.drop whole.toNat
  else '0' :: '.' :: List.replicate (-whole).toNat '0' ++ kept

/-- The text of a float: the shortest decimal that reads back, or the name of a value that has none.
-/
def showFloat (x : Float) : String :=
  let magnitudeBits := x.toBits.toNat % Nat.pow 2 63
  let sign := if isNegative x then ['-'] else []
  if infinityBits < magnitudeBits then "NaN"
  else if magnitudeBits = infinityBits then String.ofList (sign ++ "inf".toList)
  else if magnitudeBits = 0 then String.ofList (sign ++ ['0'])
  else
    let (digits, power) := shortestDigits (Magnitude.ofFloat x)
    String.ofList (sign ++ positional digits power)

end CommandGrammar.Decimal
