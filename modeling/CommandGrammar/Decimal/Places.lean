import CommandGrammar.Decimal.Binary64

/-!
# Fixed decimal places

A finite float written with a fixed number of places after the point. The exact value is rounded,
and a half goes to the even neighbour.
-/

set_option autoImplicit false

namespace CommandGrammar.Decimal

/-- Writes `units / 10 ^ places` with all its places. -/
def pointBefore (places units : Nat) : List Char :=
  let digits := toDigits units
  let padded := List.replicate (places + 1 - digits.length) '0' ++ digits
  let whole := padded.length - places
  padded.take whole ++ (if places = 0 then [] else '.' :: padded.drop whole)

/-- The text of a finite float with the given number of places after the point. -/
def showPlaces (places : Nat) (x : Float) : String :=
  let (num, den) := (Magnitude.ofFloat x).ratio
  let units := roundHalfEven (num * Nat.pow 10 places) den
  let sign := if isNegative x then ['-'] else []
  String.ofList (sign ++ pointBefore places units)

end CommandGrammar.Decimal
