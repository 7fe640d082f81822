import LiveTex.Decimal.Layout

/-!
The text that shows a result: the value behind an equals sign.
-/

namespace LiveTex

/-- How a result is written when it is not rounded: plainly from a millionth up to below `10 ^ 21`, with
an exponent outside. -/
def resultStyle : Decimal.Style where
  plainFrom := some (-6)
  plainTo := some 20
  pointZero := false
  plusSign := true
  tie := .up

/-- With more characters than this after the point, a result is rounded. -/
def longestFraction : Nat := 5

/-- The places that a rounded result keeps. -/
def roundedPlaces : Nat := 4

/-- The shortest form of a finite number. Both zeros are written without a sign. -/
def shortestForm (negative : Bool) (mantissa : Nat) (exponent : Int) : Text :=
  if mantissa = 0 then ['0'] else Decimal.layout resultStyle negative mantissa exponent

/-- The number of characters after the first point. -/
def lengthAfterPoint (t : Text) : Nat :=
  match Text.cutAt (· == '.') t with
  | none => 0
  | some (_, rest) => rest.length

/-- The text of a result; a missing one is an error, and so is a NaN. -/
def resultText (value : Option Float) : Text :=
  match value.map Decimal.Class.of with
  | none | some .nan => "=Error".toList
  | some (.infinite negative) => ['='] ++ Decimal.sign negative ++ "Infinity".toList
  | some (.finite negative mantissa exponent) =>
    let exact := shortestForm negative mantissa exponent
    if longestFraction < lengthAfterPoint exact then
      ['='] ++ Decimal.sign negative ++ Decimal.fixed roundedPlaces mantissa exponent
    else '=' :: exact

end LiveTex
