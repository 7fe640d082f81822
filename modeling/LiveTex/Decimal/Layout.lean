import LiveTex.Decimal.Digits
import LiveTex.Decimal.Shortest

/-!
How a decimal is laid out: the point inside or beside the digits, or one digit before the point and an
exponent. A `Style` records what a number format decides.
-/

namespace LiveTex.Decimal

/-- The decisions of a number format. A number is written plainly when the exponent of its first digit
lies between `plainFrom` and `plainTo`, bounds that are absent when there is no limit. -/
structure Style where
  plainFrom : Option Int
  plainTo : Option Int
  /-- Whether a whole number gets `.0`. -/
  pointZero : Bool
  /-- Whether an exponent that is not negative gets a plus sign. -/
  plusSign : Bool
  tie : Tie
  deriving Repr, DecidableEq

/-- The digits with a point: `point` digits stand before it. -/
def plain (pointZero : Bool) (ds : Text) (point : Int) : Text :=
  if point ≤ 0 then ['0', '.'] ++ zeros (-point).toNat ++ ds
  else if ds.length ≤ point.toNat then
    ds ++ zeros (point.toNat - ds.length) ++ if pointZero then ['.', '0'] else []
  else ds.take point.toNat ++ ['.'] ++ ds.drop point.toNat

/-- One digit, a point if more follow, and the exponent. -/
def scientific (plusSign : Bool) (ds : Text) (exponent : Int) : Text :=
  let mantissa := if ds.length ≤ 1 then ds else ds.take 1 ++ ['.'] ++ ds.drop 1
  let sign := if exponent < 0 then ['-'] else if plusSign then ['+'] else []
  mantissa ++ ['e'] ++ sign ++ digits exponent.natAbs

/-- A decimal in the given style. The exponent of the first digit decides between the layouts. -/
def Scaled.layout (style : Style) (d : Scaled) : Text :=
  if d.coefficient = 0 then plain style.pointZero ['0'] 1
  else
    let ds := digits d.coefficient
    let exponent := d.scale + ds.length - 1
    let ds := (ds.reverse.dropWhile (· == '0')).reverse
    let small := style.plainFrom.any (exponent < ·)
    let large := style.plainTo.any (· < exponent)
    if small || large then scientific style.plusSign ds exponent
    else plain style.pointZero ds (exponent + 1)

/-- The sign of a negative number. -/
def sign (negative : Bool) : Text := if negative then ['-'] else []

/-- The magnitude of a finite double in the given style, with its sign. -/
def layout (style : Style) (negative : Bool) (mantissa : Nat) (exponent : Int) : Text :=
  sign negative ++ (shortest style.tie mantissa exponent).layout style

/-- The exact magnitude `mantissa * 2 ^ exponent` rounded to a number of places after the point. -/
def fixed (places : Nat) (mantissa : Nat) (exponent : Int) : Text :=
  let scaled := roundQuotient (mantissa * tenTo places * twoTo exponent.toNat) (twoTo (-exponent).toNat)
  let ds := padded (places + 1) (digits scaled)
  ds.take (ds.length - places) ++ ['.'] ++ ds.drop (ds.length - places)

end LiveTex.Decimal
