import LiveTex.Decimal.Binary
import LiveTex.Decimal.Digits

/-!
Reading an unsigned decimal such as `12`, `1.5` or `.5` as the nearest double.
-/

namespace LiveTex.Decimal

/-- The double nearest to an unsigned decimal. -/
def read (t : Text) : Float :=
  match Text.cutAt (· == '.') t with
  | none => nearest (value t) 1
  | some (whole, fraction) => nearest (value (whole ++ fraction)) (tenTo fraction.length)

end LiveTex.Decimal
