import LiveTex.Decimal.Binary

/-!
The cube root of a double, rounded to nearest. The integer part of the root of a scaled cube has more
bits than a double holds, so one extra bit that says whether the root is exact decides the rounding.
-/

namespace LiveTex.Formula

def cube (n : Nat) : Nat := n * n * n

/-- Adds to `root` every power of two below `2 ^ bits`, from the largest down, that keeps its cube at most
`n`. -/
def raiseRoot (n : Nat) : (bits : Nat) → (root : Nat) → Nat
  | 0, root => root
  | bits + 1, root =>
    let next := root + Decimal.twoTo bits
    raiseRoot n bits (if cube next ≤ n then next else root)

/-- The integer part of the cube root. -/
def integerCubeRoot (n : Nat) : Nat := raiseRoot n (Nat.log2 n / 3 + 1) 0

/-- The bits that the scaled root has below its leading bit. -/
def rootBits : Nat := 60

/-- The cube root of `mantissa * 2 ^ exponent`. -/
def cubeRootMagnitude (mantissa : Nat) (exponent : Int) : Float :=
  let third := exponent / 3 - rootBits
  let scaled := mantissa * Decimal.twoTo (exponent - 3 * third).toNat
  let root := integerCubeRoot scaled
  let twice := 2 * root + if cube root = scaled then 0 else 1
  let place := third - 1
  Decimal.nearest (twice * Decimal.twoTo place.toNat) (Decimal.twoTo (-place).toNat)

/-- The double nearest to the real cube root; zeros, infinities and NaN are their own. -/
def cubeRoot (x : Float) : Float :=
  match Decimal.Class.of x with
  | .nan | .infinite _ => x
  | .finite negative mantissa exponent =>
    if mantissa = 0 then x
    else if negative then -(cubeRootMagnitude mantissa exponent)
    else cubeRootMagnitude mantissa exponent

end LiveTex.Formula
