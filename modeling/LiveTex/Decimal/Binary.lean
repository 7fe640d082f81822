/-!
The exact value of a double: a sign and a natural number times a power of two. The two directions are
taking a double apart and rounding a quotient of natural numbers to the nearest double.
-/

namespace LiveTex.Decimal

/-- A power of two. -/
def twoTo (n : Nat) : Nat := Nat.pow 2 n

/-- A power of ten. -/
def tenTo (n : Nat) : Nat := Nat.pow 10 n

/-- What a double stands for. -/
inductive Class where
  | nan
  | infinite (negative : Bool)
  /-- The magnitude is `mantissa * 2 ^ exponent`. -/
  | finite (negative : Bool) (mantissa : Nat) (exponent : Int)
  deriving Repr, DecidableEq

/-- Takes the bits of a double apart. Subnormal numbers share the least exponent. -/
def Class.ofBits (bits : UInt64) : Class :=
  let n := bits.toNat
  let negative := n / twoTo 63 == 1
  let exponent : Nat := n / twoTo 52 % twoTo 11
  let fraction := n % twoTo 52
  if exponent = 2047 then if fraction = 0 then .infinite negative else .nan
  else if exponent = 0 then .finite negative fraction (-1074)
  else .finite negative (twoTo 52 + fraction) ((exponent : Int) - 1075)

/-- What a double stands for. -/
def Class.of (x : Float) : Class := ofBits x.toBits

/-- The quotient rounded to the nearest natural number, a half going to the even neighbour. -/
def roundQuotient (num den : Nat) : Nat :=
  let quotient := num / den
  let twice := 2 * (num % den)
  if twice < den then quotient
  else if den < twice then quotient + 1
  else quotient + quotient % 2

/-- The exponent of the binary place that `num / den` is rounded to. -/
def lastPlace (num den : Nat) : Int :=
  let guess : Int := (Nat.log2 num : Int) - (Nat.log2 den : Int)
  let reached := if guess < 0 then den ≤ num * twoTo (-guess).toNat else den * twoTo guess.toNat ≤ num
  max (-1074) ((if reached then guess else guess - 1) - 52)

/-- The double nearest to `num / den`, ties to even. Subnormal and normal numbers need no separate
cases: a mantissa that reaches `2 ^ 52` carries into the exponent field. -/
def nearest (num den : Nat) : Float :=
  if num = 0 then 0.0
  else
    let place := lastPlace num den
    let mantissa :=
      if place < 0 then roundQuotient (num * twoTo (-place).toNat) den
      else roundQuotient num (den * twoTo place.toNat)
    let bits := (place + 1074).toNat * twoTo 52 + mantissa
    Float.ofBits (UInt64.ofNat (min bits (2047 * twoTo 52)))

end LiveTex.Decimal
