import LiveTex.Decimal.Binary

/-!
The shortest decimal that reads back as a given double. The reals that round to the double form an
interval; grids of decimals are tried from coarse to fine, and the first grid with a point in the
interval gives the digits.
-/

namespace LiveTex.Decimal

/-- Where to go from the midpoint between two decimals that both read back. -/
inductive Tie where
  | up
  | even
  deriving Repr, DecidableEq

/-- The number `coefficient * 10 ^ scale`. -/
structure Scaled where
  coefficient : Nat
  scale : Int
  deriving Repr, DecidableEq

/-- The reals that round to `value / unit`: from `low / unit` to `high / unit`, ends included when
`closed`. -/
structure Interval where
  low : Nat
  value : Nat
  high : Nat
  unit : Nat
  closed : Bool
  deriving Repr, DecidableEq

/-- The reals that round to the double `mantissa * 2 ^ exponent`. Below a power of two the doubles lie
twice as close, so the interval reaches only half as far down. -/
def Interval.around (mantissa : Nat) (exponent : Int) : Interval :=
  let scale := twoTo (exponent - 2).toNat
  let narrow := mantissa = twoTo 52 ∧ -1074 < exponent
  { low := (4 * mantissa - if narrow then 1 else 2) * scale
    value := 4 * mantissa * scale
    high := (4 * mantissa + 2) * scale
    unit := twoTo (2 - exponent).toNat
    closed := mantissa % 2 = 0 }

/-- Whether `num / unit` lies in the interval. -/
def Interval.holds (i : Interval) (num : Nat) : Bool :=
  if i.closed then i.low ≤ num && num ≤ i.high else i.low < num && num < i.high

/-- The interval in units of `10 ^ scale`. -/
def Interval.inUnits (i : Interval) (scale : Int) : Interval :=
  let up := tenTo (-scale).toNat
  { i with low := i.low * up, value := i.value * up, high := i.high * up
           unit := i.unit * tenTo scale.toNat }

/-- The better of the two multiples of `10 ^ scale` next to the value, if one reads back. -/
def Interval.onGrid (i : Interval) (tie : Tie) (scale : Int) : Option Nat :=
  let g := i.inUnits scale
  let below := g.value / g.unit
  let above := below + 1
  match g.holds (below * g.unit), g.holds (above * g.unit) with
  | false, false => none
  | true, false => some below
  | false, true => some above
  | true, true =>
    let twice := 2 * (g.value % g.unit)
    if twice < g.unit then some below
    else if g.unit < twice then some above
    else match tie with
      | .up => some above
      | .even => some (below + below % 2)

/-- The coarsest grid with a point in the interval, trying `fuel` grids from `10 ^ scale` down. -/
def Interval.search (i : Interval) (tie : Tie) : (fuel : Nat) → (scale : Int) → Scaled
  | 0, scale => ⟨(i.inUnits scale).value / (i.inUnits scale).unit, scale⟩
  | fuel + 1, scale => match i.onGrid tie scale with
    | some coefficient => ⟨coefficient, scale⟩
    | none => search i tie fuel (scale - 1)

/-- A power of ten above `mantissa * 2 ^ exponent`; it overshoots by less than three places. -/
def topScale (mantissa : Nat) (exponent : Int) : Int :=
  ((Nat.log2 mantissa : Int) + 1 + exponent) * 30103 / 100000 + 1

/-- The shortest decimal that reads back as the double `mantissa * 2 ^ exponent`, and among those the
nearest one. Seventeen digits always suffice. -/
def shortest (tie : Tie) (mantissa : Nat) (exponent : Int) : Scaled :=
  if mantissa = 0 then ⟨0, 0⟩
  else (Interval.around mantissa exponent).search tie 24 (topScale mantissa exponent)

end LiveTex.Decimal
