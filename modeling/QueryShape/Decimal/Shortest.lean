import QueryShape.Binary64

/-!
# Shortest decimals

The shortest decimal of a binary64 number lies on the coarsest grid `10 ^ k` that
has a point which rounds back to the number; of two such points it is the nearer
one, and the even one when both are equally near.  All comparisons are made in
quarters of units of `2 ^ -1074`, where the bounds of the rounding interval are
whole numbers.
-/

namespace QueryShape

/-- The decimal `digits * 10 ^ exponent`. -/
structure Decimal where
  digits : Nat
  exponent : Int
deriving DecidableEq

namespace Binary64

/-- The reals that round to a number, in quarters of units; the ends belong to it when the
mantissa is even. -/
structure Interval where
  low : Nat
  value : Nat
  high : Nat
  closed : Bool

/-- The interval below a power of two is half as wide as the one above it. -/
def interval (x : Binary64) : Interval where
  low := 4 * x.units - (if x.mantissa = 2 ^ 52 ∧ 0 < x.scale then 1 else 2) * 2 ^ x.scale
  value := 4 * x.units
  high := 4 * x.units + 2 * 2 ^ x.scale
  closed := x.mantissa % 2 == 0

/-- The decimal on the grid `10 ^ k` that rounds back and is nearest, if one does.  The grid is
compared with the interval after both are multiplied by `10 ^ -k` where `k` is negative. -/
def onGrid? (interval : Interval) (k : Int) : Option Decimal :=
  let step := 2 ^ (unitScale + 2) * 10 ^ k.toNat
  let factor := 10 ^ (-k).toNat
  let inside (d : Nat) : Bool :=
    let point := d * step
    if interval.closed then
      interval.low * factor ≤ point && point ≤ interval.high * factor
    else
      interval.low * factor < point && point < interval.high * factor
  let value := interval.value * factor
  let below := value / step
  let nearer :=
    if 2 * (value % step) < step then below
    else if 2 * (value % step) == step && below % 2 == 0 then below
    else below + 1
  let farther := if nearer == below then below + 1 else below
  if nearer ≠ 0 ∧ inside nearer then some ⟨nearer, k⟩
  else if farther ≠ 0 ∧ inside farther then some ⟨farther, k⟩
  else none

/-- An exponent at or above that of the leading decimal digit: `log2` times `0.30103`, and one. -/
def topExponent (x : Binary64) : Int :=
  ((Nat.log2 x.units : Int) + 1 - unitScale) * 30103 / 100000 + 1

/-- Tries grids from coarse to fine.  Eighteen digits always hit, so the exact expansion at the
end is never reached. -/
def shortest (x : Binary64) : Decimal :=
  let interval := x.interval
  let top := x.topExponent
  ((List.range 24).findSome? fun i : Nat => onGrid? interval (top - i)).getD
    ⟨x.units * 5 ^ unitScale, -unitScale⟩

end Binary64

end QueryShape
