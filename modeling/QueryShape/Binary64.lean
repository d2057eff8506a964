/-!
# Finite binary64 numbers

A finite binary64 number is a sign and a rank: its place among the magnitudes,
counted from zero.  Every magnitude is a whole number of units of `2 ^ -1074`,
so products, quotients and roundings are exact `Nat` arithmetic, and the order
of two numbers is the order of their signed ranks.
-/

-- Powers are those of the core library, also where a monoid could give them.
attribute [instance (2000), default_instance 20000] instPowNat

namespace QueryShape

/-- A sign and a rank below that of infinity. -/
structure Binary64 where
  negative : Bool
  rank : Nat
  rank_lt : rank < 2047 * 2 ^ 52
deriving DecidableEq

/-- The quotient rounded to the nearest natural number, a tie to the even one. -/
def divNearest (num den : Nat) : Nat :=
  let quotient := num / den
  let twice := 2 * (num % den)
  if den < twice || (twice == den && quotient % 2 == 1) then quotient + 1 else quotient

namespace Binary64

def zero : Binary64 :=
  ⟨false, 0, by decide⟩

def largest : Binary64 :=
  ⟨false, 2047 * 2 ^ 52 - 1, by decide⟩

def unitScale : Nat := 1074

/-- The binary digits of the magnitude, the leading one of a normal number included. -/
def mantissa (x : Binary64) : Nat :=
  if x.rank < 2 ^ 52 then x.rank else 2 ^ 52 + x.rank % 2 ^ 52

/-- The power of two that the mantissa is multiplied with to give units. -/
def scale (x : Binary64) : Nat :=
  x.rank / 2 ^ 52 - 1

/-- The magnitude in units of `2 ^ -1074`. -/
def units (x : Binary64) : Nat :=
  x.mantissa * 2 ^ x.scale

def isZero (x : Binary64) : Bool :=
  x.rank == 0

/-- The nearest number to `num / den` units, a tie to the even mantissa.  There is none beyond
the finite numbers. -/
def ofUnits? (num den : Nat) : Option Binary64 :=
  let scale := Nat.log2 (num / den) - 52
  let rank := scale * 2 ^ 52 + divNearest num (den * 2 ^ scale)
  if h : rank < 2047 * 2 ^ 52 then some ⟨false, rank, h⟩ else none

def ofNat? (n : Nat) : Option Binary64 :=
  ofUnits? (n * 2 ^ unitScale) 1

/-- The nearest number to an integer; an integer beyond the finite numbers gives the largest. -/
def ofInt (i : Int) : Binary64 :=
  { (ofNat? i.natAbs).getD largest with negative := decide (i < 0) }

/-- The rounded product of two magnitudes. -/
def mul? (x y : Binary64) : Option Binary64 :=
  ofUnits? (x.units * y.units) (2 ^ unitScale)

/-- The rounded quotient of two magnitudes. -/
def div? (x y : Binary64) : Option Binary64 :=
  ofUnits? (x.units * 2 ^ unitScale) y.units

/-- The place of the number in the order of all numbers; both zeros have place `0`. -/
def place (x : Binary64) : Int :=
  if x.negative then -(x.rank : Int) else x.rank

def compare (x y : Binary64) : Ordering :=
  Ord.compare x.place y.place

theorem compare_swap (x y : Binary64) : (compare x y).swap = compare y x := by
  simp [compare, Int.compare_swap]

theorem compare_self (x : Binary64) : compare x x = .eq := by
  simp [compare]

end Binary64

end QueryShape
