import QueryShape.Decimal.Shortest

/-!
# Layout of decimals

A decimal is written positionally while its leading digit lies between two given
exponents, and with a power of ten otherwise.
-/

namespace QueryShape

/-- Which leading exponents are positional, and the mark between digits and exponent. -/
structure DecimalLayout where
  lowest : Int
  highest : Int
  mark : String

def zeros (n : Nat) : String :=
  String.ofList (List.replicate n '0')

/-- The digits from the most significant on. -/
def decimalDigits (n : Nat) : List Char :=
  Nat.toDigits 10 n

namespace DecimalLayout

def positional (digits : List Char) (exponent : Int) : String :=
  let whole := digits.length + exponent
  if 0 ≤ exponent then
    String.ofList digits ++ zeros exponent.toNat ++ ".0"
  else if 0 < whole then
    String.ofList (digits.take whole.toNat) ++ "." ++ String.ofList (digits.drop whole.toNat)
  else
    "0." ++ zeros (-whole).toNat ++ String.ofList digits

def scientific (layout : DecimalLayout) (digits : List Char) (lead : Int) : String :=
  let head := String.ofList (digits.take 1)
  let tail := digits.drop 1
  let sign := if lead < 0 then "-" else "+"
  head ++ (if tail.isEmpty then "" else "." ++ String.ofList tail) ++ layout.mark ++ sign ++
    String.ofList (decimalDigits lead.natAbs)

def magnitude (layout : DecimalLayout) (d : Decimal) : String :=
  let digits := decimalDigits d.digits
  let lead := d.exponent + digits.length - 1
  if layout.lowest ≤ lead ∧ lead ≤ layout.highest then positional digits d.exponent
  else layout.scientific digits lead

/-- A zero keeps its sign and one decimal place. -/
def text (layout : DecimalLayout) (x : Binary64) : String :=
  (if x.negative then "-" else "") ++
    (if x.isZero then "0.0" else layout.magnitude x.shortest)

end DecimalLayout

end QueryShape
