import QueryShape.Json.Basic

/-!
# JSON numerals

A numeral is a sign, whole digits without a superfluous leading zero, and
optionally a fraction and an exponent.  A numeral without fraction and exponent is
an integer if it fits in 64 bits, signed or unsigned; `-0` and every other numeral
is a binary64 number.  Such a number is rounded at most three times: the first
digits (as many as fit in 64 bits), the power of ten, and their product or quotient.
-/

namespace QueryShape

structure Numeral where
  negative : Bool
  whole : List Char
  fraction : List Char
  exponent : Option Int

namespace Numeral

def digitValue (c : Char) : Nat :=
  c.toNat - '0'.toNat

def digitsValue (digits : List Char) : Nat :=
  digits.foldl (fun n c => 10 * n + digitValue c) 0

/-- The digits at the start of a text, and what follows them. -/
def splitDigits (cs : List Char) : List Char × List Char :=
  (cs.takeWhile Char.isDigit, cs.dropWhile Char.isDigit)

def exponent? : List Char → Option Int
  | '+' :: cs => unsigned? cs
  | '-' :: cs => (unsigned? cs).map (- ·)
  | cs => unsigned? cs
where
  unsigned? (cs : List Char) : Option Int :=
    if cs ≠ [] ∧ cs.all Char.isDigit then some (digitsValue cs) else none

/-- Reads what follows the whole digits and the fraction. -/
def withExponent? (negative : Bool) (whole fraction : List Char) : List Char → Option Numeral
  | [] => some ⟨negative, whole, fraction, none⟩
  | c :: cs =>
    if c = 'e' ∨ c = 'E' then
      (exponent? cs).map fun e => ⟨negative, whole, fraction, some e⟩
    else none

def unsigned? (negative : Bool) (cs : List Char) : Option Numeral :=
  let (whole, rest) := splitDigits cs
  match whole with
  | [] => none
  | '0' :: _ :: _ => none
  | whole =>
    match rest with
    | '.' :: cs =>
      let (fraction, rest) := splitDigits cs
      if fraction.isEmpty then none else withExponent? negative whole fraction rest
    | rest => withExponent? negative whole [] rest

/-- Reads a complete text as a numeral. -/
def ofChars? : List Char → Option Numeral
  | '-' :: cs => unsigned? true cs
  | cs => unsigned? false cs

/-- Appends digits to a number while it stays below `2 ^ 64`; also counts the digits left over. -/
def absorb (n : Nat) : List Char → Nat × Nat
  | [] => (n, 0)
  | c :: cs =>
    if 10 * n + digitValue c < 2 ^ 64 then absorb (10 * n + digitValue c) cs
    else (n, cs.length + 1)

/-- A power of ten, rounded. -/
def powerOfTen (k : Nat) : Binary64 :=
  (Binary64.ofNat? (10 ^ k)).getD .largest

/-- The magnitude `significand * 10 ^ exponent`.  The rounded powers of ten end at `10 ^ 308`: a
smaller power is divided out in two steps, and a number beyond two steps is zero. -/
def scaled? (significand : Nat) (exponent : Int) : Option Binary64 :=
  let start := (Binary64.ofNat? significand).getD .largest
  if 308 < exponent then
    if significand = 0 then some .zero else none
  else if 0 ≤ exponent then
    start.mul? (powerOfTen exponent.toNat)
  else if -308 ≤ exponent then
    start.div? (powerOfTen (-exponent).toNat)
  else if -616 ≤ exponent then do
    let reduced ← start.div? (powerOfTen 308)
    reduced.div? (powerOfTen (-(exponent + 308)).toNat)
  else
    some .zero

/-- The number as binary64; there is none beyond the finite numbers. -/
def float? (numeral : Numeral) : Option Binary64 :=
  let (head, dropped) := absorb 0 numeral.whole
  let (significand, unused) := absorb head numeral.fraction
  let places : Int := (numeral.fraction.length : Int) - unused
  (scaled? significand (dropped - places + numeral.exponent.getD 0)).map fun x =>
    { x with negative := numeral.negative }

def isInteger (numeral : Numeral) : Bool :=
  numeral.fraction.isEmpty && numeral.exponent.isNone

def number? (numeral : Numeral) : Option JsonNumber :=
  let n := digitsValue numeral.whole
  if numeral.isInteger && !numeral.negative && decide (n < 2 ^ 64) then
    some (.int n)
  else if numeral.isInteger && numeral.negative && decide (0 < n ∧ n ≤ 2 ^ 63) then
    some (.int (-n))
  else
    numeral.float?.map .float

end Numeral

/-- Reads a complete text as a number. -/
def JsonNumber.ofChars? (cs : List Char) : Option JsonNumber :=
  Numeral.ofChars? cs >>= Numeral.number?

end QueryShape
