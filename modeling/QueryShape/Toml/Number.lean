import QueryShape.Binary64
import QueryShape.Json.Lexer
import QueryShape.Toml.Value

/-!
# TOML numbers and dates

Integers are decimal with a sign, or hexadecimal, octal or binary without one, and fit
in 64 bits.  Digits may be set apart by single underscores.  A number with a fraction
or an exponent must not round to infinity.  Dates and times have fields of fixed width
within the bounds of the calendar.
-/

namespace QueryShape

namespace TomlNumber

/-- Digits with single underscores between them; gives the digits alone. -/
def digits? (isDigit : Char → Bool) : List Char → Option (List Char)
  | [] => none
  | [c] => if isDigit c then some [c] else none
  | c :: '_' :: rest => if isDigit c then (c :: ·) <$> digits? isDigit rest else none
  | c :: rest => if isDigit c then (c :: ·) <$> digits? isDigit rest else none

def valueIn (base : Nat) (digits : List Char) : Nat :=
  digits.foldl (fun n c => base * n + (JsonLexeme.hexDigit? c).getD 0) 0

def isHexDigit (c : Char) : Bool :=
  (JsonLexeme.hexDigit? c).isSome

def isOctalDigit (c : Char) : Bool :=
  '0' ≤ c && c ≤ '7'

def isBinaryDigit (c : Char) : Bool :=
  c == '0' || c == '1'

/-- Splits off a sign; gives whether it was a minus. -/
def sign : List Char → Bool × List Char
  | '+' :: cs => (false, cs)
  | '-' :: cs => (true, cs)
  | cs => (false, cs)

def inRange (i : Int) : Option Int :=
  if -(2 ^ 63) ≤ i ∧ i < 2 ^ 63 then some i else none

/-- Decimal digits without a superfluous leading zero. -/
def decimal? (cs : List Char) : Option (List Char) := do
  let digits ← digits? Char.isDigit cs
  match cs with
  | '0' :: _ :: _ => none
  | _ => some digits

def integer? (cs : List Char) : Option Int :=
  match cs with
  | '0' :: 'x' :: rest => do inRange (valueIn 16 (← digits? isHexDigit rest))
  | '0' :: 'o' :: rest => do inRange (valueIn 8 (← digits? isOctalDigit rest))
  | '0' :: 'b' :: rest => do inRange (valueIn 2 (← digits? isBinaryDigit rest))
  | cs => do
    let (negative, rest) := sign cs
    let magnitude := valueIn 10 (← decimal? rest)
    inRange (if negative then -(magnitude : Int) else magnitude)

/-- The exponent after the letter. -/
def exponent? (cs : List Char) : Option Int := do
  let (negative, rest) := sign cs
  let magnitude := valueIn 10 (← digits? Char.isDigit rest)
  some (if negative then -(magnitude : Int) else magnitude)

/-- Whether `significand * 10 ^ exponent` rounds to a finite number.  Exponents that decide the
matter by their size alone are not raised. -/
def isFinite (significand : Nat) (exponent : Int) : Bool :=
  if significand = 0 ∨ exponent + (Nat.log2 significand + 1 : Nat) ≤ 308 then true
  else if 308 < exponent then false
  else
    (Binary64.ofUnits? (significand * 10 ^ exponent.toNat * 2 ^ Binary64.unitScale)
      (10 ^ (-exponent).toNat)).isSome

def isFloatMark (c : Char) : Bool :=
  c == 'e' || c == 'E'

/-- Whole digits and a fraction or an exponent or both; only a positive number may not be too
large. -/
def isFloat (cs : List Char) : Bool :=
  let (negative, rest) := sign cs
  if rest = "inf".toList ∨ rest = "nan".toList then true
  else
    let mantissa := rest.takeWhile (!isFloatMark ·)
    let mark := rest.dropWhile (!isFloatMark ·)
    let whole := mantissa.takeWhile (· != '.')
    let fraction := mantissa.dropWhile (· != '.')
    match decimal? whole, fraction, mark with
    | some _, [], [] => false
    | some w, fraction, mark =>
      let places := if fraction.isEmpty then some [] else digits? Char.isDigit (fraction.drop 1)
      let power := if mark.isEmpty then some 0 else exponent? (mark.drop 1)
      match places, power with
      | some places, some power =>
        negative || isFinite (valueIn 10 (w ++ places)) (power - places.length)
      | _, _ => false
    | none, _, _ => false

end TomlNumber

namespace TomlDate

/-- A number of a fixed count of digits. -/
def fixed? (width : Nat) (cs : List Char) : Option (Nat × List Char) :=
  let digits := cs.take width
  if digits.length = width ∧ digits.all Char.isDigit then
    some (TomlNumber.valueIn 10 digits, cs.drop width)
  else none

def mark? (c : Char) : List Char → Option (List Char)
  | d :: rest => if d = c then some rest else none
  | [] => none

def monthLength (year month : Nat) : Nat :=
  if month = 2 then
    if year % 4 = 0 ∧ (year % 100 ≠ 0 ∨ year % 400 = 0) then 29 else 28
  else if month = 4 ∨ month = 6 ∨ month = 9 ∨ month = 11 then 30
  else 31

/-- What follows a calendar date. -/
def date? (cs : List Char) : Option (List Char) := do
  let (year, cs) ← fixed? 4 cs
  let cs ← mark? '-' cs
  let (month, cs) ← fixed? 2 cs
  let cs ← mark? '-' cs
  let (day, cs) ← fixed? 2 cs
  if 1 ≤ month ∧ month ≤ 12 ∧ 1 ≤ day ∧ day ≤ monthLength year month then some cs else none

/-- What follows the fraction of a second, if there is one. -/
def fraction? : List Char → Option (List Char)
  | '.' :: cs =>
    if (cs.takeWhile Char.isDigit).isEmpty then none else some (cs.dropWhile Char.isDigit)
  | cs => some cs

/-- What follows a time of day. -/
def time? (cs : List Char) : Option (List Char) := do
  let (hour, cs) ← fixed? 2 cs
  let cs ← mark? ':' cs
  let (minute, cs) ← fixed? 2 cs
  let cs ← mark? ':' cs
  let (second, cs) ← fixed? 2 cs
  if hour ≤ 23 ∧ minute ≤ 59 ∧ second ≤ 60 then fraction? cs else none

def isOffset (cs : List Char) : Bool :=
  match cs with
  | [] | ['Z'] | ['z'] => true
  | c :: rest =>
    (c == '+' || c == '-') &&
      (match (do
          let (hour, rest) ← fixed? 2 rest
          let rest ← mark? ':' rest
          let (minute, rest) ← fixed? 2 rest
          if hour ≤ 23 ∧ minute ≤ 59 then some rest else none) with
        | some [] => true
        | _ => false)

/-- A date, a time, or a date and a time with an optional offset. -/
def isDate (cs : List Char) : Bool :=
  match date? cs with
  | some [] => true
  | some (c :: rest) =>
    (c == 'T' || c == 't' || c == ' ') && ((time? rest).map isOffset).getD false
  | none => (time? cs).map List.isEmpty |>.getD false

end TomlDate

end QueryShape
