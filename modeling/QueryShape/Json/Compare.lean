import QueryShape.Json.Numeral
import QueryShape.Json.Printer
import QueryShape.Text.Blank

/-!
# Comparing values

Null compares with nothing.  Integers compare exactly, other numbers as binary64, and
a truth value stands for zero or one beside a number.  A string beside a number is
read as a numeral, without its surrounding blanks; a string that is none compares
with the text of the number.  Values of other types are equal when they are alike and
have no order otherwise.  Swapping the sides swaps the result.
-/

namespace QueryShape

namespace JsonNumber

def toBinary64 : JsonNumber → Binary64
  | .int i => .ofInt i
  | .float x => x

def compare : JsonNumber → JsonNumber → Ordering
  | .int i, .int j => Ord.compare i j
  | x, y => x.toBinary64.compare y.toBinary64

theorem compare_swap (x y : JsonNumber) : (compare x y).swap = compare y x := by
  cases x <;> cases y <;> simp [compare, Binary64.compare_swap, Int.compare_swap]

theorem compare_self (x : JsonNumber) : compare x x = .eq := by
  cases x <;> simp [compare, Binary64.compare_self]

/-- Compares with a string that may be a numeral. -/
def compareText (n : JsonNumber) (s : String) : Ordering :=
  match ofChars? (trim s.toList) with
  | some m => n.compare m
  | none => Ord.compare n.render s

end JsonNumber

namespace Json

def compare? : Json → Json → Option Ordering
  | .null, _ => none
  | _, .null => none
  | .number x, .number y => some (x.compare y)
  | .number n, .text s => some (n.compareText s)
  | .text s, .number n => some (n.compareText s).swap
  | .text x, .text y => some (Ord.compare x y)
  | .bool x, .bool y => some (Ord.compare x y)
  | .bool b, .number n => some (JsonNumber.compare (.int b.toNat) n)
  | .number n, .bool b => some (JsonNumber.compare (.int b.toNat) n).swap
  | a, b => if a.alike b then some .eq else none

/-- The equality that joins keys and finds list members. -/
def equals (a b : Json) : Bool :=
  a.compare? b = some .eq

theorem equals_null (a : Json) : a.equals .null = false := by
  cases a <;> rfl

theorem null_equals (b : Json) : Json.null.equals b = false := by
  cases b <;> rfl

end Json

end QueryShape
