import QueryShape.Text.Blank

/-!
# Comparison operators

An operator is read without regard to surrounding blanks and to the case of ASCII
letters.  It has one spelling in SQL and one in conditions, which reads back.
-/

namespace QueryShape

inductive Comparison where
  | eq
  | ne
  | lt
  | le
  | gt
  | ge
  | like
  | notLike
deriving DecidableEq

namespace Comparison

def ofWord? : String → Option Comparison
  | "=" | "==" => some .eq
  | "!=" | "<>" => some .ne
  | "<" => some .lt
  | "<=" => some .le
  | ">" => some .gt
  | ">=" => some .ge
  | "like" => some .like
  | "not like" => some .notLike
  | _ => none

def ofToken? (token : String) : Option Comparison :=
  ofWord? (String.ofList ((trim token.toList).map Char.toLower))

def sql : Comparison → String
  | .eq => "="
  | .ne => "!="
  | .lt => "<"
  | .le => "<="
  | .gt => ">"
  | .ge => ">="
  | .like => "LIKE"
  | .notLike => "NOT LIKE"

def token : Comparison → String
  | .like => "like"
  | .notLike => "not like"
  | op => op.sql

theorem ofToken?_token (op : Comparison) : ofToken? op.token = some op := by
  cases op <;> decide +kernel

end Comparison

end QueryShape
