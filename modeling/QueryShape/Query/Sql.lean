import QueryShape.Query.Clause

/-!
# Clauses as SQL

One rendering serves every way of writing values: it takes the text of a value as a
parameter.  With a placeholder for every value the text goes with the list of the
values in order; with literals it stands alone.
-/

namespace QueryShape

/-- A literal doubles every quote of its text. -/
def quotedLiteral (s : String) : String :=
  "'" ++ String.join (s.toList.map fun c => if c = '\'' then "''" else c.toString) ++ "'"

def sqlLiteral : Json → String
  | .null => "NULL"
  | .bool b => if b then "TRUE" else "FALSE"
  | .number n => n.render
  | .text s => quotedLiteral s
  | value => quotedLiteral value.render

def placeholder (_ : Json) : String := "?"

def nullTest (negated : Bool) : String :=
  if negated then " IS NOT NULL" else " IS NULL"

def ColumnTest.write (value : Json → String) : ColumnTest → String
  | .compare op expected => " " ++ op.sql ++ " " ++ value expected
  | .null negated => nullTest negated

def Correlation.write (correlation : Correlation) : String :=
  "SELECT * FROM " ++ correlation.relatedTable ++ " WHERE " ++
    correlation.relatedTable ++ "." ++ correlation.relatedKey ++ " = " ++
    correlation.parentTable ++ "." ++ correlation.parentKey

/-- Membership in an empty list is written as a comparison of numbers. -/
def writeList (value : Json → String) (column : String) (values : List Json) (negated : Bool) :
    String :=
  if values.isEmpty then
    if negated then "1 = 1" else "0 = 1"
  else
    column ++ (if negated then " NOT IN (" else " IN (") ++
      ", ".intercalate (values.map value) ++ ")"

mutual

def Predicate.write (value : Json → String) : Predicate → String
  | .compare column op expected => column ++ " " ++ op.sql ++ " " ++ value expected
  | .null column negated => column ++ nullTest negated
  | .isIn column values negated => writeList value column values negated
  | .related _ correlation column test =>
    "EXISTS (" ++ correlation.write ++ " AND " ++ column ++ test.write value ++ ")"
  | .group terms => "(" ++ Clause.write value terms ++ ")"

def Clause.write (value : Json → String) : List (Combinator × Predicate) → String
  | [] => ""
  | (_, predicate) :: rest => predicate.write value ++ Clause.writeRest value rest

def Clause.writeRest (value : Json → String) : List (Combinator × Predicate) → String
  | [] => ""
  | (combinator, predicate) :: rest =>
    " " ++ combinator.sql ++ " " ++ predicate.write value ++ Clause.writeRest value rest

end

def ColumnTest.values : ColumnTest → List Json
  | .compare _ expected => [expected]
  | .null _ => []

mutual

/-- The values that a predicate compares with, from left to right. -/
def Predicate.values : Predicate → List Json
  | .compare _ _ expected => [expected]
  | .null _ _ => []
  | .isIn _ values _ => values
  | .related _ _ _ test => test.values
  | .group terms => Clause.values terms

def Clause.values : List (Combinator × Predicate) → List Json
  | [] => []
  | (_, predicate) :: rest => predicate.values ++ Clause.values rest

end

end QueryShape
