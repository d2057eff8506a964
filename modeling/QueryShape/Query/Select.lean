import QueryShape.Query.Sql

/-!
# Select queries

A select query reads columns of one table under a clause; no columns stand for all.
-/

namespace QueryShape

structure SelectQuery where
  table : String
  columns : List String := []
  clause : Clause := []
deriving DecidableEq

namespace SelectQuery

def ofTable (table : String) : Except Error SelectQuery := do
  return { table := ← identifier table }

/-- An identifier, or the star that stands for all columns. -/
def checkColumn (column : String) : Except Error Unit :=
  if column = "*" || isIdentifier column then .ok () else .error (.invalidIdentifier column)

/-- Restricts the columns to a list of valid ones, whatever they were before. -/
def project (columns : List String) (query : SelectQuery) : Except Error SelectQuery := do
  columns.forM checkColumn
  return { query with columns := columns }

def add (query : SelectQuery) (combinator : Combinator) (predicate : Predicate) : SelectQuery :=
  { query with clause := query.clause.add combinator predicate }

def addGroup (query : SelectQuery) (combinator : Combinator) (inner : Clause) : SelectQuery :=
  { query with clause := query.clause.addGroup combinator inner }

/-- The query with all columns and no clause. -/
def blank (query : SelectQuery) : SelectQuery :=
  { table := query.table }

def write (value : Json → String) (query : SelectQuery) : String :=
  "SELECT " ++ (if query.columns.isEmpty then "*" else ", ".intercalate query.columns) ++
    " FROM " ++ query.table ++
    (if query.clause.isEmpty then "" else " WHERE " ++ Clause.write value query.clause)

/-- The text with placeholders. -/
def sql (query : SelectQuery) : String :=
  query.write placeholder

/-- The values of the placeholders in order. -/
def values (query : SelectQuery) : List Json :=
  Clause.values query.clause

/-- The text with literals. -/
def inline (query : SelectQuery) : String :=
  query.write sqlLiteral

end SelectQuery

end QueryShape
