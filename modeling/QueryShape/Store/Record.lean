import QueryShape.Identifier
import QueryShape.Json.Basic

/-!
# Records

A record is a row of a model together with the related records that have been loaded
onto it, by the name of the relation.  A column of a record is found by its last
segment.
-/

namespace QueryShape

/-- What loading a relation gave: for a single record possibly nothing. -/
inductive Loaded (R : Type) where
  | one (record : R)
  | many (records : List R)
  | nothing

structure Record where
  model : String
  attributes : List (String × Json)
  relations : List (String × Loaded Record) := []

/-- The named columns of a row in the order in which they are first named.  The star, or no column
at all, keeps the whole row. -/
def projectRow (columns : List String) (row : Fields Json) : Fields Json :=
  if columns.isEmpty || columns.contains "*" then row
  else
    Fields.ofEntries <| columns.filterMap fun column =>
      (row.get? (lastSegment column)).map (lastSegment column, ·)

namespace Record

def column? (record : Record) (column : String) : Option Json :=
  Fields.get? record.attributes (lastSegment column)

def column (record : Record) (column : String) : Json :=
  (record.column? column).getD .null

def relation? (record : Record) (name : String) : Option (Loaded Record) :=
  Fields.get? record.relations name

def setRelation (record : Record) (name : String) (loaded : Loaded Record) : Record :=
  { record with relations := Fields.putByName record.relations name loaded }

def project (record : Record) (columns : List String) : Record :=
  { record with attributes := projectRow columns record.attributes }

end Record

end QueryShape
