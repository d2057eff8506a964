import QueryShape.Relationship.Basic
import QueryShape.Store.Record

/-!
# Shapes of records

A record is shown as an object with one entry for each requested column, or with all
its attributes when no column is requested, and then one for each requested relation
that has been loaded.  A name that repeats keeps its first place and takes its last
value.
-/

namespace QueryShape

namespace Record

/-- The requested columns of a record under the names of the request. -/
def columnShape (columns : List String) (record : Record) : Fields Json :=
  if columns.isEmpty then record.attributes
  else Fields.ofEntries (columns.map fun column => (column, record.column column))

end Record

mutual

def Relationship.shape : Relationship → Record → Fields Json
  | .short _ columns, record => record.columnShape columns
  | .full _ columns _ nested, record =>
    Relationship.shapeInto nested record (record.columnShape columns)

/-- Adds the requested relations of a record to an object. -/
def Relationship.shapeInto : List Relationship → Record → Fields Json → Fields Json
  | [], _, shaped => shaped
  | relationship :: rest, record, shaped =>
    Relationship.shapeInto rest record <|
      match record.relation? relationship.name with
      | some (.one related) =>
        shaped.put relationship.name (.object (relationship.shape related))
      | some (.many related) =>
        shaped.put relationship.name
          (.array (related.map fun record => .object (relationship.shape record)))
      | some .nothing | none => shaped

end

def Record.shape (columns : List String) (relationships : List Relationship) (record : Record) :
    Fields Json :=
  Relationship.shapeInto relationships record (record.columnShape columns)

end QueryShape
