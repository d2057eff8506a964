import QueryShape.Filter.Basic

/-!
# Relationships

A relationship asks for the related records of a relation by name.  The short form
may list columns; the full form also has a filter of its own and relationships of
the related records.
-/

namespace QueryShape

inductive Relationship where
  | short (name : String) (columns : List String)
  | full (name : String) (columns : List String) (filter : Filter) (nested : List Relationship)

namespace Relationship

def name : Relationship → String
  | .short name _ => name
  | .full name _ _ _ => name

def columns : Relationship → List String
  | .short _ columns => columns
  | .full _ columns _ _ => columns

def filter? : Relationship → Option Filter
  | .short _ _ => none
  | .full _ _ filter _ => some filter

def nested : Relationship → List Relationship
  | .short _ _ => []
  | .full _ _ _ nested => nested

end Relationship

end QueryShape
