import QueryShape.Query.Run
import QueryShape.Query.Select

/-!
# Model queries

A model query is a select query on the table of a model with eager loads: relations
whose related records are fetched along, each by a model query of its own.
-/

namespace QueryShape

structure EagerLoad (Q : Type) where
  name : String
  relation : Relation
  query : Q

structure ModelQuery where
  select : SelectQuery
  eager : List (EagerLoad ModelQuery) := []

namespace ModelQuery

def model (query : ModelQuery) : String :=
  query.select.table

def ofModel (schema : Schema) (model : String) : Except Error ModelQuery := do
  let _ ← schema.model model
  return { select := ← SelectQuery.ofTable model }

def blank (query : ModelQuery) : ModelQuery :=
  { select := query.select.blank }

/-- Registers a load after all others; an earlier one of the same name is dropped. -/
def register (query : ModelQuery) (load : EagerLoad ModelQuery) : ModelQuery :=
  { query with eager := query.eager.filter (·.name != load.name) ++ [load] }

/-- Registers the load of a relation, whose query is built from a new one on the related model. -/
def load (schema : Schema) (name : String) (build : ModelQuery → Except Error ModelQuery)
    (query : ModelQuery) : Except Error ModelQuery := do
  let relation ← schema.relation query.model name
  let related ← ofModel schema relation.model
  let built ← build related
  return query.register { name := name, relation := relation, query := built }

end ModelQuery

end QueryShape
