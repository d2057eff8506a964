import QueryShape.Match.Evaluate
import QueryShape.Query.Model
import QueryShape.Store.Record

/-!
# Stores

A store keeps the rows of the models of a schema in the order in which they came.  A
query is answered in three steps: its clause selects rows, its loads attach related
records by their keys, and only then is every record restricted to its columns, so
columns never decide what is found.
-/

namespace QueryShape

structure Store where
  schema : Schema
  tables : Fields (List Row) := []

namespace Store

def rows (store : Store) (table : String) : List Row :=
  (store.tables.get? table).getD []

/-- Adds rows after those that a model has. -/
def insertAll (model : String) (rows : List Row) (store : Store) : Except Error Store := do
  let _ ← store.schema.model model
  return { store with tables := store.tables.putByName model (store.rows model ++ rows) }

def insert (model : String) (row : Row) (store : Store) : Except Error Store :=
  store.insertAll model [row]

def query (store : Store) (model : String) : Except Error ModelQuery :=
  ModelQuery.ofModel store.schema model

end Store

/-- Whether a related record belongs to a parent with a key; null keys belong to nothing. -/
def Record.hasKey (record : Record) (column : String) (key : Json) : Bool :=
  (record.column column).equals key

/-- The related records of a parent among candidates, restricted to columns. -/
def Relation.pick (relation : Relation) (columns : List String) (candidates : List Record)
    (parent : Record) : Loaded Record :=
  let key := parent.column relation.parentKey
  let found := candidates.filter fun candidate => candidate.hasKey relation.relatedKey key
  let picked := found.map fun record => record.project columns
  if relation.isMany then .many picked
  else
    match picked with
    | record :: _ => .one record
    | [] => .nothing

mutual

/-- The records of a query with its loads, before the restriction to columns. -/
def ModelQuery.fetch (store : Store) : ModelQuery → List Record
  | ⟨select, eager⟩ =>
    let selected := (store.rows select.table).filter fun row =>
      Clause.holds store.rows row select.clause
    ModelQuery.attachAll store eager
      (selected.map fun row => { model := select.table, attributes := row })

/-- Attaches what a list of loads finds to each of some records. -/
def ModelQuery.attachAll (store : Store) :
    List (EagerLoad ModelQuery) → List Record → List Record
  | [], parents => parents
  | ⟨name, relation, query⟩ :: rest, parents =>
    let candidates := query.fetch store
    ModelQuery.attachAll store rest <| parents.map fun parent =>
      parent.setRelation name (relation.pick query.select.columns candidates parent)

end

namespace Store

/-- The records of a query. -/
def get (store : Store) (query : ModelQuery) : List Record :=
  (query.fetch store).map fun record => record.project query.select.columns

/-- The first record of a model whose primary key equals an id, without loads. -/
def find (store : Store) (model : String) (id : Json) : Except Error (Option Record) := do
  let definition ← store.schema.model model
  let row := (store.rows model).find? fun row =>
    ((row.get? definition.primaryKey).getD .null).equals id
  return row.map fun row => { model := model, attributes := row }

/-- Loads one relation onto a record, its query being built from a new one. -/
def loadRelation (store : Store) (name : String) (build : ModelQuery → Except Error ModelQuery)
    (record : Record) : Except Error Record := do
  let holder ← store.query record.model
  let holder ← holder.load store.schema name build
  match holder.eager with
  | load :: _ =>
    let candidates := load.query.fetch store
    return record.setRelation name
      (load.relation.pick load.query.select.columns candidates record)
  | [] => .error (.unknownRelation record.model name)

end Store

end QueryShape
