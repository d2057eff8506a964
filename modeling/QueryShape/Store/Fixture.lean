import QueryShape.Json.Reader
import QueryShape.Store.Basic

/-!
# Data files

A data file holds a schema and the rows of its models as JSON.  An entity with fixed
fields is an object, in which no such field may be repeated and other fields are
skipped, or an array of its fields in order.  A field with a default may be missing
but not null.  A map takes the last entry of a repeated name.
-/

namespace QueryShape

namespace Document

def text? : Document → Option String
  | .text s => s
  | _ => none

/-- The documents of a name, in order. -/
def named (fields : List (Option String × Document)) (name : String) : List Document :=
  fields.filterMap fun field => if field.1 = some name then some field.2 else none

/-- The documents of fixed fields, which are missing where there are none. -/
def fields? (names : List String) : Document → Option (List (Option Document))
  | .object fields =>
    if fields.all (·.1.isSome) && names.all (fun name => (named fields name).length ≤ 1) then
      some (names.map fun name => (named fields name).head?)
    else none
  | .array items =>
    if items.length ≤ names.length then
      some (items.map some ++ List.replicate (names.length - items.length) none)
    else none
  | _ => none

/-- Reads a field that may be missing. -/
def optional {α : Type} (read : Document → Option α) (default : α) : Option Document → Option α
  | none => some default
  | some document => read document

def pair? {α : Type} (read : Document → Option α) (entry : Option String × Document) :
    Option (String × α) := do
  return (← entry.1, ← read entry.2)

/-- Reads an object as a map. -/
def map? {α : Type} (read : Document → Option α) : Document → Option (Fields α)
  | .object fields => Fields.byName <$> fields.mapM (pair? read)
  | _ => none

def items? {α : Type} (read : Document → Option α) : Document → Option (List α)
  | .array items => items.mapM read
  | _ => none

end Document

namespace RelationKind

def ofName? : String → Option RelationKind
  | "has_one" => some .hasOne
  | "has_many" => some .hasMany
  | "belongs_to" => some .belongsTo
  | _ => none

/-- A kind is its name, or an object with null under its name. -/
def ofDocument? : Document → Option RelationKind
  | .text s => s >>= ofName?
  | .object [(name, .null)] => name >>= ofName?
  | _ => none

end RelationKind

def Relation.ofDocument? (document : Document) : Option Relation :=
  match document.fields? ["kind", "model", "foreign_key", "local_key"] with
  | some [some kind, some model, some foreignKey, localKey] => do
    return {
      kind := ← RelationKind.ofDocument? kind
      model := ← model.text?
      foreignKey := ← foreignKey.text?
      localKey := ← Document.optional Document.text? "id" localKey }
  | _ => none

def Model.ofDocument? (document : Document) : Option Model :=
  match document.fields? ["primary_key", "relations"] with
  | some [primaryKey, relations] => do
    return {
      primaryKey := ← Document.optional Document.text? "id" primaryKey
      relations := ← Document.optional (Document.map? Relation.ofDocument?) [] relations }
  | _ => none

def Schema.ofDocument? (document : Document) : Option Schema :=
  (document.map? Model.ofDocument?).map (⟨·⟩)

/-- Reads a row that stands inside three arrays or objects of its file. -/
def Row.ofDocument? (document : Document) : Option Row :=
  match document.value? (Json.maxNesting - 3) with
  | some (.object fields) => some fields
  | _ => none

/-- A schema and the rows of models by name. -/
structure Fixture where
  schema : Schema
  data : Fields (List Row)

namespace Fixture

def ofDocument? (document : Document) : Option Fixture :=
  match document.fields? ["schema", "data"] with
  | some [some schema, data] => do
    return {
      schema := ← Schema.ofDocument? schema
      data := ← Document.optional
        (Document.map? (Document.items? Row.ofDocument?)) [] data }
  | _ => none

end Fixture

namespace Store

/-- Adds the rows of each model in turn; a model without rows need not be known. -/
def insertEach : List (String × List Row) → Store → Except Error Store
  | [], store => .ok store
  | (_, []) :: rest, store => insertEach rest store
  | (model, rows) :: rest, store => store.insertAll model rows >>= insertEach rest

def ofChars (cs : List Char) : Except Error Store :=
  match Document.ofChars? cs >>= Fixture.ofDocument? with
  | some fixture => insertEach fixture.data { schema := fixture.schema }
  | none => .error .invalidJson

/-- Reads a data file. -/
def ofText (text : String) : Except Error Store :=
  ofChars text.toList

end Store

end QueryShape
