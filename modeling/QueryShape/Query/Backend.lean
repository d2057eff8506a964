import QueryShape.Filter.Apply
import QueryShape.Query.Model

/-!
# Backends

A backend is a kind of query that requests can be applied to.  Both kinds hold a
select query; the plain one knows no relations, and the relational one tests and
loads the relations of a schema.
-/

namespace QueryShape

structure Backend (Q : Type) where
  /-- Whether relations can be loaded. -/
  loads : Bool
  scope : Q → Scope
  select : Q → SelectQuery
  replace : Q → SelectQuery → Q
  /-- A query on the same table without columns, clause and loads. -/
  blank : Q → Q
  /-- Registers the load of a relation by name, its query being built from a new one. -/
  load : String → (Q → Except Error Q) → Q → Except Error Q

namespace Backend

def plain : Backend SelectQuery where
  loads := false
  scope _ := .plain
  select := id
  replace _ select := select
  blank := SelectQuery.blank
  load name _ _ := .error (.unsupportedLoad [name])

def relational (schema : Schema) : Backend ModelQuery where
  loads := true
  scope query := .model schema query.model
  select := ModelQuery.select
  replace query select := { query with select := select }
  blank := ModelQuery.blank
  load := ModelQuery.load schema

variable {Q : Type} (backend : Backend Q)

def project (columns : List String) (query : Q) : Except Error Q := do
  return backend.replace query (← (backend.select query).project columns)

def add (combinator : Combinator) (predicate : Predicate) (query : Q) : Q :=
  backend.replace query ((backend.select query).add combinator predicate)

def compare (combinator : Combinator) (column : String) (op : Comparison) (value : Json)
    (query : Q) : Except Error Q := do
  return backend.add combinator (← Predicate.ofComparison column op value) query

def null (combinator : Combinator) (column : String) (negated : Bool) (query : Q) :
    Except Error Q := do
  return backend.add combinator (← Predicate.ofNull column negated) query

def isIn (combinator : Combinator) (column : String) (values : List Json) (negated : Bool)
    (query : Q) : Except Error Q := do
  return backend.add combinator (← Predicate.ofList column values negated) query

def related (combinator : Combinator) (relation column : String) (op : Comparison) (value : Json)
    (query : Q) : Except Error Q := do
  let predicate ← (backend.scope query).related relation column op value
  return backend.add combinator predicate query

/-- Adds the clause that is built on a blank query as a group; nothing else is kept of it. -/
def group (combinator : Combinator) (build : Q → Except Error Q) (query : Q) : Except Error Q := do
  let built ← build (backend.blank query)
  let select := (backend.select query).addGroup combinator (backend.select built).clause
  return backend.replace query select

/-- Adds a filter with at most `limit` levels. -/
def filter (limit : Nat) (filter : Filter) (query : Q) : Run Q :=
  let select := backend.select query
  let run := filter.addTo (backend.scope query) limit select.clause
  ⟨backend.replace query { select with clause := run.state }, run.failure⟩

/-- Restricts the columns unless none are asked for. -/
def columns (columns : List String) (query : Q) : Run Q :=
  if columns.isEmpty then .done query else Run.step query (backend.project columns)

/-- Refuses loads that the backend cannot make. -/
def ensureLoads (names : List String) : Except Error Unit :=
  if names.isEmpty || backend.loads then .ok () else .error (.unsupportedLoad names)

end Backend

end QueryShape
