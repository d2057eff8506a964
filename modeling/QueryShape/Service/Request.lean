import QueryShape.Query.Backend
import QueryShape.Relationship.Load
import QueryShape.Relationship.Parser
import QueryShape.Service.Config

/-!
# Requests

A request asks for columns, for a filter and for relationships.  Each comes as a
parameter of its own: an array, the text of one, or nothing.  Applying a request does
the three in this order; a backend that cannot load relations refuses a request for
them before anything is applied.
-/

namespace QueryShape

structure Request where
  columns : List String := []
  filter : Option Filter := none
  relationships : List Relationship := []

namespace Request

/-- The array of a parameter, if there is one.  Null and blank texts are nothing. -/
def parameter? (params : Json) (name : String) : Except Error (Option Json) :=
  match params.get? name with
  | none | some .null => .ok none
  | some (.array items) => .ok (some (.array items))
  | some (.text s) =>
    if (trim s.toList).isEmpty then .ok none
    else
      match Json.ofText? s with
      | some (.array items) => .ok (some (.array items))
      | some .null => .ok none
      | _ => .error (.invalidParameter name .arrayOrNull)
  | some _ => .error (.invalidParameter name .arrayOrNull)

def parseColumns (raw : Json) : Except Error (List String) :=
  match raw.names? with
  | some names => .ok names
  | none => .error (.invalidParameter "columns" .columnNames)

/-- Reads a parameter, absence as null. -/
def read (params : Json) (name : String) {α : Type} (parse : Json → Except Error α) :
    Except Error α := do
  parse ((← parameter? params name).getD .null)

def parse (config : Config) (params : Json) : Except Error Request := do
  let columns ← read params config.names.columns parseColumns
  let filter ← read params config.names.filters (Filter.parse config.maxDepth)
  let relationships ←
    read params config.names.relationships (Relationship.parse config.maxDepth)
  return {
    columns := columns
    filter := if filter.isEmpty then none else some filter
    relationships := relationships }

/-- Applies columns and filter. -/
def applyBase {Q : Type} (backend : Backend Q) (limit : Nat) (request : Request) (query : Q) :
    Run Q :=
  (backend.columns request.columns query).andThen fun query =>
    match request.filter with
    | some filter => backend.filter limit filter query
    | none => .done query

/-- Applies a request to a backend of either kind, which has to be able to make its loads but does
not make them. -/
def applyPlain {Q : Type} (backend : Backend Q) (limit : Nat) (request : Request) (query : Q) :
    Run Q :=
  match backend.ensureLoads (request.relationships.map Relationship.name) with
  | .ok () => request.applyBase backend limit query
  | .error failure => ⟨query, some failure⟩

def apply (schema : Schema) (limit : Nat) (request : Request) (query : ModelQuery) :
    Run ModelQuery :=
  (request.applyBase (.relational schema) limit query).andThen
    (Relationship.register schema limit request.relationships)

end Request

end QueryShape
