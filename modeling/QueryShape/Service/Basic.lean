import QueryShape.Service.Request
import QueryShape.Store.Load
import QueryShape.Store.Shape

/-!
# Services

A service answers requests about one model of a store: with the list of the records
that the filter selects, or with the one record of an id, to which no filter is
applied.  Both show records in the shape that the request asks for.
-/

namespace QueryShape

structure Service where
  config : Config
  model : String

namespace Service

/-- A service needs a model, whose name is an identifier. -/
def build (config : Option Config) (model : Option String) : Except Error Service :=
  match model with
  | none => .error (.invalidParameter "model" .modelName)
  | some model => do
    let model ← identifier model
    return ⟨config.getD {}, model⟩

def parse (service : Service) (params : Json) : Except Error Request :=
  Request.parse service.config params

def answer (data : Json) : Json :=
  .object [("data", data)]

def answerAll (service : Service) (store : Store) (params : Json) : Except Error Json := do
  let request ← service.parse params
  let query ← store.query service.model
  let query ← (request.apply store.schema service.config.maxDepth query).result
  let shapes := (store.get query).map (Record.shape request.columns request.relationships)
  return answer (.array (shapes.map .object))

def answerOne (service : Service) (store : Store) (id params : Json) : Except Error Json := do
  let request ← service.parse params
  match ← store.find service.model id with
  | none => .error (.notFound service.model id)
  | some record =>
    let limit := service.config.maxDepth
    let record ← (Relationship.loadOnto store limit request.relationships record).result
    return answer (.object (record.shape request.columns request.relationships))

end Service

end QueryShape
