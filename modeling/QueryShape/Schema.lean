import QueryShape.Error

/-!
# Schemas

A schema lists models by name, each with a primary key and its relations.  A relation
joins two models by a pair of keys.  The foreign key is a column of the related model,
unless the model belongs to the related one; the local key is on the other side.
-/

namespace QueryShape

inductive RelationKind where
  | hasOne
  | hasMany
  | belongsTo
deriving DecidableEq

def RelationKind.name : RelationKind → String
  | .hasOne => "has_one"
  | .hasMany => "has_many"
  | .belongsTo => "belongs_to"

structure Relation where
  kind : RelationKind
  model : String
  foreignKey : String
  localKey : String := "id"
deriving DecidableEq

namespace Relation

/-- The key on the side of the model that has the relation. -/
def parentKey (relation : Relation) : String :=
  match relation.kind with
  | .hasOne | .hasMany => relation.localKey
  | .belongsTo => relation.foreignKey

/-- The key on the side of the related model. -/
def relatedKey (relation : Relation) : String :=
  match relation.kind with
  | .hasOne | .hasMany => relation.foreignKey
  | .belongsTo => relation.localKey

def isMany (relation : Relation) : Bool :=
  match relation.kind with
  | .hasMany => true
  | .hasOne | .belongsTo => false

end Relation

structure Model where
  primaryKey : String := "id"
  relations : Fields Relation := []
deriving DecidableEq

def Model.withRelation (model : Model) (name : String) (relation : Relation) : Model :=
  { model with relations := model.relations.putByName name relation }

structure Schema where
  models : Fields Model := []
deriving DecidableEq

namespace Schema

def withModel (schema : Schema) (name : String) (model : Model) : Schema :=
  { schema with models := schema.models.putByName name model }

def model (schema : Schema) (name : String) : Except Error Model :=
  match schema.models.get? name with
  | some model => .ok model
  | none => .error (.unknownModel name)

def relation (schema : Schema) (model name : String) : Except Error Relation := do
  let definition ← schema.model model
  match definition.relations.get? name with
  | some relation => .ok relation
  | none => .error (.unknownRelation model name)

end Schema

end QueryShape
