import QueryShape.Query.Backend
import QueryShape.Relationship.Basic

/-!
# Loading relationships

Each relationship registers an eager load, in order.  The query of a load is a new
query on the related model with the columns, the filter and the nested relationships
of its own.  A nested list uses up one level of the room, an empty one none.
-/

namespace QueryShape

mutual

/-- Restricts the query of the related records as a relationship asks. -/
def Relationship.constrain (schema : Schema) (limit room : Nat) :
    Relationship → ModelQuery → Run ModelQuery
  | .short _ columns, query => (Backend.relational schema).columns columns query
  | .full _ columns filter nested, query =>
    (((Backend.relational schema).columns columns query).andThen fun query =>
        (Backend.relational schema).filter limit filter query).andThen fun query =>
          Relationship.registerAll schema limit room nested query

/-- Registers the loads of a list with at most `room` levels. -/
def Relationship.registerAll (schema : Schema) (limit room : Nat) :
    List Relationship → ModelQuery → Run ModelQuery
  | [], query => .done query
  | relationship :: rest, query =>
    match room with
    | 0 => ⟨query, some (.nestingTooDeep limit)⟩
    | room' + 1 =>
      (Run.step query (ModelQuery.load schema relationship.name fun related =>
          (relationship.constrain schema limit room' related).result)).andThen fun query =>
        Relationship.registerAll schema limit room rest query

end

/-- Registers the loads of a list with at most `limit` levels. -/
def Relationship.register (schema : Schema) (limit : Nat) (relationships : List Relationship)
    (query : ModelQuery) : Run ModelQuery :=
  Relationship.registerAll schema limit limit relationships query

end QueryShape
