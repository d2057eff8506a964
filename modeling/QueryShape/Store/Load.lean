import QueryShape.Relationship.Load
import QueryShape.Store.Basic

/-!
# Loading relationships onto a record

A record that has been found by its key gets the records of each relationship in
turn, under the same limits as the loads of a query.
-/

namespace QueryShape

namespace Relationship

def loadEach (store : Store) (limit room : Nat) : List Relationship → Record → Run Record
  | [], record => .done record
  | relationship :: rest, record =>
    (Run.step record (store.loadRelation relationship.name fun query =>
        (relationship.constrain store.schema limit room query).result)).andThen fun record =>
      loadEach store limit room rest record

/-- Loads a list of at most `limit` levels. -/
def loadOnto (store : Store) (limit : Nat) (relationships : List Relationship) (record : Record) :
    Run Record :=
  match limit, relationships with
  | _, [] => .done record
  | 0, _ :: _ => ⟨record, some (.nestingTooDeep limit)⟩
  | room + 1, relationships => loadEach store limit room relationships record

end Relationship

end QueryShape
