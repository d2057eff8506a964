import QueryShape.Filter.Parser
import QueryShape.Relationship.Basic

/-!
# Reading relationships

Relationships are read from null or from an array.  A string that spells an object is
read as that object; any other string is a short form, a name and after the first
colon columns between commas.  Nested lists use up the room for nesting; the filter
of a relationship has the whole room for itself.
-/

namespace QueryShape

/-- The parts of a text between commas. -/
def splitCommas (cs : List Char) : List (List Char) :=
  cs.foldr
    (fun c parts =>
      match parts with
      | part :: rest => if c = ',' then [] :: part :: rest else (c :: part) :: rest
      | [] => [[c]])
    [[]]

namespace Relationship

def shortColumns (cs : List Char) : List String :=
  (((splitCommas cs).map trim).filter (!·.isEmpty)).map String.ofList

/-- Reads `name` or `name:column,column`. -/
def parseShort (entry : String) : Except Error Relationship :=
  let name := trim (entry.toList.takeWhile (· != ':'))
  let columns := shortColumns ((entry.toList.dropWhile (· != ':')).drop 1)
  if name.isEmpty then .error (.invalidRelationship (.blankName entry))
  else .ok (.short (String.ofList name) columns)

/-- The trimmed name of a full form. -/
def fullName (fields : List (String × Json)) : Except Error String :=
  match Json.field fields "name" with
  | .text name =>
    let trimmed := trim name.toList
    if trimmed.isEmpty then .error (.invalidRelationship .missingName)
    else .ok (String.ofList trimmed)
  | _ => .error (.invalidRelationship .missingName)

/-- Reads a full form, its nested list by the given reader. -/
def parseFull (limit : Nat) (nested : Json → Except Error (List Relationship))
    (fields : List (String × Json)) : Except Error Relationship := do
  let name ← fullName fields
  match (Json.field fields "columns").names? with
  | none => .error (.invalidRelationship (.columnsNotArray name))
  | some columns =>
    let filter ← Filter.parse limit (Json.field fields "filters")
    let relationships ← nested (Json.field fields "relationships")
    return .full name columns filter relationships

def parseEntry (limit : Nat) (nested : Json → Except Error (List Relationship)) :
    Json → Except Error Relationship
  | .text entry =>
    match Json.embedded? entry with
    | some (.object fields) => parseFull limit nested fields
    | _ => parseShort entry
  | .object fields => parseFull limit nested fields
  | other => .error (.invalidRelationship (.notEntry other))

/-- Reads a list with at most `room` levels, filters with at most `limit` levels each. -/
def parseWithin (limit : Nat) : Nat → Json → Except Error (List Relationship)
  | _, .null => .ok []
  | _, .array [] => .ok []
  | 0, .array (_ :: _) => .error (.nestingTooDeep limit)
  | room + 1, .array (item :: rest) =>
    (item :: rest).mapM (parseEntry limit fun raw => parseWithin limit room raw)
  | _, other => .error (.invalidRelationship (.notArray other))

/-- Reads a list whose nesting, and that of each of its filters, is at most `limit`. -/
def parse (limit : Nat) (raw : Json) : Except Error (List Relationship) :=
  parseWithin limit limit raw

end Relationship

end QueryShape
