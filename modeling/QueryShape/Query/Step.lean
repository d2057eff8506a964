import QueryShape.Filter.Parser
import QueryShape.Query.Backend

/-!
# Building steps

A query is built by steps.  The steps inside a group or a load work on a query of
their own and stop at the first failure, which is then the failure of the whole step.
-/

namespace QueryShape

inductive BuildStep where
  | project (columns : List String)
  | compare (combinator : Combinator) (column : String) (op : Comparison) (value : Json)
  | null (combinator : Combinator) (column : String) (negated : Bool)
  | isIn (combinator : Combinator) (column : String) (values : List Json) (negated : Bool)
  | related (combinator : Combinator) (relation column : String) (op : Comparison) (value : Json)
  | group (combinator : Combinator) (steps : List BuildStep)
  | load (relation : String) (steps : List BuildStep)
  | filter (limit : Nat) (raw : Json)

mutual

def BuildStep.run {Q : Type} (backend : Backend Q) : BuildStep → Q → Run Q
  | .project columns, query => .step query (backend.project columns)
  | .compare combinator column op value, query =>
    .step query (backend.compare combinator column op value)
  | .null combinator column negated, query =>
    .step query (backend.null combinator column negated)
  | .isIn combinator column values negated, query =>
    .step query (backend.isIn combinator column values negated)
  | .related combinator relation column op value, query =>
    .step query (backend.related combinator relation column op value)
  | .group combinator steps, query =>
    .step query <| backend.group combinator fun inner =>
      (BuildStep.runAll backend steps inner).result
  | .load relation steps, query =>
    .step query <| backend.load relation fun inner =>
      (BuildStep.runAll backend steps inner).result
  | .filter limit raw, query =>
    match Filter.parse limit raw with
    | .ok parsed => backend.filter limit parsed query
    | .error failure => ⟨query, some failure⟩

def BuildStep.runAll {Q : Type} (backend : Backend Q) : List BuildStep → Q → Run Q
  | [], query => .done query
  | step :: rest, query =>
    (step.run backend query).andThen fun query => BuildStep.runAll backend rest query

end

end QueryShape
