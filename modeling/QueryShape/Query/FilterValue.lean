import QueryShape.Query.Clause

/-!
# Clauses as filters

A clause is given back as the filter that asks for it: an array of conditions and
groups with the combinators between them.
-/

namespace QueryShape

def conditionValue (kind : ConditionKind) (args : List Json) : Json :=
  .object [("type", .text kind.name), ("args", .array args)]

def ColumnTest.args : ColumnTest → List Json
  | .compare op value => [.text op.token, value]
  | .null negated => [.text (if negated then Comparison.ne.token else Comparison.eq.token), .null]

mutual

def Predicate.filterValue : Predicate → Json
  | .compare column op value =>
    conditionValue .compare [.text column, .text op.token, value]
  | .null column negated =>
    conditionValue (if negated then .notNull else .null) [.text column]
  | .isIn column values negated =>
    conditionValue (if negated then .notIn else .isIn) [.text column, .array values]
  | .related relation _ column test =>
    conditionValue .relation ([.text relation, .text column] ++ test.args)
  | .group terms => .array (Clause.filterItems terms)

def Clause.filterItems : List (Combinator × Predicate) → List Json
  | [] => []
  | (_, predicate) :: rest => predicate.filterValue :: Clause.filterRest rest

def Clause.filterRest : List (Combinator × Predicate) → List Json
  | [] => []
  | (combinator, predicate) :: rest =>
    .text combinator.token :: predicate.filterValue :: Clause.filterRest rest

end

def Clause.filterValue (clause : Clause) : Json :=
  .array (Clause.filterItems clause)

end QueryShape
