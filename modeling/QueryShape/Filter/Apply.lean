import QueryShape.Query.Clause
import QueryShape.Query.Run

/-!
# Applying filters to clauses

The terms of a filter are added to a clause from left to right, each with the
combinator before it and the first one with `and`.  A condition becomes a predicate
once its arguments are checked; a group is built on an empty clause and added whole.
The first faulty term ends the run, with the terms before it already added.
-/

namespace QueryShape

namespace Condition

def nameArg (kind : ConditionKind) (args : List Json) (index : Nat) (role : ArgumentRole) :
    Except Error String :=
  match args[index]? >>= Json.text? with
  | some name => .ok name
  | none => .error (.invalidArguments kind (.notName index role))

def expectCount (kind : ConditionKind) (args : List Json) (count : Nat) : Except Error Unit :=
  if args.length = count then .ok ()
  else .error (.invalidArguments kind (.wrongCount count args.length))

/-- The arguments from an offset on: a value, or an operator and a value. -/
def comparison (kind : ConditionKind) (args : List Json) (offset : Nat) :
    Except Error (Comparison × Json) :=
  match args.drop offset with
  | [value] => .ok (.eq, value)
  | [op, value] =>
    match op.text? >>= Comparison.ofToken? with
    | some op => .ok (op, value)
    | none => .error (.invalidArguments kind (.unknownOperator op))
  | _ => .error (.invalidArguments kind (.wrongComparisonCount (offset + 1) args.length))

/-- Equality with null asks whether the column is null. -/
def comparePredicate (column : String) : Comparison → Json → Except Error Predicate
  | .eq, .null => Predicate.ofNull column false
  | .ne, .null => Predicate.ofNull column true
  | op, value => Predicate.ofComparison column op value

def nullPredicate (kind : ConditionKind) (args : List Json) (negated : Bool) :
    Except Error Predicate := do
  expectCount kind args 1
  Predicate.ofNull (← nameArg kind args 0 .column) negated

def listPredicate (kind : ConditionKind) (args : List Json) (negated : Bool) :
    Except Error Predicate := do
  expectCount kind args 2
  let column ← nameArg kind args 0 .column
  match (args[1]? : Option Json) with
  | some (.array values) => Predicate.ofList column values negated
  | _ => .error (.invalidArguments kind .valuesNotArray)

def relationPredicate (scope : Scope) (args : List Json) : Except Error Predicate := do
  let relation ← nameArg .relation args 0 .relation
  let column ← nameArg .relation args 1 .column
  let (op, value) ← comparison .relation args 2
  scope.related relation column op value

/-- The predicate of a condition that is added with a combinator. -/
def predicate (scope : Scope) (combinator : Combinator) (condition : Condition) :
    Except Error Predicate :=
  let args := condition.args
  match condition.kind with
  | .compare => do
    let column ← nameArg .compare args 0 .column
    let (op, value) ← comparison .compare args 1
    comparePredicate column op value
  | .null => nullPredicate .null args false
  | .notNull => nullPredicate .notNull args true
  | .isIn => listPredicate .isIn args false
  | .notIn => listPredicate .notIn args true
  | .relation =>
    if scope.testsRelations then relationPredicate scope args
    else .error (.unsupportedPredicate (ConditionKind.operationName combinator .relation))

end Condition

mutual

/-- Adds a term with a combinator; `room` is the number of levels that a group may have. -/
def FilterTerm.addTo (scope : Scope) (limit room : Nat) (combinator : Combinator) :
    FilterTerm → Clause → Run Clause
  | .condition condition, clause =>
    Run.step clause fun clause =>
      (condition.predicate scope combinator).map (clause.add combinator)
  | .group chain, clause =>
    match room with
    | 0 => ⟨clause, some (.nestingTooDeep limit)⟩
    | room + 1 =>
      Run.step clause fun clause =>
        ((chain.addTo scope limit room .and []).result).map (clause.addGroup combinator)

/-- Adds a chain whose first term is joined by a combinator. -/
def FilterChain.addTo (scope : Scope) (limit room : Nat) (combinator : Combinator) :
    FilterChain → Clause → Run Clause
  | .one term, clause => term.addTo scope limit room combinator clause
  | .join term next rest, clause =>
    (term.addTo scope limit room combinator clause).andThen fun clause =>
      rest.addTo scope limit room next clause

end

/-- Adds a filter with at most `limit` levels; without any level not even the empty one. -/
def Filter.addTo (scope : Scope) (limit : Nat) (filter : Filter) (clause : Clause) : Run Clause :=
  match limit, filter with
  | 0, _ => ⟨clause, some (.nestingTooDeep limit)⟩
  | _ + 1, .empty => .done clause
  | room + 1, .chain terms => terms.addTo scope limit room .and clause

end QueryShape
