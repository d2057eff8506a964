import QueryShape.Json.Basic
import QueryShape.Json.Printer

/-!
# Filters

A filter is empty or a chain: terms joined by combinators.  A term is a condition or
a group, which is a chain again.  So terms and combinators alternate, a chain starts
and ends with a term, and no group is empty.
-/

namespace QueryShape

inductive Combinator where
  | and
  | or
deriving DecidableEq

namespace Combinator

/-- ASCII letters may have any case; nothing else may stand around the word. -/
def ofToken? (token : String) : Option Combinator :=
  match String.ofList (token.toList.map Char.toLower) with
  | "and" => some .and
  | "or" => some .or
  | _ => none

def token : Combinator → String
  | .and => "and"
  | .or => "or"

def sql : Combinator → String
  | .and => "AND"
  | .or => "OR"

end Combinator

inductive ConditionKind where
  | compare
  | null
  | notNull
  | relation
  | isIn
  | notIn
deriving DecidableEq

namespace ConditionKind

def ofName? : String → Option ConditionKind
  | "where" => some .compare
  | "null" | "whereNull" => some .null
  | "notNull" | "whereNotNull" => some .notNull
  | "whereRel" | "whereRelation" => some .relation
  | "in" | "whereIn" => some .isIn
  | "notIn" | "whereNotIn" => some .notIn
  | _ => none

def name : ConditionKind → String
  | .compare => "where"
  | .null => "null"
  | .notNull => "notNull"
  | .relation => "whereRel"
  | .isIn => "in"
  | .notIn => "notIn"

/-- Whether the condition asks for rows of another model. -/
def testsRelation : ConditionKind → Bool
  | .relation => true
  | _ => false

/-- The name of the operation that adds a condition with a combinator. -/
def operationName : Combinator → ConditionKind → String
  | .and, .compare => "where"
  | .or, .compare => "orWhere"
  | .and, .null => "whereNull"
  | .or, .null => "orWhereNull"
  | .and, .notNull => "whereNotNull"
  | .or, .notNull => "orWhereNotNull"
  | .and, .relation => "whereRelation"
  | .or, .relation => "orWhereRelation"
  | .and, .isIn => "whereIn"
  | .or, .isIn => "orWhereIn"
  | .and, .notIn => "whereNotIn"
  | .or, .notIn => "orWhereNotIn"

end ConditionKind

/-- A condition as it was asked for; its arguments are checked when it is applied. -/
structure Condition where
  kind : ConditionKind
  args : List Json
deriving DecidableEq

mutual

inductive FilterTerm where
  | condition (condition : Condition)
  | group (chain : FilterChain)

inductive FilterChain where
  | one (term : FilterTerm)
  | join (term : FilterTerm) (combinator : Combinator) (rest : FilterChain)

end

inductive Filter where
  | empty
  | chain (terms : FilterChain)

namespace FilterChain

/-- The number of terms at the top of the chain. -/
def termCount : FilterChain → Nat
  | .one _ => 1
  | .join _ _ rest => rest.termCount + 1

end FilterChain

mutual

/-- Levels of nesting; a chain of conditions has one. -/
def FilterTerm.depth : FilterTerm → Nat
  | .condition _ => 0
  | .group chain => chain.depth

def FilterChain.depth : FilterChain → Nat
  | .one term => term.depth + 1
  | .join term _ rest => max (term.depth + 1) rest.depth

end

namespace Filter

def isEmpty : Filter → Bool
  | .empty => true
  | .chain _ => false

def termCount : Filter → Nat
  | .empty => 0
  | .chain terms => terms.termCount

/-- The number of terms and combinators. -/
def length (filter : Filter) : Nat :=
  2 * filter.termCount - 1

def depth : Filter → Nat
  | .empty => 0
  | .chain terms => terms.depth

end Filter

def Condition.render (condition : Condition) : String :=
  condition.kind.name ++ "(" ++ ", ".intercalate (condition.args.map Json.render) ++ ")"

mutual

def FilterTerm.render : FilterTerm → String
  | .condition condition => condition.render
  | .group chain => "(" ++ chain.render ++ ")"

def FilterChain.render : FilterChain → String
  | .one term => term.render
  | .join term combinator rest => term.render ++ " " ++ combinator.token ++ " " ++ rest.render

end

def Filter.render : Filter → String
  | .empty => ""
  | .chain terms => terms.render

end QueryShape
