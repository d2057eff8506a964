import QueryShape.Comparison
import QueryShape.Identifier
import QueryShape.Schema

/-!
# Where clauses

A clause is a list of predicates, each with the combinator that joins it to those
before it; the combinator of the first one is kept but has no meaning.  A predicate
compares a column, asks for a related row, or is a group, which is a clause again.
-/

namespace QueryShape

/-- How the rows of a related table belong to a row of the parent table. -/
structure Correlation where
  parentTable : String
  parentKey : String
  relatedTable : String
  relatedKey : String
deriving DecidableEq

inductive ColumnTest where
  | compare (op : Comparison) (value : Json)
  | null (negated : Bool)
deriving DecidableEq

/-- Equality with null asks whether the column is null. -/
def ColumnTest.ofComparison : Comparison → Json → ColumnTest
  | .eq, .null => .null false
  | .ne, .null => .null true
  | op, value => .compare op value

inductive Predicate where
  | compare (column : String) (op : Comparison) (value : Json)
  | null (column : String) (negated : Bool)
  | isIn (column : String) (values : List Json) (negated : Bool)
  | related (relation : String) (correlation : Correlation) (column : String) (test : ColumnTest)
  | group (terms : List (Combinator × Predicate))

abbrev Clause : Type := List (Combinator × Predicate)

mutual

def Predicate.decEq : (p q : Predicate) → Decidable (p = q)
  | .compare c op v, q =>
    match q with
    | .compare c' op' v' => decidable_of_iff (c = c' ∧ op = op' ∧ v = v') (by simp)
    | .null _ _ | .isIn _ _ _ | .related _ _ _ _ | .group _ => isFalse nofun
  | .null c n, q =>
    match q with
    | .null c' n' => decidable_of_iff (c = c' ∧ n = n') (by simp)
    | .compare _ _ _ | .isIn _ _ _ | .related _ _ _ _ | .group _ => isFalse nofun
  | .isIn c vs n, q =>
    match q with
    | .isIn c' vs' n' => decidable_of_iff (c = c' ∧ vs = vs' ∧ n = n') (by simp)
    | .compare _ _ _ | .null _ _ | .related _ _ _ _ | .group _ => isFalse nofun
  | .related r j c t, q =>
    match q with
    | .related r' j' c' t' => decidable_of_iff (r = r' ∧ j = j' ∧ c = c' ∧ t = t') (by simp)
    | .compare _ _ _ | .null _ _ | .isIn _ _ _ | .group _ => isFalse nofun
  | .group ts, q =>
    match q with
    | .group ts' =>
      match Clause.decEq ts ts' with
      | isTrue h => isTrue (h ▸ rfl)
      | isFalse h => isFalse fun e => h (Predicate.group.inj e)
    | .compare _ _ _ | .null _ _ | .isIn _ _ _ | .related _ _ _ _ => isFalse nofun

def Clause.decEq : (xs ys : List (Combinator × Predicate)) → Decidable (xs = ys)
  | [], [] => isTrue rfl
  | [], _ :: _ => isFalse nofun
  | _ :: _, [] => isFalse nofun
  | (b, p) :: xs, (c, q) :: ys =>
    if h : b = c then
      match Predicate.decEq p q, Clause.decEq xs ys with
      | isTrue hp, isTrue hs => isTrue (h ▸ hp ▸ hs ▸ rfl)
      | isFalse hp, _ => isFalse fun e => hp (Prod.mk.inj (List.cons.inj e).1).2
      | _, isFalse hs => isFalse fun e => hs (List.cons.inj e).2
    else
      isFalse fun e => h (Prod.mk.inj (List.cons.inj e).1).1

end

instance : DecidableEq Predicate := Predicate.decEq

namespace Clause

def add (clause : Clause) (combinator : Combinator) (predicate : Predicate) : Clause :=
  clause ++ [(combinator, predicate)]

/-- Adds a group unless it is empty. -/
def addGroup (clause : Clause) (combinator : Combinator) (inner : Clause) : Clause :=
  if inner.isEmpty then clause else clause.add combinator (.group inner)

end Clause

def identifier (s : String) : Except Error String :=
  if isIdentifier s then .ok s else .error (.invalidIdentifier s)

namespace Predicate

def ofComparison (column : String) (op : Comparison) (value : Json) : Except Error Predicate := do
  return .compare (← identifier column) op value

def ofNull (column : String) (negated : Bool) : Except Error Predicate := do
  return .null (← identifier column) negated

def ofList (column : String) (values : List Json) (negated : Bool) : Except Error Predicate := do
  return .isIn (← identifier column) values negated

end Predicate

/-- What the conditions of a query may ask of other models. -/
inductive Scope where
  | plain
  | model (schema : Schema) (model : String)

namespace Scope

def testsRelations : Scope → Bool
  | .plain => false
  | .model _ _ => true

/-- The predicate that some row of a relation passes a test of a column. -/
def related (scope : Scope) (relation column : String) (op : Comparison) (value : Json) :
    Except Error Predicate :=
  match scope with
  | .plain => .error (.unsupportedPredicate relation)
  | .model schema parent => do
    let definition ← schema.relation parent relation
    let column ← identifier column
    return .related relation
      { parentTable := parent
        parentKey := definition.parentKey
        relatedTable := definition.model
        relatedKey := definition.relatedKey }
      column (.ofComparison op value)

end Scope

end QueryShape
