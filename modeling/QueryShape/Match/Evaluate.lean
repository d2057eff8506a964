import QueryShape.Json.Compare
import QueryShape.Match.Like
import QueryShape.Query.Clause

/-!
# Which rows a clause selects

As in SQL, `and` binds tighter than `or`: a clause holds when all terms of one of its
runs between `or`s hold, and the empty clause always holds.  No comparison with null
holds, whatever the operator.
-/

namespace QueryShape

abbrev Row : Type := Fields Json

/-- The rows of the tables that relation tests look into. -/
abbrev RowSource : Type := String → List Row

def Row.column (row : Row) (column : String) : Json :=
  (row.get? (lastSegment column)).getD .null

/-- The text that patterns are matched against; null has none. -/
def Json.likeText? : Json → Option String
  | .null => none
  | .text s => some s
  | value => some value.render

def likeValues (actual pattern : Json) : Option Bool := do
  return like (← actual.likeText?) (← pattern.likeText?)

namespace Comparison

/-- The orderings that an operator accepts; patterns are not ordered. -/
def accepts : Comparison → Ordering → Bool
  | .eq, o => o == .eq
  | .ne, o => o != .eq
  | .lt, o => o == .lt
  | .le, o => o != .gt
  | .gt, o => o == .gt
  | .ge, o => o != .lt
  | .like, _ | .notLike, _ => false

def holds (op : Comparison) (actual expected : Json) : Bool :=
  match op with
  | .like => likeValues actual expected == some true
  | .notLike => likeValues actual expected == some false
  | op => (actual.compare? expected).any op.accepts

end Comparison

def ColumnTest.holds (actual : Json) : ColumnTest → Bool
  | .compare op expected => op.holds actual expected
  | .null negated => actual.isNull != negated

/-- Whether a value is in a list, or is not.  A null value is neither, unless the list is empty. -/
def inList (actual : Json) (values : List Json) (negated : Bool) : Bool :=
  if values.isEmpty then negated
  else if actual.isNull then false
  else values.any actual.equals != negated

/-- Whether some related row of a row passes a test of a column. -/
def relatedHolds (rows : RowSource) (correlation : Correlation) (column : String)
    (test : ColumnTest) (row : Row) : Bool :=
  let key := row.column correlation.parentKey
  !key.isNull && (rows correlation.relatedTable).any fun related =>
    (related.column correlation.relatedKey).equals key && test.holds (related.column column)

mutual

def Predicate.holds (rows : RowSource) (row : Row) : Predicate → Bool
  | .compare column op expected => op.holds (row.column column) expected
  | .null column negated => (row.column column).isNull != negated
  | .isIn column values negated => inList (row.column column) values negated
  | .related _ correlation column test => relatedHolds rows correlation column test row
  | .group terms => Clause.holds rows row terms

def Clause.holds (rows : RowSource) (row : Row) : List (Combinator × Predicate) → Bool
  | [] => true
  | (_, predicate) :: rest => Clause.holdsFrom rows row (predicate.holds rows row) rest

/-- Whether a clause holds whose current run has held so far, or has not. -/
def Clause.holdsFrom (rows : RowSource) (row : Row) (held : Bool) :
    List (Combinator × Predicate) → Bool
  | [] => held
  | (.and, predicate) :: rest =>
    Clause.holdsFrom rows row (held && predicate.holds rows row) rest
  | (.or, predicate) :: rest =>
    held || Clause.holdsFrom rows row (predicate.holds rows row) rest

end

end QueryShape
